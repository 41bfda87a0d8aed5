import TwoLevelPaging.Proofs.AddressSpace.Search

/-!
# What does not depend on the view

`machine.under view` is the machine seen through another view.  An action that
`Leads` somewhere ends, through every view that reaches the tables, with the same
value and with the same machine but for the view; so two things are shown at once
about it, that no view can tell the runs apart and what they do.

A view by physical address always reaches the tables, one through the self-map does
so while the last directory slot names the directory (`SeenThrough`).  The tables
themselves are to be `Traversable`; with the self-map in place they are `Walkable`.

Everything on the tables leads in this sense, down to the order of the single
stores.  Editing a frame outside the tables does not (`withFrame`), and it is left
out here.
-/

namespace TwoLevelPaging

namespace Machine

variable {source : Type} {machine before after : Machine source}

/-- The machine seen through another view. -/
def under (machine : Machine source) (view : View) : Machine source :=
  { machine with view := view }

theorem under_of_view_eq {view : View} (hView : machine.view = view) :
    machine.under view = machine := by
  subst hView
  rfl

/-- The machine has changed in its journal only, where events have been reported. -/
structure Unchanged (before after : Machine source) : Prop where
  memory : after.memory = before.memory
  source_eq : after.source = before.source
  root : after.root = before.root
  view : after.view = before.view
  journal : ∃ events, after.journal = before.journal.reportAll events

theorem Unchanged.refl (machine : Machine source) : Unchanged machine machine :=
  ⟨rfl, rfl, rfl, rfl, [], rfl⟩

theorem unchanged_note (machine : Machine source) (event : Event) :
    Unchanged machine (machine.note (.reported event)) :=
  ⟨rfl, rfl, rfl, rfl, [event], rfl⟩

/-- To report is to draw nothing from the source. -/
theorem Unchanged.exists_eq_draw (hUnchanged : Unchanged before after) :
    ∃ events, after = before.draw before.source events := by
  obtain ⟨memory, pool, root, view, journal⟩ := after
  obtain ⟨rfl, rfl, rfl, rfl, events, rfl⟩ := hUnchanged
  exact ⟨events, rfl⟩

/-- What an unchanged machine satisfies, if the journal does not matter for it. -/
theorem Unchanged.transfer (hUnchanged : Unchanged before after)
    (property : Machine source → Prop)
    (hJournal : ∀ journal, property before → property { before with journal := journal })
    (hBefore : property before) : property after := by
  obtain ⟨memory, pool, root, view, journal⟩ := after
  obtain ⟨rfl, rfl, rfl, rfl, -⟩ := hUnchanged
  exact hJournal journal hBefore

/-- The view reaches the tables of all slots: it withholds nothing, and if it uses the
self-map, this is in place. -/
def SeenThrough (machine : Machine source) (view : View) : Prop :=
  view.Unrestricted ∧
    (view.access = .selfMap → machine.link? Layout.selfMapSlot = some machine.root)

theorem seenThrough_physical (machine : Machine source) : machine.SeenThrough {} := by
  refine ⟨⟨rfl, rfl⟩, ?_⟩
  intro hAccess
  cases hAccess

theorem SeenThrough.congr {view : View} (hSeen : before.SeenThrough view)
    (hRoot : after.root = before.root)
    (hSelf : after.link? Layout.selfMapSlot = before.link? Layout.selfMapSlot) :
    after.SeenThrough view := by
  refine ⟨hSeen.1, ?_⟩
  intro hAccess
  rw [hSelf, hRoot]
  exact hSeen.2 hAccess

/-- The tables are separated, and what a slot links is installed, the last slot
included. -/
structure Traversable (machine : Machine source) : Prop extends machine.Separated where
  linked_installed : ∀ {slot table}, machine.link? slot = some table → machine.Installed table

theorem Traversable.navigable_under (hTraversable : machine.Traversable) {view : View}
    (hSeen : machine.SeenThrough view) : (machine.under view).Navigable where
  root_installed := hTraversable.root_installed
  table_installed := hTraversable.table_installed
  table_ne_root := hTraversable.table_ne_root
  slot_unique := hTraversable.slot_unique
  self_linked := hSeen.2

theorem Traversable.congr (hTraversable : before.Traversable) (hStays : Stays before after)
    (hLinks : ∀ slot, after.link? slot = before.link? slot) : after.Traversable := by
  refine ⟨hTraversable.toSeparated.congr hStays fun slot _ => hLinks slot, ?_⟩
  intro slot table hLink
  rw [hLinks] at hLink
  exact (hStays.installed table).mpr (hTraversable.linked_installed hLink)

/-- The tables are separated and the self-map is in place. -/
structure Walkable (machine : Machine source) : Prop extends machine.Separated where
  self_linked : machine.link? Layout.selfMapSlot = some machine.root

theorem Walkable.seenThrough (hWalkable : machine.Walkable) {view : View}
    (hOpen : view.Unrestricted) : machine.SeenThrough view :=
  ⟨hOpen, fun _ => hWalkable.self_linked⟩

theorem Walkable.navigable_under (hWalkable : machine.Walkable) (view : View) :
    (machine.under view).Navigable where
  root_installed := hWalkable.root_installed
  table_installed := hWalkable.table_installed
  table_ne_root := hWalkable.table_ne_root
  slot_unique := hWalkable.slot_unique
  self_linked _ := hWalkable.self_linked

theorem Walkable.navigable (hWalkable : machine.Walkable) : machine.Navigable :=
  hWalkable.navigable_under machine.view

/-- What is navigable through the self-map is so through every view. -/
theorem walkable_of_navigable (hNavigable : (machine.under { access := .selfMap }).Navigable) :
    machine.Walkable where
  root_installed := hNavigable.root_installed
  table_installed := hNavigable.table_installed
  table_ne_root := hNavigable.table_ne_root
  slot_unique := hNavigable.slot_unique
  self_linked := hNavigable.self_linked rfl

theorem Walkable.congr (hWalkable : before.Walkable) (hStays : Stays before after)
    (hLinks : ∀ slot, after.link? slot = before.link? slot) : after.Walkable := by
  refine ⟨hWalkable.toSeparated.congr hStays fun slot _ => hLinks slot, ?_⟩
  rw [hLinks, hStays.root]
  exact hWalkable.self_linked

/-- The table of a page is installed unless it is in the self-map, where it is the
directory. -/
theorem Walkable.installed (hWalkable : machine.Walkable) {slot : Slot} {table : Frame}
    (hLink : machine.link? slot = some table) : machine.Installed table := by
  by_cases hSlot : slot = Layout.selfMapSlot
  · rw [hSlot, hWalkable.self_linked] at hLink
    rw [← Option.some.inj hLink]
    exact hWalkable.root_installed
  · exact hWalkable.table_installed hSlot hLink

theorem Walkable.traversable (hWalkable : machine.Walkable) : machine.Traversable :=
  ⟨hWalkable.toSeparated, hWalkable.installed⟩

/-- Two slots do not link one table, the self-map slot included. -/
theorem Walkable.slot_eq (hWalkable : machine.Walkable) {first second : Slot} {table : Frame}
    (hFirst : machine.link? first = some table) (hSecond : machine.link? second = some table) :
    first = second := by
  by_cases hFirstSelf : first = Layout.selfMapSlot <;>
    by_cases hSecondSelf : second = Layout.selfMapSlot
  · exact hFirstSelf.trans hSecondSelf.symm
  · rw [hFirstSelf, hWalkable.self_linked] at hFirst
    exact absurd (Option.some.inj hFirst).symm (hWalkable.table_ne_root hSecondSelf hSecond)
  · rw [hSecondSelf, hWalkable.self_linked] at hSecond
    exact absurd (Option.some.inj hSecond).symm (hWalkable.table_ne_root hFirstSelf hFirst)
  · exact hWalkable.slot_unique hFirstSelf hSecondSelf hFirst hSecond

/-! ## The descriptions of the edits -/

theorem Ensured.under [FrameSource source] {slot : Slot} {user : Bool}
    {result : Except LinkError Frame} (hEnsured : Ensured machine slot user result after)
    (view : View) : Ensured (machine.under view) slot user result (after.under view) := by
  cases hEnsured with
  | present hLink =>
      rename_i table
      have hSame : (machine.widen slot table user).under view =
          (machine.under view).widen slot table user := by
        by_cases hWiden : (user && !(machine.linkAt slot).user) = true
        · have hWidenUnder : (user && !((machine.under view).linkAt slot).user) = true := hWiden
          rw [widen, if_pos hWiden, widen, if_pos hWidenUnder]
          rfl
        · have hWidenUnder : ¬ (user && !((machine.under view).linkAt slot).user) = true := hWiden
          rw [widen, if_neg hWiden, widen, if_neg hWidenUnder]
      rw [hSame]
      exact .present hLink
  | fresh hLink hTake hFresh => exact .fresh hLink hTake ⟨hFresh.1, hFresh.2, hFresh.3⟩
  | starved hLink hTake => exact .starved hLink hTake

/-- A table that is provided is prepared, however the tables are reached. -/
theorem Ensured.prepared_physical [FrameSource source] (hTraversable : machine.Traversable)
    {slot : Slot} (hSlot : slot ≠ Layout.selfMapSlot) {user : Bool} {table : Frame}
    (hEnsured : Ensured machine slot user (.ok table) after) :
    Prepared (machine.under {}) (after.under {}) slot table :=
  (hEnsured.under {}).prepared
    (hTraversable.navigable_under machine.seenThrough_physical) hSlot

theorem Ensured.self_link [FrameSource source] (hTraversable : machine.Traversable)
    {slot : Slot} (hSlot : slot ≠ Layout.selfMapSlot) {user : Bool}
    {result : Except LinkError Frame} (hEnsured : Ensured machine slot user result after) :
    after.root = machine.root ∧
      after.link? Layout.selfMapSlot = machine.link? Layout.selfMapSlot := by
  cases result with
  | ok table =>
      have hPrepared := hEnsured.prepared_physical hTraversable hSlot
      exact ⟨hPrepared.stays.root, hPrepared.link?_of_ne hSlot⟩
  | error cause =>
      cases hEnsured with
      | starved hLink hTake => exact ⟨rfl, rfl⟩

theorem Ensured.traversable [FrameSource source] (hTraversable : machine.Traversable)
    {slot : Slot} (hSlot : slot ≠ Layout.selfMapSlot) {user : Bool}
    {result : Except LinkError Frame} (hEnsured : Ensured machine slot user result after) :
    after.Traversable := by
  cases result with
  | ok table =>
      have hPrepared := hEnsured.prepared_physical hTraversable hSlot
      have hAfter := hPrepared.navigable
      refine ⟨⟨hAfter.root_installed, hAfter.table_installed, hAfter.table_ne_root,
        hAfter.slot_unique⟩, ?_⟩
      intro other linked hLink
      -- Only the link of the slot is new, and it lies below the self-map.
      by_cases hSame : slot = other
      · exact hAfter.table_installed (hSame ▸ hSlot) hLink
      · have hBefore : machine.link? other = some linked :=
          (hPrepared.link?_of_ne hSame).symm.trans hLink
        exact (hPrepared.stays.installed linked).mpr (hTraversable.linked_installed hBefore)
  | error cause =>
      cases hEnsured with
      | starved hLink hTake => exact hTraversable.congr (stays_draw _ _ _) fun _ => rfl

/-- A table is provided without harm to the tables that are there. -/
theorem Ensured.walkable [FrameSource source] (hWalkable : machine.Walkable) {slot : Slot}
    (hSlot : slot ≠ Layout.selfMapSlot) {user : Bool} {result : Except LinkError Frame}
    (hEnsured : Ensured machine slot user result after) : after.Walkable := by
  cases result with
  | ok table =>
      have hUnder := hEnsured.under { access := .selfMap }
      exact walkable_of_navigable
        (hUnder.prepared (hWalkable.navigable_under _) hSlot).navigable
  | error cause =>
      cases hEnsured with
      | starved hLink hTake =>
          rename_i pool events
          exact hWalkable.congr (machine.stays_draw pool events) fun _ => rfl

theorem Rewrites.traversable {page : VirtualPage} {entry : Entry}
    (hRewrites : Rewrites before after page entry) (hTraversable : before.Traversable) :
    after.Traversable :=
  hTraversable.congr hRewrites.stays hRewrites.link?_eq

theorem Rewrites.walkable {page : VirtualPage} {entry : Entry}
    (hRewrites : Rewrites before after page entry) (hWalkable : before.Walkable) :
    after.Walkable :=
  hWalkable.congr hRewrites.stays hRewrites.link?_eq

theorem under_place (machine : Machine source) (page : VirtualPage) (table : Frame)
    (entry : Entry) (view : View) :
    (machine.place page table entry).under view = (machine.under view).place page table entry := by
  cases hFree : (machine.entryAt page).isFree with
  | true =>
      have hFreeUnder : ((machine.under view).entryAt page).isFree = true := hFree
      rw [place, if_pos hFree, place, if_pos hFreeUnder]
      rfl
  | false =>
      have hFreeUnder : ((machine.under view).entryAt page).isFree = false := hFree
      rw [place, hFree, place, hFreeUnder]
      rfl

theorem under_vacate (machine : Machine source) (page : VirtualPage) (view : View) :
    (machine.vacate page).under view = (machine.under view).vacate page := by
  have hLinkUnder : (machine.under view).link? page.directorySlot =
      machine.link? page.directorySlot := rfl
  rw [vacate, vacate, hLinkUnder]
  cases machine.link? page.directorySlot <;> rfl

theorem Installs.under [FrameSource source] {page : VirtualPage} {frame : Frame}
    {flags : UInt32} {forced : Bool} {result : Except LinkError (Option Frame)}
    (hInstalls : Installs machine page frame flags forced result after) (view : View) :
    Installs (machine.under view) page frame flags forced result (after.under view) := by
  cases hInstalls with
  | refused hEnsured => exact .refused (hEnsured.under view)
  | occupied hEnsured hUsed hForced => exact .occupied (hEnsured.under view) hUsed hForced
  | placed hEnsured hAllowed =>
      rw [under_place]
      exact .placed (hEnsured.under view) hAllowed

/-- A mapping that is placed rewrites one entry after a table has been provided. -/
theorem Ensured.rewrites_place [FrameSource source] (hTraversable : machine.Traversable)
    {page : VirtualPage} (hPage : page.directorySlot ≠ Layout.selfMapSlot) {user : Bool}
    {table : Frame} (hEnsured : Ensured machine page.directorySlot user (.ok table) after)
    (entry : Entry) : Rewrites after (after.place page table entry) page entry :=
  Machine.rewrites_place (hEnsured.traversable hTraversable hPage).toSeparated hPage
    (hEnsured.prepared_physical hTraversable hPage).linked entry

theorem Installs.traversable [FrameSource source] (hTraversable : machine.Traversable)
    {page : VirtualPage} (hPage : page.directorySlot ≠ Layout.selfMapSlot) {frame : Frame}
    {flags : UInt32} {forced : Bool} {result : Except LinkError (Option Frame)}
    (hInstalls : Installs machine page frame flags forced result after) : after.Traversable := by
  cases hInstalls with
  | refused hEnsured => exact hEnsured.traversable hTraversable hPage
  | occupied hEnsured hUsed hForced => exact hEnsured.traversable hTraversable hPage
  | placed hEnsured hAllowed =>
      exact (hEnsured.rewrites_place hTraversable hPage _).traversable
        (hEnsured.traversable hTraversable hPage)

theorem Installs.self_link [FrameSource source] (hTraversable : machine.Traversable)
    {page : VirtualPage} (hPage : page.directorySlot ≠ Layout.selfMapSlot) {frame : Frame}
    {flags : UInt32} {forced : Bool} {result : Except LinkError (Option Frame)}
    (hInstalls : Installs machine page frame flags forced result after) :
    after.root = machine.root ∧
      after.link? Layout.selfMapSlot = machine.link? Layout.selfMapSlot := by
  cases hInstalls with
  | refused hEnsured => exact hEnsured.self_link hTraversable hPage
  | occupied hEnsured hUsed hForced => exact hEnsured.self_link hTraversable hPage
  | placed hEnsured hAllowed =>
      obtain ⟨hRoot, hSelf⟩ := hEnsured.self_link hTraversable hPage
      have hRewrites := hEnsured.rewrites_place hTraversable hPage (Entry.leaf frame flags)
      exact ⟨hRewrites.stays.root.trans hRoot, (hRewrites.link?_eq _).trans hSelf⟩

/-! ## Frames from the source -/

/-- What taking a frame does. -/
def Taken [FrameSource source] (before : Machine source) (found : Option Frame)
    (after : Machine source) : Prop :=
  ∃ pool events, FrameSource.take before.source = .ok (found, pool, events) ∧
    after = before.draw pool events

/-- What giving a frame back does. -/
def Released [FrameSource source] (before : Machine source) (frame : Frame)
    (after : Machine source) : Prop :=
  ∃ pool events, FrameSource.give before.source frame = .ok (pool, events) ∧
    after = before.draw pool events

theorem Taken.traversable [FrameSource source] {found : Option Frame}
    (hTaken : Taken before found after) (hTraversable : before.Traversable) :
    after.Traversable := by
  obtain ⟨pool, events, -, rfl⟩ := hTaken
  exact hTraversable.congr (before.stays_draw pool events) fun _ => rfl

theorem Taken.walkable [FrameSource source] {found : Option Frame}
    (hTaken : Taken before found after) (hWalkable : before.Walkable) : after.Walkable := by
  obtain ⟨pool, events, -, rfl⟩ := hTaken
  exact hWalkable.congr (before.stays_draw pool events) fun _ => rfl

end Machine

namespace Action

variable {source α β : Type} {machine after : Machine source}

/-- Through every view that reaches the tables the action ends with the same value and,
but for the view, with the same machine, whose tables the view still reaches; the two
satisfy `post`. -/
def Leads (action : Action source α) (machine : Machine source)
    (post : α → Machine source → Prop) : Prop :=
  ∃ value after, post value after ∧ ∀ view : View, machine.SeenThrough view →
    action.run (machine.under view) = .done value (after.under view) ∧ after.SeenThrough view

/-- An action leads to where its runs end, if it leaves the self-map alone. -/
theorem leads_of_run {action : Action source α} {post : α → Machine source → Prop} (value : α)
    (after : Machine source) (hPost : post value after) (hRoot : after.root = machine.root)
    (hSelf : after.link? Layout.selfMapSlot = machine.link? Layout.selfMapSlot)
    (hRun : ∀ view : View, machine.SeenThrough view →
      action.run (machine.under view) = .done value (after.under view)) :
    Leads action machine post :=
  ⟨value, after, hPost, fun view hSeen => ⟨hRun view hSeen, hSeen.congr hRoot hSelf⟩⟩

theorem Leads.pure {value : α} {post : α → Machine source → Prop} (hPost : post value machine) :
    Leads (pure value) machine post :=
  leads_of_run value machine hPost rfl rfl fun _ _ => rfl

theorem Leads.bind {first : Action source α} {next : α → Action source β}
    {middle : α → Machine source → Prop} {post : β → Machine source → Prop}
    (hFirst : Leads first machine middle)
    (hNext : ∀ value after, middle value after → Leads (next value) after post) :
    Leads (first >>= next) machine post := by
  obtain ⟨value, reached, hMiddle, hRun⟩ := hFirst
  obtain ⟨result, last, hPost, hRest⟩ := hNext value reached hMiddle
  refine ⟨result, last, hPost, ?_⟩
  intro view hSeen
  obtain ⟨hReached, hSeenThere⟩ := hRun view hSeen
  obtain ⟨hLast, hSeenLast⟩ := hRest view hSeenThere
  refine ⟨?_, hSeenLast⟩
  rw [run_bind, hReached, Outcome.andThen_done, hLast]

theorem Leads.map {action : Action source α} {change : α → β}
    {post : β → Machine source → Prop}
    (hLeads : Leads action machine fun value after => post (change value) after) :
    Leads (change <$> action) machine post := by
  obtain ⟨value, after, hPost, hRun⟩ := hLeads
  refine ⟨change value, after, hPost, ?_⟩
  intro view hSeen
  obtain ⟨hReached, hSeenThere⟩ := hRun view hSeen
  refine ⟨?_, hSeenThere⟩
  rw [run_map, hReached, Outcome.andThen_done]

theorem Leads.mono {action : Action source α} {first second : α → Machine source → Prop}
    (hLeads : Leads action machine first)
    (hImplies : ∀ value after, first value after → second value after) :
    Leads action machine second := by
  obtain ⟨value, after, hFirst, hRun⟩ := hLeads
  exact ⟨value, after, hImplies value after hFirst, hRun⟩

/-- The run through the view that the machine has. -/
theorem Leads.run {action : Action source α} {post : α → Machine source → Prop}
    (hLeads : Leads action machine post) (hSeen : machine.SeenThrough machine.view) :
    ∃ value after, action.run machine = .done value (after.under machine.view) ∧
      post value after := by
  obtain ⟨value, after, hPost, hRun⟩ := hLeads
  exact ⟨value, after, (hRun machine.view hSeen).1, hPost⟩

/-- An action that does not change the view runs to the machine it leads to. -/
theorem Leads.run_stays {action : Action source α} {post : α → Machine source → Prop}
    (hLeads : Leads action machine post) (hSeen : machine.SeenThrough machine.view)
    (hView : ∀ value after, post value after → after.view = machine.view) :
    ∃ value after, action.run machine = .done value after ∧ post value after := by
  obtain ⟨value, after, hRun, hPost⟩ := hLeads.run hSeen
  rw [Machine.under_of_view_eq (hView value after hPost)] at hRun
  exact ⟨value, after, hRun, hPost⟩

theorem leads_record (machine : Machine source) (effect : Effect) :
    Leads (record effect) machine fun _ after => after = machine.note effect :=
  leads_of_run () _ rfl rfl rfl fun _ _ => rfl

theorem leads_findFree (hTraversable : machine.Traversable) (page : VirtualPage) :
    Leads (findFree page) machine fun found after =>
      after = machine ∧ machine.FirstAvailable page.number found := by
  have hPhysical : (View.mk .physical true []).Unrestricted := ⟨rfl, rfl⟩
  obtain ⟨found, -, hFound⟩ :=
    exists_run_findFree (hTraversable.navigable_under machine.seenThrough_physical) hPhysical page
  refine leads_of_run found machine ⟨rfl, hFound⟩ rfl rfl ?_
  intro view hSeen
  obtain ⟨other, hRun, hOther⟩ :=
    exists_run_findFree (hTraversable.navigable_under hSeen) hSeen.1 page
  -- The least available page is the same one, whatever the view.
  rw [hRun, Machine.FirstAvailable.unique hOther hFound]

theorem leads_entry (hTraversable : machine.Traversable) (page : VirtualPage) :
    Leads ( entry? page) machine fun entry after =>
      after = machine ∧
        entry = (machine.link? page.directorySlot).map fun _ => machine.entryAt page :=
  leads_of_run _ machine ⟨rfl, rfl⟩ rfl rfl fun _ hSeen =>
    run_entry? (hTraversable.navigable_under hSeen) (hSeen.1.visible _)
      fun _ => hTraversable.linked_installed

theorem leads_remove (hTraversable : machine.Traversable) {page : VirtualPage}
    (hPage : page.directorySlot ≠ Layout.selfMapSlot) :
    Leads (remove page) machine fun entry after =>
      after = machine.vacate page ∧
        entry = (machine.link? page.directorySlot).map fun _ => machine.entryAt page := by
  have hRewrites := Machine.rewrites_vacate hTraversable.toSeparated hPage
  refine leads_of_run _ _ ⟨rfl, rfl⟩ hRewrites.stays.root (hRewrites.link?_eq _) ?_
  intro view hSeen
  rw [Machine.under_vacate]
  exact run_remove (hTraversable.navigable_under hSeen) (hSeen.1.visible _)
    fun _ => hTraversable.linked_installed

theorem leads_install [FrameSource source] (hTraversable : machine.Traversable)
    {page : VirtualPage} (hPage : page.directorySlot ≠ Layout.selfMapSlot) {frame : Frame}
    {flags : UInt32} {forced : Bool} {result : Except LinkError (Option Frame)}
    (hInstalls : machine.Installs page frame flags forced result after) :
    Leads (install page frame flags forced) machine
      (machine.Installs page frame flags forced) := by
  obtain ⟨hRoot, hSelf⟩ := hInstalls.self_link hTraversable hPage
  exact leads_of_run result after hInstalls hRoot hSelf fun view hSeen =>
    run_install (hTraversable.navigable_under hSeen) (hSeen.1.visible _) hPage
      (hInstalls.under view)

theorem leads_takeFrame [FrameSource source] {found : Option Frame}
    (hTaken : machine.Taken found after) : Leads takeFrame machine machine.Taken := by
  obtain ⟨pool, events, hTake, rfl⟩ := hTaken
  exact leads_of_run found _ ⟨pool, events, hTake, rfl⟩ rfl rfl fun _ _ => run_takeFrame hTake

theorem leads_giveFrame [FrameSource source] {frame : Frame}
    (hReleased : machine.Released frame after) :
    Leads (giveFrame frame) machine fun _ => machine.Released frame := by
  obtain ⟨pool, events, hGive, rfl⟩ := hReleased
  exact leads_of_run () _ ⟨pool, events, hGive, rfl⟩ rfl rfl fun _ _ => run_giveFrame hGive

end Action

end TwoLevelPaging
