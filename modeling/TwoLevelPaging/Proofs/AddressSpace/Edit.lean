import TwoLevelPaging.Proofs.AddressSpace.Access

/-!
# What an edit of the tables can do

Each edit of the tables ends in a machine that is written down here in terms of
the one it started from.  `Ensured` lists the three ways in which a table can be
provided for a slot, and `Installs` the ways in which a mapping can be installed;
both are complete descriptions, with their guards, and the running actions agree
with them (`run_ensureTable`, `run_install`).  `vacate` is the removal of a page.

A table that has been provided changes no page: `Prepared` collects what stays,
and it is all that the later files need to know about `ensureTable`.
-/

namespace TwoLevelPaging

namespace Machine

variable {source : Type} {machine before after last : Machine source}

/-! ## What no edit changes -/

/-- The root, the view and the installed memory are the same. -/
structure Stays (before after : Machine source) : Prop where
  root : after.root = before.root
  view : after.view = before.view
  installed : ∀ frame, after.Installed frame ↔ before.Installed frame

theorem Stays.refl (machine : Machine source) : Stays machine machine :=
  ⟨rfl, rfl, fun _ => Iff.rfl⟩

theorem Stays.trans (hFirst : Stays before after) (hSecond : Stays after last) :
    Stays before last :=
  ⟨hSecond.root.trans hFirst.root, hSecond.view.trans hFirst.view,
    fun frame => (hSecond.installed frame).trans (hFirst.installed frame)⟩

theorem stays_store (machine : Machine source) (frame : Frame) (slot : Slot) (entry : Entry) :
    Stays machine (machine.store frame slot entry) :=
  ⟨rfl, rfl, machine.installed_store frame slot entry⟩

theorem stays_clear (machine : Machine source) (frame : Frame) :
    Stays machine (machine.clear frame) :=
  ⟨rfl, rfl, machine.installed_clear frame⟩

theorem stays_note (machine : Machine source) (effect : Effect) :
    Stays machine (machine.note effect) :=
  ⟨rfl, rfl, fun _ => Iff.rfl⟩

theorem stays_draw (machine : Machine source) (pool : source) (events : List Event) :
    Stays machine (machine.draw pool events) :=
  ⟨rfl, rfl, fun _ => Iff.rfl⟩

/-- Separation is about the directory's links, the root and the installed frames. -/
theorem Separated.congr (hSeparated : before.Separated) (hStays : Stays before after)
    (hLinks : ∀ slot, slot ≠ Layout.selfMapSlot → after.link? slot = before.link? slot) :
    after.Separated := by
  constructor
  · rw [hStays.root]
    exact (hStays.installed _).mpr hSeparated.root_installed
  · intro slot table hSlot hLink
    rw [hLinks slot hSlot] at hLink
    exact (hStays.installed _).mpr (hSeparated.table_installed hSlot hLink)
  · intro slot table hSlot hLink
    rw [hLinks slot hSlot] at hLink
    rw [hStays.root]
    exact hSeparated.table_ne_root hSlot hLink
  · intro first second table hFirst hSecond hFirstLink hSecondLink
    rw [hLinks first hFirst] at hFirstLink
    rw [hLinks second hSecond] at hSecondLink
    exact hSeparated.slot_unique hFirst hSecond hFirstLink hSecondLink

theorem Navigable.congr (hNavigable : before.Navigable) (hStays : Stays before after)
    (hLinks : ∀ slot, after.link? slot = before.link? slot) : after.Navigable := by
  refine ⟨hNavigable.toSeparated.congr hStays fun slot _ => hLinks slot, ?_⟩
  intro hAccess
  rw [hStays.view] at hAccess
  rw [hLinks, hStays.root]
  exact hNavigable.self_linked hAccess

/-! ## Links -/

/-- The machine with a table linked at a slot, and the window page of the slot
invalidated. -/
def relink (machine : Machine source) (slot : Slot) (table : Frame) (flags : Flags) :
    Machine source :=
  (machine.store machine.root slot (Entry.link table flags)).note
    (.invalidated (Layout.tableWindow slot))

/-- The machine with unprivileged code admitted to a slot, if that is asked for. -/
def widen (machine : Machine source) (slot : Slot) (table : Frame) (user : Bool) :
    Machine source :=
  if user && !(machine.linkAt slot).user then
    machine.relink slot table { (machine.linkAt slot).toFlags with user := true }
  else
    machine

/-- The machine with a frame linked at a slot, whatever the frame holds. -/
def linkStale (machine : Machine source) (slot : Slot) (table : Frame) (user : Bool) :
    Machine source :=
  (machine.relink slot table { Flags.kernelReadWrite with user := user }).note
    (.reported (.tableLinked table slot))

/-- The machine with a cleared table linked at a slot. -/
def grow (machine : Machine source) (slot : Slot) (table : Frame) (user : Bool) :
    Machine source :=
  ((machine.relink slot table { Flags.kernelReadWrite with user := user }).note
    (.reported (.tableLinked table slot))).clear table

@[simp]
theorem source_widen (machine : Machine source) (slot : Slot) (table : Frame) (user : Bool) :
    (machine.widen slot table user).source = machine.source := by
  rw [widen]
  split <;> rfl

theorem stays_relink (machine : Machine source) (slot : Slot) (table : Frame) (flags : Flags) :
    Stays machine (machine.relink slot table flags) :=
  (machine.stays_store _ _ _).trans (stays_note _ _)

theorem linkAt_relink (hRoot : machine.Installed machine.root) (slot other : Slot)
    (table : Frame) (flags : Flags) :
    (machine.relink slot table flags).linkAt other =
      if slot = other then Entry.link table flags else machine.linkAt other :=
  linkAt_store_root hRoot slot other _

theorem link?_relink (hRoot : machine.Installed machine.root) (slot other : Slot)
    (table : Frame) (flags : Flags) :
    (machine.relink slot table flags).link? other =
      if slot = other then some table else machine.link? other := by
  rw [← Entry.presentFrame?_link table flags]
  exact link?_store_root hRoot slot other _

theorem stays_widen (machine : Machine source) (slot : Slot) (table : Frame) (user : Bool) :
    Stays machine (machine.widen slot table user) := by
  rw [widen]
  split
  · exact machine.stays_relink slot table _
  · exact .refl machine

theorem content_widen (machine : Machine source) (slot : Slot) (table : Frame) (user : Bool)
    {frame : Frame} (hFrame : frame ≠ machine.root) :
    (machine.widen slot table user).memory.content frame = machine.memory.content frame := by
  rw [widen]
  split
  · exact content_store_of_ne machine _ _ (Ne.symm hFrame)
  · rfl

theorem linkAt_widen_eq (hRoot : machine.Installed machine.root) (slot other : Slot)
    (table : Frame) (user : Bool) :
    (machine.widen slot table user).linkAt other =
      if slot = other ∧ (user && !(machine.linkAt slot).user) = true then
        Entry.link table { (machine.linkAt slot).toFlags with user := true }
      else machine.linkAt other := by
  rw [widen]
  split
  · rename_i hAdmit
    simp only [hAdmit, and_true]
    exact linkAt_relink hRoot slot other table _
  · rename_i hAdmit
    rw [if_neg fun hBoth => hAdmit hBoth.2]

/-- A frame that is linked without being cleared. -/
theorem linkAt_linkStale (hRoot : machine.Installed machine.root) (slot other : Slot)
    (table : Frame) (user : Bool) :
    (machine.linkStale slot table user).linkAt other =
      if slot = other then Entry.link table { Flags.kernelReadWrite with user := user }
      else machine.linkAt other :=
  linkAt_relink hRoot slot other table _

theorem stays_linkStale (machine : Machine source) (slot : Slot) (table : Frame) (user : Bool) :
    Stays machine (machine.linkStale slot table user) :=
  (machine.stays_relink slot table _).trans (stays_note _ _)

theorem content_linkStale (machine : Machine source) (slot : Slot) (table : Frame) (user : Bool)
    {frame : Frame} (hFrame : frame ≠ machine.root) :
    (machine.linkStale slot table user).memory.content frame = machine.memory.content frame :=
  content_store_of_ne machine _ _ (Ne.symm hFrame)

/-- A new link admits stores, and unprivileged code if that is asked for. -/
theorem linkAt_grow (hRoot : machine.Installed machine.root) {table : Frame}
    (hTable : table ≠ machine.root) (slot other : Slot) (user : Bool) :
    (machine.grow slot table user).linkAt other =
      if slot = other then Entry.link table { Flags.kernelReadWrite with user := user }
      else machine.linkAt other := by
  let linked := machine.linkStale slot table user
  have hLinkedTable : table ≠ linked.root := hTable
  show (linked.clear table).linkAt other = _
  rw [linkAt_clear_of_ne linked hLinkedTable]
  exact linkAt_linkStale hRoot slot other table user

theorem entryAt_relink (hSeparated : machine.Separated) {slot : Slot} {table : Frame}
    (hTable : table ≠ machine.root) (flags : Flags) {page : VirtualPage}
    (hPage : page.directorySlot ≠ Layout.selfMapSlot) :
    (machine.relink slot table flags).entryAt page =
      if slot = page.directorySlot then (machine.memory.content table).get page.tableSlot
      else machine.entryAt page :=
  entryAt_store_root hSeparated (Entry.presentFrame?_link table flags) hTable hPage

/-- A frame that can become a table: it is installed and no table yet. -/
structure Fresh (machine : Machine source) (table : Frame) : Prop where
  installed : machine.Installed table
  ne_root : table ≠ machine.root
  unlinked : ∀ slot, machine.link? slot ≠ some table

/-- Linking keeps the tables separated if the table has no other slot. -/
theorem Separated.relink (hSeparated : machine.Separated) {slot : Slot} {table : Frame}
    (hInstalled : machine.Installed table) (hTable : table ≠ machine.root)
    (hOnly : ∀ other, other ≠ Layout.selfMapSlot → machine.link? other = some table →
      slot = other) (flags : Flags) :
    (machine.relink slot table flags).Separated := by
  have hRoot := hSeparated.root_installed
  have hStays := machine.stays_relink slot table flags
  constructor
  · exact (hStays.installed _).mpr hRoot
  · intro other frame hOther hLink
    rw [hStays.installed]
    rw [link?_relink hRoot] at hLink
    by_cases hSame : slot = other
    · rw [if_pos hSame] at hLink
      rw [← Option.some.inj hLink]
      exact hInstalled
    · rw [if_neg hSame] at hLink
      exact hSeparated.table_installed hOther hLink
  · intro other frame hOther hLink
    rw [link?_relink hRoot] at hLink
    by_cases hSame : slot = other
    · rw [if_pos hSame] at hLink
      rw [← Option.some.inj hLink]
      exact hTable
    · rw [if_neg hSame] at hLink
      exact hSeparated.table_ne_root hOther hLink
  · intro first second frame hFirst hSecond hFirstLink hSecondLink
    rw [link?_relink hRoot] at hFirstLink hSecondLink
    -- If one of the two slots is the new one, the table had no other slot before.
    by_cases hSameFirst : slot = first <;> by_cases hSameSecond : slot = second
    · exact hSameFirst.symm.trans hSameSecond
    · rw [if_pos hSameFirst] at hFirstLink
      rw [if_neg hSameSecond, ← hFirstLink] at hSecondLink
      exact absurd (hOnly second hSecond hSecondLink) hSameSecond
    · rw [if_pos hSameSecond] at hSecondLink
      rw [if_neg hSameFirst, ← hSecondLink] at hFirstLink
      exact absurd (hOnly first hFirst hFirstLink) hSameFirst
    · rw [if_neg hSameFirst] at hFirstLink
      rw [if_neg hSameSecond] at hSecondLink
      exact hSeparated.slot_unique hFirst hSecond hFirstLink hSecondLink

theorem Navigable.relink (hNavigable : machine.Navigable) {slot : Slot} {table : Frame}
    (hSlot : slot ≠ Layout.selfMapSlot) (hInstalled : machine.Installed table)
    (hTable : table ≠ machine.root)
    (hOnly : ∀ other, other ≠ Layout.selfMapSlot → machine.link? other = some table →
      slot = other) (flags : Flags) :
    (machine.relink slot table flags).Navigable := by
  refine ⟨hNavigable.toSeparated.relink hInstalled hTable hOnly flags, ?_⟩
  intro hAccess
  rw [link?_relink hNavigable.root_installed, if_neg hSlot]
  exact hNavigable.self_linked hAccess

/-- A fresh frame that is linked keeps the tables navigable, whatever it holds. -/
theorem Navigable.linkStale (hNavigable : machine.Navigable) {slot : Slot} {table : Frame}
    (hSlot : slot ≠ Layout.selfMapSlot) (hFresh : machine.Fresh table) (user : Bool) :
    (machine.linkStale slot table user).Navigable := by
  have hRelinked := hNavigable.relink hSlot hFresh.installed hFresh.ne_root
    (fun other _ hOther => absurd hOther (hFresh.unlinked other))
    { Flags.kernelReadWrite with user := user }
  exact hRelinked.congr (stays_note _ _) fun _ => rfl

/-! ## Providing a table -/

/-- The ways in which a table is provided for a slot: it is there already, a fresh
frame becomes it, or no frame is left. -/
inductive Ensured [FrameSource source] (machine : Machine source) (slot : Slot) (user : Bool) :
    Except LinkError Frame → Machine source → Prop
  | present {table : Frame} (hLink : machine.link? slot = some table) :
      Ensured machine slot user (.ok table) (machine.widen slot table user)
  | fresh {table : Frame} {pool : source} {events : List Event}
      (hLink : machine.link? slot = none)
      (hTake : FrameSource.take machine.source = .ok (some table, pool, events))
      (hFresh : machine.Fresh table) :
      Ensured machine slot user (.ok table) ((machine.draw pool events).grow slot table user)
  | starved {pool : source} {events : List Event} (hLink : machine.link? slot = none)
      (hTake : FrameSource.take machine.source = .ok (none, pool, events)) :
      Ensured machine slot user (.error .outOfMemory) (machine.draw pool events)

/-- What providing a table leaves as it is: every page, every other link, and
every frame but the directory and a new table. -/
structure Prepared (before after : Machine source) (slot : Slot) (table : Frame) : Prop where
  stays : Stays before after
  navigable : after.Navigable
  linked : after.link? slot = some table
  linkAt_of_ne : ∀ other, slot ≠ other → after.linkAt other = before.linkAt other
  entries : ∀ page : VirtualPage, page.directorySlot ≠ Layout.selfMapSlot →
    after.entryAt page = before.entryAt page
  contents : ∀ frame, frame ≠ before.root → (before.link? slot = none → frame ≠ table) →
    after.memory.content frame = before.memory.content frame

theorem Prepared.link?_of_ne {slot other : Slot} {table : Frame}
    (hPrepared : Prepared before after slot table) (hOther : slot ≠ other) :
    after.link? other = before.link? other := by
  rw [link?, hPrepared.linkAt_of_ne other hOther, link?]

theorem Prepared.entryAt_eq {page : VirtualPage} {table : Frame}
    (hPrepared : Prepared before after page.directorySlot table)
    (hPage : page.directorySlot ≠ Layout.selfMapSlot) :
    before.entryAt page = (after.memory.content table).get page.tableSlot := by
  rw [← hPrepared.entries page hPage, entryAt_of_linked hPrepared.linked]

/-- A table that has been provided is reached at its location. -/
theorem Prepared.reaches_table {slot : Slot} {table : Frame}
    (hPrepared : Prepared before after slot table) (hSlot : slot ≠ Layout.selfMapSlot) :
    after.Reaches (before.tableLocation slot table) table := by
  have hReaches := hPrepared.navigable.reaches_tableLocation hPrepared.linked
    (hPrepared.navigable.table_installed hSlot hPrepared.linked)
  rw [tableLocation, hPrepared.stays.view] at hReaches
  exact hReaches

theorem prepared_widen (hNavigable : machine.Navigable) {slot : Slot} {table : Frame}
    (hSlot : slot ≠ Layout.selfMapSlot) (hLink : machine.link? slot = some table)
    (user : Bool) : Prepared machine (machine.widen slot table user) slot table := by
  have hRoot := hNavigable.root_installed
  have hTable := hNavigable.table_ne_root hSlot hLink
  by_cases hAdmit : (user && !(machine.linkAt slot).user) = true
  · simp only [widen, hAdmit, if_true]
    refine ⟨machine.stays_relink _ _ _, ?_, ?_, ?_, ?_, ?_⟩
    · refine hNavigable.relink hSlot (hNavigable.table_installed hSlot hLink) hTable ?_ _
      intro other hOther hOtherLink
      exact hNavigable.slot_unique hSlot hOther hLink hOtherLink
    · rw [link?_relink hRoot, if_pos rfl]
    · intro other hOther
      rw [linkAt_relink hRoot, if_neg hOther]
    · intro page hPage
      rw [entryAt_relink hNavigable.toSeparated hTable _ hPage]
      by_cases hSame : slot = page.directorySlot
      · rw [if_pos hSame, entryAt_of_linked (hSame ▸ hLink)]
      · rw [if_neg hSame]
    · intro frame hFrame _
      exact content_store_of_ne machine _ _ (Ne.symm hFrame)
  · simp only [widen, hAdmit]
    exact ⟨Stays.refl machine, hNavigable, hLink, fun _ _ => rfl, fun _ _ => rfl,
      fun _ _ _ => rfl⟩

theorem prepared_grow (hNavigable : machine.Navigable) {slot : Slot} {table : Frame}
    (hSlot : slot ≠ Layout.selfMapSlot) (hLink : machine.link? slot = none)
    (hFresh : machine.Fresh table) (user : Bool) :
    Prepared machine (machine.grow slot table user) slot table := by
  have hRoot := hNavigable.root_installed
  have hTable := hFresh.ne_root
  let linked := machine.linkStale slot table user
  have hStays : Stays machine linked := machine.stays_linkStale slot table user
  have hLinks : ∀ other, linked.link? other =
      if slot = other then some table else machine.link? other :=
    fun other => link?_relink hRoot slot other table _
  have hLinkedTable : table ≠ linked.root := hTable
  have hCleared : ∀ other, (linked.clear table).linkAt other = linked.linkAt other :=
    linkAt_clear_of_ne linked hLinkedTable
  have hNavigableLinked : linked.Navigable := hNavigable.linkStale hSlot hFresh user
  show Prepared machine (linked.clear table) slot table
  refine ⟨hStays.trans (stays_clear _ _), ?_, ?_, ?_, ?_, ?_⟩
  · exact hNavigableLinked.congr (stays_clear _ _) fun other => by
      rw [link?, hCleared, link?]
  · rw [link?, hCleared]
    exact (hLinks slot).trans (if_pos rfl)
  · intro other hOther
    exact (linkAt_grow hRoot hTable slot other user).trans (if_neg hOther)
  -- Clearing is what the pages of the slot need: without a table they were free.
  · intro page hPage
    rw [entryAt_clear hLinkedTable ((hStays.installed _).mpr hFresh.installed), hLinks]
    by_cases hSame : slot = page.directorySlot
    · rw [if_pos hSame, if_pos rfl, entryAt_of_unlinked (hSame ▸ hLink)]
    · rw [if_neg hSame, if_neg (hFresh.unlinked _)]
      exact (entryAt_relink hNavigable.toSeparated hTable _ hPage).trans (if_neg hSame)
  · intro frame hFrame hNew
    rw [content_clear_of_ne linked (Ne.symm (hNew hLink))]
    exact machine.content_linkStale slot table user hFrame

theorem Ensured.prepared [FrameSource source] (hNavigable : machine.Navigable) {slot : Slot}
    (hSlot : slot ≠ Layout.selfMapSlot) {user : Bool} {table : Frame}
    (hEnsured : Ensured machine slot user (.ok table) after) :
    Prepared machine after slot table := by
  cases hEnsured with
  | present hLink => exact prepared_widen hNavigable hSlot hLink user
  | fresh hLink hTake hFresh =>
      rename_i pool events
      have hDrawn : (machine.draw pool events).Navigable :=
        hNavigable.congr (machine.stays_draw pool events) fun _ => rfl
      have hDrawnFresh : (machine.draw pool events).Fresh table :=
        ⟨hFresh.installed, hFresh.ne_root, hFresh.unlinked⟩
      have hPrepared := prepared_grow hDrawn hSlot hLink hDrawnFresh user
      exact ⟨(machine.stays_draw pool events).trans hPrepared.stays, hPrepared.navigable,
        hPrepared.linked, hPrepared.linkAt_of_ne, hPrepared.entries, hPrepared.contents⟩

/-- A slot that links a table keeps it. -/
theorem Ensured.table_eq_of_linked [FrameSource source] {slot : Slot} {user : Bool}
    {table linked : Frame} (hEnsured : Ensured machine slot user (.ok table) after)
    (hLinked : machine.link? slot = some linked) : table = linked := by
  cases hEnsured with
  | present hLink =>
      rw [hLink] at hLinked
      exact Option.some.inj hLinked
  | fresh hLink hTake hFresh =>
      rw [hLink] at hLinked
      cases hLinked

/-! ## Installing and removing a mapping -/

/-- The machine with an entry stored for a page.  The page of an entry that was in use
is invalidated. -/
def place (machine : Machine source) (page : VirtualPage) (table : Frame) (entry : Entry) :
    Machine source :=
  if (machine.entryAt page).isFree then
    machine.store table page.tableSlot entry
  else
    (machine.store table page.tableSlot entry).note (.invalidated page)

/-- The machine with the entry of a page cleared, if the page has a table. -/
def vacate (machine : Machine source) (page : VirtualPage) : Machine source :=
  match machine.link? page.directorySlot with
  | none => machine
  | some table => (machine.store table page.tableSlot Entry.zero).note (.invalidated page)

@[simp]
theorem source_place (machine : Machine source) (page : VirtualPage) (table : Frame)
    (entry : Entry) : (machine.place page table entry).source = machine.source := by
  rw [place]
  split <;> rfl

/-- The ways in which a mapping is installed: there is no table for it, its entry
is in use, or it is placed and the frame of the previous entry comes back. -/
inductive Installs [FrameSource source] (machine : Machine source) (page : VirtualPage)
    (frame : Frame) (flags : UInt32) (forced : Bool) :
    Except LinkError (Option Frame) → Machine source → Prop
  | refused {cause : LinkError} {after : Machine source}
      (hEnsured :
        Ensured machine page.directorySlot (Flags.ofWord flags).user (.error cause) after) :
      Installs machine page frame flags forced (.error cause) after
  | occupied {table : Frame} {after : Machine source}
      (hEnsured : Ensured machine page.directorySlot (Flags.ofWord flags).user (.ok table) after)
      (hUsed : (machine.entryAt page).isFree = false) (hForced : forced = false) :
      Installs machine page frame flags forced (.error .occupied) after
  | placed {table : Frame} {after : Machine source}
      (hEnsured : Ensured machine page.directorySlot (Flags.ofWord flags).user (.ok table) after)
      (hAllowed : (machine.entryAt page).isFree = true ∨ forced = true) :
      Installs machine page frame flags forced (.ok (machine.entryAt page).storedFrame?)
        (after.place page table (Entry.leaf frame flags))

/-- A change of one page: its entry is `entry` afterwards.  The links, all other
pages below the self-map, and all frames but the page's table stay. -/
structure Rewrites (before after : Machine source) (page : VirtualPage) (entry : Entry) :
    Prop where
  stays : Stays before after
  source_eq : after.source = before.source
  links : ∀ slot, after.linkAt slot = before.linkAt slot
  entries : ∀ other : VirtualPage, other.directorySlot ≠ Layout.selfMapSlot →
    after.entryAt other = if other = page then entry else before.entryAt other
  contents : ∀ frame, before.link? page.directorySlot ≠ some frame →
    after.memory.content frame = before.memory.content frame

theorem Rewrites.link?_eq {page : VirtualPage} {entry : Entry}
    (hRewrites : Rewrites before after page entry) (slot : Slot) :
    after.link? slot = before.link? slot := by
  rw [link?, hRewrites.links, link?]

theorem Rewrites.note {page : VirtualPage} {entry : Entry}
    (hRewrites : Rewrites before after page entry) (effect : Effect) :
    Rewrites before (after.note effect) page entry :=
  ⟨hRewrites.stays.trans (stays_note _ _), hRewrites.source_eq, hRewrites.links,
    hRewrites.entries, hRewrites.contents⟩

theorem rewrites_place (hSeparated : machine.Separated) {page : VirtualPage} {table : Frame}
    (hPage : page.directorySlot ≠ Layout.selfMapSlot)
    (hLink : machine.link? page.directorySlot = some table) (entry : Entry) :
    Rewrites machine (machine.place page table entry) page entry := by
  have hRoot := hSeparated.table_ne_root hPage hLink
  have hStored : Rewrites machine (machine.store table page.tableSlot entry) page entry := by
    refine ⟨machine.stays_store _ _ _, rfl, ?_, ?_, ?_⟩
    · intro slot
      exact linkAt_store_of_ne machine hRoot _ _ _
    · intro other hOther
      exact entryAt_store_table hSeparated hPage hOther hLink entry
    · intro frame hFrame
      refine content_store_of_ne machine _ _ ?_
      rintro rfl
      exact hFrame hLink
  unfold place
  split
  · exact hStored
  · exact hStored.note _

theorem rewrites_vacate (hSeparated : machine.Separated) {page : VirtualPage}
    (hPage : page.directorySlot ≠ Layout.selfMapSlot) :
    Rewrites machine (machine.vacate page) page Entry.zero := by
  cases hLink : machine.link? page.directorySlot with
  | none =>
      simp only [vacate, hLink]
      refine ⟨Stays.refl machine, rfl, fun _ => rfl, ?_, fun _ _ => rfl⟩
      intro other _
      by_cases hSame : other = page
      · rw [if_pos hSame, hSame, entryAt_of_unlinked hLink]
      · rw [if_neg hSame]
  | some table =>
      simp only [vacate, hLink]
      refine ⟨(machine.stays_store _ _ _).trans (stays_note _ _), rfl, ?_, ?_, ?_⟩
      · intro slot
        exact linkAt_store_of_ne machine (hSeparated.table_ne_root hPage hLink) _ _ _
      · intro other hOther
        exact entryAt_store_table hSeparated hPage hOther hLink Entry.zero
      · intro frame hFrame
        rw [hLink] at hFrame
        exact content_store_of_ne machine _ _ fun hSame => hFrame (congrArg some hSame)

/-- Providing a table changes no page, even when it fails. -/
theorem Ensured.entries [FrameSource source] (hNavigable : machine.Navigable) {slot : Slot}
    (hSlot : slot ≠ Layout.selfMapSlot) {user : Bool} {result : Except LinkError Frame}
    (hEnsured : Ensured machine slot user result after) {page : VirtualPage}
    (hPage : page.directorySlot ≠ Layout.selfMapSlot) :
    after.entryAt page = machine.entryAt page := by
  cases result with
  | ok table => exact (hEnsured.prepared hNavigable hSlot).entries page hPage
  | error cause =>
      cases hEnsured with
      | starved hLink hTake => rfl

/-- A mapping that is refused changes no page. -/
theorem Installs.entries_of_error [FrameSource source] (hNavigable : machine.Navigable)
    {page : VirtualPage} (hPage : page.directorySlot ≠ Layout.selfMapSlot) {frame : Frame}
    {flags : UInt32} {forced : Bool} {cause : LinkError}
    (hInstalls : Installs machine page frame flags forced (.error cause) after)
    {other : VirtualPage} (hOther : other.directorySlot ≠ Layout.selfMapSlot) :
    after.entryAt other = machine.entryAt other := by
  cases hInstalls with
  | refused hEnsured => exact hEnsured.entries hNavigable hPage hOther
  | occupied hEnsured hUsed hForced => exact hEnsured.entries hNavigable hPage hOther

/-- A mapping that is placed has found a table and an entry that it may store. -/
theorem Installs.exists_place [FrameSource source] {page : VirtualPage} {frame : Frame}
    {flags : UInt32} {forced : Bool} {displaced : Option Frame}
    (hInstalls : Installs machine page frame flags forced (.ok displaced) after) :
    ∃ table prepared,
      Ensured machine page.directorySlot (Flags.ofWord flags).user (.ok table) prepared ∧
      ((machine.entryAt page).isFree = true ∨ forced = true) ∧
      displaced = (machine.entryAt page).storedFrame? ∧
      after = prepared.place page table (Entry.leaf frame flags) := by
  generalize hResult : (Except.ok displaced : Except LinkError (Option Frame)) = result
    at hInstalls
  cases hInstalls with
  | refused hEnsured => cases hResult
  | occupied hEnsured hUsed hForced => cases hResult
  | placed hEnsured hAllowed => exact ⟨_, _, hEnsured, hAllowed, Except.ok.inj hResult, rfl⟩

/-- A mapping that is placed changes its page only.  Without force the page was
free. -/
theorem Installs.entries_of_ok [FrameSource source] (hNavigable : machine.Navigable)
    {page : VirtualPage} (hPage : page.directorySlot ≠ Layout.selfMapSlot) {frame : Frame}
    {flags : UInt32} {forced : Bool} {displaced : Option Frame}
    (hInstalls : Installs machine page frame flags forced (.ok displaced) after) :
    displaced = (machine.entryAt page).storedFrame? ∧
      (forced = false → (machine.entryAt page).isFree = true) ∧
      ∀ other : VirtualPage, other.directorySlot ≠ Layout.selfMapSlot →
        after.entryAt other =
          if other = page then Entry.leaf frame flags else machine.entryAt other := by
  obtain ⟨table, prepared, hEnsured, hAllowed, hDisplaced, rfl⟩ := hInstalls.exists_place
  have hPrepared := hEnsured.prepared hNavigable hPage
  have hRewrites := rewrites_place hPrepared.navigable.toSeparated hPage hPrepared.linked
    (Entry.leaf frame flags)
  refine ⟨hDisplaced, ?_, ?_⟩
  · intro hForced
    exact hAllowed.resolve_right (by simp [hForced])
  · intro other hOther
    rw [hRewrites.entries other hOther, hPrepared.entries other hOther]

/-- A change of a page looks the same after the page has been cleared. -/
theorem Rewrites.after_vacate {vacated : Machine source} {page : VirtualPage} {entry : Entry}
    (hRewrites : Rewrites before after page entry)
    (hVacate : Rewrites before vacated page Entry.zero) : Rewrites vacated after page entry := by
  have hLinks : ∀ slot, vacated.link? slot = before.link? slot := fun slot => by
    rw [link?, hVacate.links, link?]
  refine ⟨⟨?_, ?_, ?_⟩, ?_, ?_, ?_, ?_⟩
  · rw [hRewrites.stays.root, hVacate.stays.root]
  · rw [hRewrites.stays.view, hVacate.stays.view]
  · intro frame
    rw [hRewrites.stays.installed, hVacate.stays.installed]
  · rw [hRewrites.source_eq, hVacate.source_eq]
  · intro slot
    rw [hRewrites.links, hVacate.links]
  · intro other hOther
    rw [hRewrites.entries other hOther, hVacate.entries other hOther]
    split <;> rfl
  · intro frame hFrame
    rw [hLinks] at hFrame
    rw [hRewrites.contents frame hFrame, hVacate.contents frame hFrame]

end Machine

namespace Action

variable {source : Type} [FrameSource source] {machine after : Machine source}

/-! ## The actions agree with the descriptions -/

theorem run_takeFrame {found : Option Frame} {pool : source} {events : List Event}
    (hTake : FrameSource.take machine.source = .ok (found, pool, events)) :
    takeFrame.run machine = .done found (machine.draw pool events) := by
  simp only [run, takeFrame, onSource, hTake, Machine.draw]

theorem run_giveFrame {frame : Frame} {pool : source} {events : List Event}
    (hGive : FrameSource.give machine.source frame = .ok (pool, events)) :
    (giveFrame frame).run machine = .done () (machine.draw pool events) := by
  simp only [run, giveFrame, onSource, hGive, Except.map, Machine.draw]

omit [FrameSource source] in
theorem run_linkTable (hNavigable : machine.Navigable) (slot : Slot) (table : Frame)
    (flags : Flags) :
    (linkTable slot table flags).run machine = .done () (machine.relink slot table flags) := by
  simp [linkTable, run_directory hNavigable,
    run_writeEntry hNavigable.reaches_directoryLocation, Machine.relink, Machine.note]

/-- A slot that links a table is widened. -/
theorem run_ensureLink_present (hNavigable : machine.Navigable) {slot : Slot} {table : Frame}
    (hLink : machine.link? slot = some table) (user : Bool) :
    (ensureLink slot user).run machine = .done (.ok false) (machine.widen slot table user) := by
  have hPresent : (machine.linkAt slot).presentFrame? = some table := hLink
  have hLinkTable := run_linkTable hNavigable slot table
    { (machine.linkAt slot).toFlags with user := true }
  have hAdmit : (onlyIf (user && !(machine.linkAt slot).user)
      (linkTable slot table { (machine.linkAt slot).toFlags with user := true })).run machine =
        .done () (machine.widen slot table user) := by
    rw [run_onlyIf, hLinkTable, Machine.widen]
    split <;> rfl
  simp [ensureLink, run_directoryEntry hNavigable slot, hPresent, hAdmit]

/-- To a slot without a table a fresh frame is linked, as it is. -/
theorem run_ensureLink_fresh (hNavigable : machine.Navigable) {slot : Slot} {table : Frame}
    {pool : source} {events : List Event} (hLink : machine.link? slot = none)
    (hTake : FrameSource.take machine.source = .ok (some table, pool, events)) (user : Bool) :
    (ensureLink slot user).run machine =
      .done (.ok true) ((machine.draw pool events).linkStale slot table user) := by
  have hPresent : (machine.linkAt slot).presentFrame? = none := hLink
  have hDrawn : (machine.draw pool events).Navigable :=
    hNavigable.congr (machine.stays_draw pool events) fun _ => rfl
  have hLinkTable := run_linkTable hDrawn slot table
    { Flags.kernelReadWrite with user := user }
  simp only [ensureLink, run_bind, run_directoryEntry hNavigable slot, Outcome.andThen_done,
    hPresent, run_takeFrame hTake, hLinkTable]
  rfl

theorem run_ensureLink_starved (hNavigable : machine.Navigable) {slot : Slot} {pool : source}
    {events : List Event} (hLink : machine.link? slot = none)
    (hTake : FrameSource.take machine.source = .ok (none, pool, events)) (user : Bool) :
    (ensureLink slot user).run machine =
      .done (.error .outOfMemory) (machine.draw pool events) := by
  have hPresent : (machine.linkAt slot).presentFrame? = none := hLink
  simp [ensureLink, run_directoryEntry hNavigable slot, hPresent, run_takeFrame hTake]

/-- A table that is there is found, and its slot widened. -/
theorem run_ensureTable_present (hNavigable : machine.Navigable) {slot : Slot}
    (hVisible : machine.view.hiddenSlots.contains slot = false)
    (hSlot : slot ≠ Layout.selfMapSlot) {user : Bool} {table : Frame}
    (hLink : machine.link? slot = some table) :
    (ensureTable slot user).run machine =
      .done (.ok (machine.tableLocation slot table)) (machine.widen slot table user) := by
  have hLinked := run_ensureLink_present hNavigable hLink user
  have hPrepared := Machine.prepared_widen hNavigable hSlot hLink user
  have hStillVisible :
      (machine.widen slot table user).view.hiddenSlots.contains slot = false := by
    rw [hPrepared.stays.view]
    exact hVisible
  have hTable := run_table? hPrepared.navigable hStillVisible
    fun other hOther => hPrepared.navigable.table_installed hSlot hOther
  have hLocation : (machine.widen slot table user).tableLocation slot table =
      machine.tableLocation slot table := by
    rw [Machine.tableLocation, hPrepared.stays.view, Machine.tableLocation]
  rw [hPrepared.linked] at hTable
  simp [ensureTable, hSlot, hLinked, hTable, hLocation]

/-- A new table is linked before it is cleared: the self-map shows it only then. -/
theorem run_ensureTable_fresh (hNavigable : machine.Navigable) {slot : Slot}
    (hVisible : machine.view.hiddenSlots.contains slot = false)
    (hSlot : slot ≠ Layout.selfMapSlot) {user : Bool} {table : Frame} {pool : source}
    {events : List Event} (hLink : machine.link? slot = none)
    (hTake : FrameSource.take machine.source = .ok (some table, pool, events))
    (hFresh : machine.Fresh table) :
    (ensureTable slot user).run machine =
      .done (.ok (machine.tableLocation slot table))
        ((machine.draw pool events).grow slot table user) := by
  let drawn := machine.draw pool events
  let linked := drawn.linkStale slot table user
  have hDrawn : drawn.Navigable :=
    hNavigable.congr (machine.stays_draw pool events) fun _ => rfl
  have hLinkedNavigable : linked.Navigable :=
    hDrawn.linkStale hSlot ⟨hFresh.installed, hFresh.ne_root, hFresh.unlinked⟩ user
  have hLinked : linked.link? slot = some table :=
    (Machine.link?_relink hDrawn.root_installed slot slot table _).trans (if_pos rfl)
  have hStillVisible : linked.view.hiddenSlots.contains slot = false := hVisible
  have hTable := run_table? hLinkedNavigable hStillVisible
    fun other hOther => hLinkedNavigable.table_installed hSlot hOther
  have hReaches := hLinkedNavigable.reaches_tableLocation hLinked
    (hLinkedNavigable.table_installed hSlot hLinked)
  have hLocation : linked.tableLocation slot table = machine.tableLocation slot table := rfl
  have hClear := run_clearTable hReaches
  rw [hLocation] at hClear
  rw [hLinked, Option.map_some, hLocation] at hTable
  simp only [ensureTable, hSlot, if_false, run_bind,
    run_ensureLink_fresh hNavigable hLink hTake user, Outcome.andThen_done]
  simp only [linked, drawn] at hTable hClear
  simp only [hTable, Outcome.andThen_done, run_bind, run_onlyIf, if_true, hClear]
  rfl

/-- Providing a table ends as described, with the table at its location. -/
theorem run_ensureTable (hNavigable : machine.Navigable) {slot : Slot}
    (hVisible : machine.view.hiddenSlots.contains slot = false)
    (hSlot : slot ≠ Layout.selfMapSlot) {user : Bool} {result : Except LinkError Frame}
    (hEnsured : machine.Ensured slot user result after) :
    (ensureTable slot user).run machine =
      .done (result.map (machine.tableLocation slot)) after := by
  cases hEnsured with
  | present hLink => exact run_ensureTable_present hNavigable hVisible hSlot hLink
  | fresh hLink hTake hFresh =>
      exact run_ensureTable_fresh hNavigable hVisible hSlot hLink hTake hFresh
  | starved hLink hTake =>
      simp [ensureTable, hSlot, run_ensureLink_starved hNavigable hLink hTake user, Except.map]

/-- Installing a mapping ends as described. -/
theorem run_install (hNavigable : machine.Navigable) {page : VirtualPage}
    (hVisible : machine.view.hiddenSlots.contains page.directorySlot = false)
    (hPage : page.directorySlot ≠ Layout.selfMapSlot) {frame : Frame} {flags : UInt32}
    {forced : Bool} {result : Except LinkError (Option Frame)}
    (hInstalls : machine.Installs page frame flags forced result after) :
    (install page frame flags forced).run machine = .done result after := by
  cases hInstalls with
  | refused hEnsured =>
      simp [install, run_ensureTable hNavigable hVisible hPage hEnsured, Except.map]
  | occupied hEnsured hUsed hForced =>
      have hPrepared := hEnsured.prepared hNavigable hPage
      have hEntry := run_readEntry (hPrepared.reaches_table hPage) page.tableSlot
      rw [← hPrepared.entryAt_eq hPage] at hEntry
      simp [install, run_ensureTable hNavigable hVisible hPage hEnsured, Except.map, hEntry,
        hUsed, hForced]
  | placed hEnsured hAllowed =>
      rename_i table prepared
      have hPrepared := hEnsured.prepared hNavigable hPage
      have hReaches := hPrepared.reaches_table hPage
      have hEntry := run_readEntry hReaches page.tableSlot
      rw [← hPrepared.entryAt_eq hPage] at hEntry
      have hSame := hPrepared.entries page hPage
      have hWrite := run_writeEntry hReaches page.tableSlot (Entry.leaf frame flags)
      cases hFree : (machine.entryAt page).isFree with
      | true =>
          simp [install, run_ensureTable hNavigable hVisible hPage hEnsured, Except.map, hEntry,
            hFree, hWrite, Machine.place, hSame]
      | false =>
          have hForced : forced = true := by
            rw [hFree] at hAllowed
            exact hAllowed.resolve_left Bool.false_ne_true
          simp [install, run_ensureTable hNavigable hVisible hPage hEnsured, Except.map, hEntry,
            hFree, hForced, hWrite, Machine.place, hSame, Machine.note]

omit [FrameSource source] in
/-- Removing a page answers with its entry, unless its slot has no table. -/
theorem run_remove (hNavigable : machine.Navigable) {page : VirtualPage}
    (hVisible : machine.view.hiddenSlots.contains page.directorySlot = false)
    (hInstalled : ∀ table, machine.link? page.directorySlot = some table →
      machine.Installed table) :
    (remove page).run machine =
      .done ((machine.link? page.directorySlot).map fun _ => machine.entryAt page)
        (machine.vacate page) := by
  have hTable := run_table? hNavigable hVisible hInstalled
  cases hLink : machine.link? page.directorySlot with
  | none =>
      rw [hLink] at hTable
      simp [remove, hTable, Machine.vacate, hLink]
  | some table =>
      rw [hLink] at hTable
      have hReaches := hNavigable.reaches_tableLocation hLink (hInstalled table hLink)
      simp [remove, hTable, run_readEntry hReaches, run_writeEntry hReaches, Machine.vacate,
        hLink, Machine.entryAt_of_linked hLink, Machine.note]

end Action

end TwoLevelPaging
