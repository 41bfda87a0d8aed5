import TwoLevelPaging.Proofs.SelfMap

/-!
# No stale translation survives a request

The processor may cache what a page walk found, and goes on using it until the page is
dropped from the cache, which the view of the live address space does for every page that it
is asked to invalidate.  So a request that changes an entry which was in use must have the
page of this entry invalidated, and must do so after its last store to the entry: otherwise
the old entry, or one in between, can be in the cache when the request is over.

The journal has both in their order.  `Journal.Drops` says that a page was invalidated after
the last store to its entry, and `Invalidates base before after recent` that this happened to
all pages that the walk reached in `base` and whose entry a step has changed.  Every edit does
so (`Edited.invalidates`).  The window pages count too: their entries are the directory's, and
they change whenever a table is linked or admitted to unprivileged code.
-/

namespace TwoLevelPaging

/-- The effect stores the word at a slot of a table. -/
def Effect.Writes (effect : Effect) (table : Frame) (slot : Slot) : Prop :=
  effect = .stored table slot ∨ effect = .replaced table

namespace Journal

variable {journal recent : Journal} {page : VirtualPage} {table : Frame} {slot : Slot}

/-- Nothing in the journal stores the word at a slot of a table. -/
def Spares (journal : Journal) (table : Frame) (slot : Slot) : Prop :=
  ∀ effect ∈ journal, ¬ effect.Writes table slot

/-- The view was asked to drop the page from the cache, and its entry in the table was not
stored after that. -/
def Drops (journal : Journal) (page : VirtualPage) (table : Frame) : Prop :=
  ∃ newer older, journal = newer ++ .invalidated page :: older ∧
    Spares newer table page.tableSlot

@[simp]
theorem spares_nil : Spares [] table slot := by
  simp [Spares]

@[simp]
theorem spares_reported (event : Event) :
    Spares (.reported event :: journal) table slot ↔ Spares journal table slot := by
  simp [Spares, Effect.Writes]

@[simp]
theorem spares_invalidated (other : VirtualPage) :
    Spares (.invalidated other :: journal) table slot ↔ Spares journal table slot := by
  simp [Spares, Effect.Writes]

@[simp]
theorem spares_flushed (other : VirtualPage) :
    Spares (.flushed other :: journal) table slot ↔ Spares journal table slot := by
  simp [Spares, Effect.Writes]

@[simp]
theorem spares_stored (frame : Frame) (other : Slot) :
    Spares (.stored frame other :: journal) table slot ↔
      ¬ (frame = table ∧ other = slot) ∧ Spares journal table slot := by
  simp [Spares, Effect.Writes]

@[simp]
theorem spares_replaced (frame : Frame) :
    Spares (.replaced frame :: journal) table slot ↔
      frame ≠ table ∧ Spares journal table slot := by
  simp [Spares, Effect.Writes]

/-- The journal with the events in front of the older effects. -/
theorem reportAll_eq (events : List Event) :
    journal.reportAll events = events.reverse.map .reported ++ journal := by
  induction events generalizing journal with
  | nil => rfl
  | cons event events ih =>
      show Journal.reportAll (.reported event :: journal) events = _
      rw [ih]
      simp

theorem spares_events (events : List Event) :
    Spares (events.map .reported) table slot := by
  induction events with
  | nil => exact spares_nil
  | cons event events ih => exact (spares_reported event).mpr ih

theorem Spares.append (hRecent : recent.Spares table slot) (hJournal : journal.Spares table slot) :
    Spares (recent ++ journal) table slot := by
  intro effect hEffect
  rcases List.mem_append.mp hEffect with hEarly | hLate
  · exact hRecent effect hEarly
  · exact hJournal effect hLate

/-- A page that is dropped last is dropped. -/
theorem drops_invalidated : Drops (.invalidated page :: journal) page table :=
  ⟨[], journal, rfl, spares_nil⟩

theorem Drops.append (hDrops : recent.Drops page table) (older : Journal) :
    Drops (recent ++ older) page table := by
  obtain ⟨newer, rest, rfl, hNewer⟩ := hDrops
  exact ⟨newer, rest ++ older, by simp, hNewer⟩

theorem Drops.prepend (hDrops : journal.Drops page table)
    (hRecent : Spares recent table page.tableSlot) : Drops (recent ++ journal) page table := by
  obtain ⟨newer, older, rfl, hNewer⟩ := hDrops
  exact ⟨recent ++ newer, older, by simp, hRecent.append hNewer⟩

end Journal

namespace Machine

variable {source : Type} {base machine before middle after : Machine source}
  {page : VirtualPage} {table frame : Frame} {slot : Slot} {recent during : Journal}

/-! ## Page walks -/

/-- Where there is a table, the walk ends at its entry if that is present. -/
theorem leaf?_of_linked (hRoot : machine.Installed machine.root) (hTable : machine.Installed table)
    (hLink : machine.link? page.directorySlot = some table) :
    machine.memory.leaf? machine.root page =
      if (machine.entryAt page).present then some (machine.entryAt page) else none := by
  have hDirectory : machine.memory.table? machine.root =
      some (machine.memory.content machine.root) := Memory.table?_eq_content hRoot
  have hContent : machine.memory.table? table = some (machine.memory.content table) :=
    Memory.table?_eq_content hTable
  rw [entryAt_of_linked hLink]
  simp only [link?, linkAt] at hLink
  simp [Memory.leaf?, hDirectory, hLink, hContent]

theorem leaf?_of_unlinked (hRoot : machine.Installed machine.root)
    (hLink : machine.link? page.directorySlot = none) :
    machine.memory.leaf? machine.root page = none := by
  have hDirectory : machine.memory.table? machine.root =
      some (machine.memory.content machine.root) := Memory.table?_eq_content hRoot
  simp only [link?, linkAt] at hLink
  simp [Memory.leaf?, hDirectory, hLink]

/-- A walk ends at a present entry of a linked table. -/
theorem exists_link_of_leaf? (hWalkable : machine.Walkable) {entry : Entry}
    (hLeaf : machine.memory.leaf? machine.root page = some entry) :
    ∃ table, machine.link? page.directorySlot = some table ∧ machine.entryAt page = entry ∧
      (machine.entryAt page).present = true := by
  cases hLink : machine.link? page.directorySlot with
  | none =>
      rw [leaf?_of_unlinked hWalkable.root_installed hLink] at hLeaf
      cases hLeaf
  | some table =>
      rw [leaf?_of_linked hWalkable.root_installed (hWalkable.installed hLink) hLink] at hLeaf
      split at hLeaf
      · rename_i hPresent
        exact ⟨table, rfl, Option.some.inj hLeaf, hPresent⟩
      · cases hLeaf

/-- A page is known by the word of its entry. -/
theorem Walkable.page_eq (hWalkable : machine.Walkable) {other : VirtualPage}
    (hPage : machine.link? page.directorySlot = some table)
    (hOther : machine.link? other.directorySlot = some table)
    (hSlot : page.tableSlot = other.tableSlot) : other = page :=
  (Page.eq_iff_slots_eq other page).mpr ⟨hWalkable.slot_eq hOther hPage, hSlot.symm⟩

/-! ## Edits and the cache -/

/-- Of the pages that the walk reached in `base`, a step that did `recent` leaves the
entry alone, or drops the page after the last store to its entry. -/
structure Invalidates (base before after : Machine source) (recent : Journal) : Prop where
  journal : after.journal = recent ++ before.journal
  pages : ∀ {page table}, base.link? page.directorySlot = some table →
    (base.entryAt page).present = true →
      after.entryAt page = before.entryAt page ∧ recent.Spares table page.tableSlot ∨
        recent.Drops page table

theorem Invalidates.refl (base machine : Machine source) : Invalidates base machine machine [] :=
  ⟨rfl, fun _ _ => .inl ⟨rfl, Journal.spares_nil⟩⟩

theorem Invalidates.trans (hFirst : Invalidates base before middle during)
    (hSecond : Invalidates base middle after recent) :
    Invalidates base before after (recent ++ during) where
  journal := by rw [hSecond.journal, hFirst.journal, List.append_assoc]
  pages := by
    intro page table hLink hPresent
    rcases hSecond.pages hLink hPresent with ⟨hSame, hRecent⟩ | hDrops
    · rcases hFirst.pages hLink hPresent with ⟨hEntry, hDuring⟩ | hDropped
      · exact .inl ⟨hSame.trans hEntry, hRecent.append hDuring⟩
      · exact .inr (hDropped.prepend hRecent)
    · exact .inr (hDrops.append during)

theorem invalidates_draw (base before : Machine source) (pool : source) (events : List Event) :
    Invalidates base before (before.draw pool events) (events.reverse.map .reported) :=
  ⟨Journal.reportAll_eq events, fun _ _ => .inl ⟨rfl, Journal.spares_events _⟩⟩

theorem invalidates_note (base before : Machine source) (event : Event) :
    Invalidates base before (before.note (.reported event)) [.reported event] :=
  ⟨rfl, fun _ _ => .inl ⟨rfl, (Journal.spares_reported event).mpr Journal.spares_nil⟩⟩

/-- A frame that was no table in `base` can be cleared without an invalidation. -/
theorem invalidates_clear (hRoot : table ≠ before.root) (hInstalled : before.Installed table)
    (hUnlinked : ∀ slot, base.link? slot ≠ some table)
    (hLinks : ∀ {slot other}, base.link? slot = some other → before.link? slot = some other) :
    Invalidates base before (before.clear table) [.replaced table] where
  journal := rfl
  pages := by
    intro page pageTable hBase hPresent
    have hDifferent : table ≠ pageTable := by
      rintro rfl
      exact hUnlinked _ hBase
    refine .inl ⟨?_, by simp [hDifferent]⟩
    rw [entryAt_clear hRoot hInstalled, if_neg]
    rw [hLinks hBase, Option.some.injEq]
    exact Ne.symm hDifferent

/-- An edit beside the tables need not invalidate anything if it stores to no entry in use. -/
theorem Aside.invalidates (hAside : Aside before after)
    (hJournal : after.journal = recent ++ before.journal)
    (hSpares : ∀ {page table}, base.link? page.directorySlot = some table →
      (base.entryAt page).present = true → recent.Spares table page.tableSlot) :
    Invalidates base before after recent :=
  ⟨hJournal, fun hLink hPresent => .inl ⟨hAside.entries _, hSpares hLink hPresent⟩⟩

/-- A store that misses the word of a page leaves its entry. -/
theorem entryAt_store_of_apart (hTable : machine.Installed table)
    (hLink : machine.link? page.directorySlot = some table) {entry : Entry}
    (hLinks : (machine.store frame slot entry).link? page.directorySlot =
      machine.link? page.directorySlot)
    (hApart : ¬ (frame = table ∧ slot = page.tableSlot)) :
    (machine.store frame slot entry).entryAt page = machine.entryAt page := by
  rw [entryAt_of_linked (hLinks.trans hLink), entryAt_of_linked hLink]
  by_cases hFrame : frame = table
  · subst hFrame
    have hSlot : slot ≠ page.tableSlot := fun hSame => hApart ⟨rfl, hSame⟩
    rw [content_store_same hTable, Table.get_set_of_ne _ _ hSlot]
  · rw [content_store_of_ne machine slot entry hFrame]

section Steps

variable (hBefore : before.Walkable) (hSparing : Sparing base before)
include hBefore hSparing

/-- A change of a page's entry, followed by a drop of the page. -/
theorem invalidates_store_note (hPage : page.directorySlot ≠ Layout.selfMapSlot)
    (hLink : before.link? page.directorySlot = some table) (entry : Entry) :
    Invalidates base before ((before.store table page.tableSlot entry).note (.invalidated page))
      [.invalidated page, .stored table page.tableSlot] where
  journal := rfl
  pages := by
    intro other otherTable hBase hPresent
    have hOther := hSparing.links hBase
    by_cases hWord : table = otherTable ∧ page.tableSlot = other.tableSlot
    · obtain ⟨rfl, hSlot⟩ := hWord
      obtain rfl := hBefore.page_eq hLink hOther hSlot
      exact .inr Journal.drops_invalidated
    · refine .inl ⟨?_, by simp [hWord]⟩
      rw [entryAt_note]
      exact entryAt_store_of_apart (hBefore.installed hOther) hOther
        (link?_store_of_ne before (hBefore.table_ne_root hPage hLink) _ _ _) hWord

/-- Without a drop, an entry may only be stored where the walk has not been. -/
theorem invalidates_place (hPage : page.directorySlot ≠ Layout.selfMapSlot)
    (hLink : before.link? page.directorySlot = some table)
    (hSame : before.entryAt page = base.entryAt page) (entry : Entry) :
    ∃ recent, Invalidates base before (before.place page table entry) recent := by
  cases hFree : (before.entryAt page).isFree with
  | false =>
      simp only [place, hFree]
      exact ⟨_, invalidates_store_note hBefore hSparing hPage hLink entry⟩
  | true =>
      simp only [place, hFree, if_true]
      refine ⟨[.stored table page.tableSlot], rfl, ?_⟩
      intro other otherTable hBase hPresent
      have hOther := hSparing.links hBase
      by_cases hWord : table = otherTable ∧ page.tableSlot = other.tableSlot
      · obtain ⟨rfl, hSlot⟩ := hWord
        obtain rfl := hBefore.page_eq hLink hOther hSlot
        rw [← hSame, (Entry.isFree_iff _).mp hFree] at hPresent
        cases hPresent
      · refine .inl ⟨?_, by simp [hWord]⟩
        exact entryAt_store_of_apart (hBefore.installed hOther) hOther
          (link?_store_of_ne before (hBefore.table_ne_root hPage hLink) _ _ _) hWord

theorem invalidates_vacate (hPage : page.directorySlot ≠ Layout.selfMapSlot) :
    ∃ recent, Invalidates base before (before.vacate page) recent := by
  cases hLink : before.link? page.directorySlot with
  | none =>
      simp only [vacate, hLink]
      exact ⟨[], .refl base before⟩
  | some table =>
      simp only [vacate, hLink]
      exact ⟨_, invalidates_store_note hBefore hSparing hPage hLink Entry.zero⟩

/-- A directory entry that changes takes its window page along. -/
theorem invalidates_relink (hSlot : slot ≠ Layout.selfMapSlot)
    (hOnly : ∀ {other}, before.link? slot = some other → other = table) (flags : Flags) :
    Invalidates base before (before.relink slot table flags)
      [.invalidated (Layout.tableWindow slot), .stored before.root slot] where
  journal := rfl
  pages := by
    intro page pageTable hBase hPresent
    have hPage := hSparing.links hBase
    have hRoot := hBefore.root_installed
    by_cases hWord : before.root = pageTable ∧ slot = page.tableSlot
    · obtain ⟨rfl, rfl⟩ := hWord
      -- Only the pages of the self-map have the directory for their table.
      have hSelf : page.directorySlot = Layout.selfMapSlot :=
        hBefore.slot_eq hPage hBefore.self_linked
      have hWindow : Layout.tableWindow page.tableSlot = page := by
        rw [Layout.tableWindow, ← hSelf, Page.ofSlots_directorySlot_tableSlot]
      rw [hWindow]
      exact .inr Journal.drops_invalidated
    · refine .inl ⟨?_, by simp [hWord]⟩
      have hLinks : (before.relink slot table flags).link? page.directorySlot =
          before.link? page.directorySlot := by
        rw [link?_relink hRoot]
        split
        · rename_i hSame
          rw [← hSame] at hPage
          rw [← hSame, hPage, hOnly hPage]
        · rfl
      exact entryAt_store_of_apart (hBefore.installed hPage) hPage hLinks hWord

/-- A new table is cleared after its window page has been dropped.  That page showed
nothing before. -/
theorem invalidates_grow (hSlot : slot ≠ Layout.selfMapSlot) (hLink : before.link? slot = none)
    (hFresh : before.Fresh table) (user : Bool) :
    Invalidates base before (before.grow slot table user)
      [.replaced table, .reported (.tableLinked table slot),
        .invalidated (Layout.tableWindow slot), .stored before.root slot] := by
  let linked := before.relink slot table { Flags.kernelReadWrite with user := user }
  have hRelink : Invalidates base before linked
      [.invalidated (Layout.tableWindow slot), .stored before.root slot] := by
    refine invalidates_relink hBefore hSparing hSlot ?_ _
    intro other hOther
    rw [hLink] at hOther
    cases hOther
  have hInstalled : linked.Installed table :=
    ((before.stays_relink _ _ _).installed table).mpr hFresh.installed
  have hUnlinked : ∀ other, base.link? other ≠ some table :=
    fun other hOther => hFresh.unlinked other (hSparing.links hOther)
  have hLinks : ∀ {other frame}, base.link? other = some frame →
      linked.link? other = some frame := by
    intro other frame hOther
    have hDifferent : slot ≠ other := by
      rintro rfl
      rw [hSparing.links hOther] at hLink
      cases hLink
    exact (link?_relink hBefore.root_installed slot other table _).trans
      ((if_neg hDifferent).trans (hSparing.links hOther))
  exact (hRelink.trans (invalidates_note base linked _)).trans
    (invalidates_clear hFresh.ne_root hInstalled hUnlinked hLinks)

theorem Ensured.invalidates [FrameSource source] (hSlot : slot ≠ Layout.selfMapSlot) {user : Bool}
    {result : Except LinkError Frame} (hEnsured : Ensured before slot user result after) :
    ∃ recent, Invalidates base before after recent := by
  cases hEnsured with
  | starved hLink hTake => exact ⟨_, invalidates_draw base before _ _⟩
  | present hLink =>
      rw [widen]
      split
      · refine ⟨_, invalidates_relink hBefore hSparing hSlot ?_ _⟩
        intro other hOther
        rw [hLink] at hOther
        exact (Option.some.inj hOther).symm
      · exact ⟨[], .refl base before⟩
  | fresh hLink hTake hFresh =>
      rename_i table pool events
      have hDrawn : (before.draw pool events).Walkable :=
        hBefore.congr (stays_draw before pool events) fun _ => rfl
      have hGrow := invalidates_grow hDrawn (hSparing.trans (sparing_draw before pool events)) hSlot
        hLink ⟨hFresh.installed, hFresh.ne_root, hFresh.unlinked⟩ user
      exact ⟨_, (invalidates_draw base before pool events).trans hGrow⟩

omit hBefore in
theorem invalidates_found (hFresh : before.Fresh frame) :
    Invalidates base before (before.found frame)
      [.stored frame Layout.selfMapSlot, .replaced frame] := by
  refine (aside_found hFresh).invalidates rfl ?_
  intro page table hBase hPresent
  have hTable : frame ≠ table := by
    rintro rfl
    exact hFresh.unlinked _ (hSparing.links hBase)
  simp [hTable]

theorem invalidates_giveUp (hFresh : before.Fresh frame)
    (hLink : before.link? Layout.scratchPage.directorySlot = some table)
    (hFree : before.entryAt Layout.scratchPage = Entry.zero) :
    Invalidates base before (((before.borrow table frame).found frame).giveUp table)
      [.flushed Layout.scratchPage, .stored table Layout.scratchPage.tableSlot,
        .stored frame Layout.selfMapSlot, .replaced frame, .flushed Layout.scratchPage,
        .stored table Layout.scratchPage.tableSlot] := by
  refine (aside_giveUp hBefore.traversable hFresh hLink hFree).invalidates rfl ?_
  intro page pageTable hBase hPresent
  have hPage := hSparing.links hBase
  have hFrame : frame ≠ pageTable := by
    rintro rfl
    exact hFresh.unlinked _ hPage
  have hTable : ¬ (table = pageTable ∧ Layout.scratchPage.tableSlot = page.tableSlot) := by
    rintro ⟨rfl, hSlot⟩
    -- The scratch page was free, so the walk did not reach it.
    obtain rfl := hBefore.page_eq hLink hPage hSlot
    rw [← hSparing.reserved Layout.directorySlot_scratchPage_ne Layout.isReserved_scratchPage,
      hFree] at hPresent
    cases hPresent
  simp [hFrame, hTable]

end Steps

/-- All edits of a request together have dropped what they made stale. -/
theorem Edited.invalidates [FrameSource source] (hBase : base.Walkable)
    (hEdited : Edited base machine) : ∃ during, Invalidates base base machine during := by
  -- Induction on the edits: each adds a newest part to the journal.
  induction hEdited with
  | start => exact ⟨[], .refl base base⟩
  | drawn hBefore pool events ih =>
      obtain ⟨during, hDuring⟩ := ih
      exact ⟨_, hDuring.trans (invalidates_draw base _ pool events)⟩
  | ensured hBefore hSlot hEnsured ih =>
      obtain ⟨during, hDuring⟩ := ih
      obtain ⟨recent, hRecent⟩ :=
        hEnsured.invalidates (hBefore.walkable hBase) (hBefore.sparing hBase) hSlot
      exact ⟨_, hDuring.trans hRecent⟩
  | placed hBefore hPage hLink hSame entry ih =>
      obtain ⟨during, hDuring⟩ := ih
      obtain ⟨recent, hRecent⟩ := invalidates_place (hBefore.walkable hBase) (hBefore.sparing hBase)
        (Layout.directorySlot_ne_of_not_reserved hPage) hLink hSame entry
      exact ⟨_, hDuring.trans hRecent⟩
  | vacated hBefore hPage ih =>
      obtain ⟨during, hDuring⟩ := ih
      obtain ⟨recent, hRecent⟩ := invalidates_vacate (hBefore.walkable hBase)
        (hBefore.sparing hBase) (Layout.directorySlot_ne_of_not_reserved hPage)
      exact ⟨_, hDuring.trans hRecent⟩
  | founded hBefore hFresh ih =>
      obtain ⟨during, hDuring⟩ := ih
      exact ⟨_, hDuring.trans (invalidates_found (hBefore.sparing hBase) hFresh)⟩
  | lent hBefore hAccess hFresh hLink hFree ih =>
      obtain ⟨during, hDuring⟩ := ih
      exact ⟨_, hDuring.trans (invalidates_giveUp (hBefore.walkable hBase) (hBefore.sparing hBase)
        hFresh hLink hFree)⟩

end Machine

namespace Command

variable {size : Nat} {machine : Machine (FrameBitmap size)}

/-- A page that the walk reached before a request, and that it does not reach any more or
at another entry, was invalidated during the request, after the last store to its entry.  This
holds for every request and all arguments, whether it succeeds or fails, for the pages below
the self-map as for the window pages, and through every view that reaches all tables. -/
theorem perform_drops_stale_pages (hWellFormed : machine.WellFormed)
    (hOpen : machine.view.Unrestricted) (command : Command) :
    ∃ reply after during, command.perform.run machine = .done reply after ∧
      after.root = machine.root ∧ after.journal = during ++ machine.journal ∧
      ∀ page entry, machine.memory.leaf? machine.root page = some entry →
        after.memory.leaf? after.root page ≠ some entry →
          ∃ table, machine.link? page.directorySlot = some table ∧ during.Drops page table := by
  have hWalkable := hWellFormed.walkable
  obtain ⟨reply, after, hRun, hEnds⟩ := exists_run_ends hWellFormed hOpen command
  have hEdited := hEnds.edited hWellFormed
  have hSparing := hEdited.sparing hWalkable
  have hAfter := hEdited.walkable hWalkable
  obtain ⟨during, hInvalidates⟩ := hEdited.invalidates hWalkable
  refine ⟨reply, after, during, hRun, hSparing.stays.root, hInvalidates.journal, ?_⟩
  intro page entry hLeaf hChanged
  obtain ⟨table, hLink, hEntry, hPresent⟩ := Machine.exists_link_of_leaf? hWalkable hLeaf
  refine ⟨table, hLink, ?_⟩
  rcases hInvalidates.pages hLink hPresent with ⟨hSame, -⟩ | hDrops
  · -- The page has its table still, so the walk would find the same entry there.
    have hStill := hSparing.links hLink
    rw [Machine.leaf?_of_linked hAfter.root_installed (hAfter.installed hStill) hStill, hSame,
      if_pos hPresent, hEntry] at hChanged
    exact absurd rfl hChanged
  · exact hDrops

/-- What the walk to a page finds when an action is done. -/
def leafAfter (outcome : Outcome (FrameBitmap size) Reply) (page : VirtualPage) : Option Entry :=
  match outcome with
  | .done _ after => after.memory.leaf? after.root page
  | .fault _ _ => none

/-- The flag word of a mapping that is present, and open to unprivileged code. -/
def userFlags : UInt32 := Flags.word { present := true, user := true }

/-- A user mapping beside the scratch page admits unprivileged code to the scratch table,
so the window page of that table is dropped. -/
theorem setMapping_tinyWithScratch_drops_window :
    ∃ reply after during table,
      (setMapping (Address.ofNat 0xFF800000) (Address.ofNat 0x7000) userFlags).perform.run
          Machine.tinyWithScratch = .done reply after ∧
      after.journal = during ++ Machine.tinyWithScratch.journal ∧
      Machine.tinyWithScratch.link? Layout.selfMapSlot = some table ∧
      during.Drops (Layout.tableWindow Layout.scratchSlot) table := by
  have hOpen : Machine.tinyWithScratch.view.Unrestricted := by
    show Machine.tinyWithScratch.view.lendsFrames = true ∧
      Machine.tinyWithScratch.view.hiddenSlots = []
    decide +kernel
  have hLeaf : Machine.tinyWithScratch.memory.leaf? Machine.tinyWithScratch.root
      (Layout.tableWindow Layout.scratchSlot) =
        some (Entry.link (Page.ofNumber 2) .kernelReadWrite) := by decide +kernel
  have hChanged : leafAfter ((setMapping (Address.ofNat 0xFF800000) (Address.ofNat 0x7000)
      userFlags).perform.run Machine.tinyWithScratch)
        (Layout.tableWindow Layout.scratchSlot) ≠
          some (Entry.link (Page.ofNumber 2) .kernelReadWrite) := by decide +kernel
  obtain ⟨reply, after, during, hRun, -, hJournal, hDrops⟩ :=
    perform_drops_stale_pages Machine.wellFormed_tinyWithScratch hOpen
      (setMapping (Address.ofNat 0xFF800000) (Address.ofNat 0x7000) userFlags)
  rw [hRun] at hChanged
  obtain ⟨table, hLink, hDropped⟩ := hDrops _ _ hLeaf hChanged
  exact ⟨reply, after, during, table, hRun, hJournal, hLink, hDropped⟩

end Command

end TwoLevelPaging
