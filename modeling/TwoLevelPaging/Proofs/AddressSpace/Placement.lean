import TwoLevelPaging.Proofs.AddressSpace.WellFormed

/-!
# When a mapping can be placed, and what it takes

To place a mapping takes a table for the page's slot.  If the slot links one, this is used and
the bitmap stays as it is; otherwise one free frame becomes the table (`Machine.Provides`).  It
fails only if no frame but frame zero is free, or if the entry is in use, and then neither
memory nor the bitmap has changed (`Installs.error_cases`).

`Machine.Placed` is all that a mapping which has been placed leaves behind: one entry, and
possibly one table.
-/

namespace TwoLevelPaging

namespace Machine

variable {size : Nat} {machine before after last : Machine (FrameBitmap size)} {slot : Slot}
  {page : VirtualPage} {table frame : Frame} {user : Bool} {flags : UInt32}

/-- A frame is left that can be handed out; frame zero never is. -/
def HasSpare (machine : Machine (FrameBitmap size)) : Prop :=
  ∃ number, 0 < number ∧ machine.source.freeAt number = true

/-- The slot links a table, or a frame is left that becomes one. -/
def CanTable (machine : Machine (FrameBitmap size)) (slot : Slot) : Prop :=
  (∃ table, machine.link? slot = some table) ∨ machine.HasSpare

/-- The slot has a table afterwards.  It is the one from before, and no frame has been taken;
or it is a frame that was free, and no other frame has been taken. -/
structure Provides (before after : Machine (FrameBitmap size)) (slot : Slot) : Prop where
  kept : ∀ {table}, before.link? slot = some table →
    after.link? slot = some table ∧ after.source = before.source
  added : before.link? slot = none → ∃ table, after.link? slot = some table ∧
    0 < table.number ∧ before.Free table ∧
    before.source.Marks after.source table.number true

/-- One page has got an entry, for which its slot has got a table if it had none. -/
structure Placed (before after : Machine (FrameBitmap size)) (page : VirtualPage)
    (entry : Entry) : Prop extends Provides before after page.directorySlot where
  stays : Stays before after
  entry : after.entryAt page = entry
  entries : ∀ other : VirtualPage, other.directorySlot ≠ Layout.selfMapSlot → other ≠ page →
    after.entryAt other = before.entryAt other
  links : ∀ other, page.directorySlot ≠ other → after.linkAt other = before.linkAt other
  contents : ∀ frame, frame ≠ before.root → after.link? page.directorySlot ≠ some frame →
    after.memory.content frame = before.memory.content frame

theorem Taken.wellFormed (hWellFormed : before.WellFormed) {found : Option Frame}
    (hTaken : Taken before found after) : after.WellFormed := by
  refine (hTaken.stocked hWellFormed.stocked).wellFormed ?_
  obtain ⟨pool, events, -, rfl⟩ := hTaken
  exact hWellFormed.self_linked

theorem Unchanged.wellFormed (hUnchanged : Unchanged before after)
    (hWellFormed : before.WellFormed) : after.WellFormed := by
  obtain ⟨events, rfl⟩ := hUnchanged.exists_eq_draw
  exact hWellFormed.congr (before.stays_draw _ events) (fun _ => rfl) (fun _ hFree => hFree)
    hWellFormed.sound

theorem Taken.link?_eq {found : Option Frame} (hTaken : Taken before found after) (slot : Slot) :
    after.link? slot = before.link? slot := by
  obtain ⟨_, _, -, rfl⟩ := hTaken
  rfl

theorem Taken.entryAt_eq {found : Option Frame} (hTaken : Taken before found after)
    (page : VirtualPage) : after.entryAt page = before.entryAt page := by
  obtain ⟨_, _, -, rfl⟩ := hTaken
  rfl

/-- Nothing is taken exactly if no frame is left. -/
theorem Taken.not_hasSpare (hSound : before.source.Sound) (hTaken : Taken before none after) :
    ¬ before.HasSpare := by
  obtain ⟨pool, events, hTake, -⟩ := hTaken
  rintro ⟨number, hPositive, hFree⟩
  rw [FrameBitmap.freeAt_of_take_none hSound hTake hPositive] at hFree
  cases hFree

theorem Taken.hasSpare (hStocked : before.Stocked) (hTaken : Taken before (some frame) after) :
    before.HasSpare := by
  obtain ⟨hPositive, hFree, -⟩ := hTaken.marks hStocked
  exact ⟨frame.number, hPositive, hFree⟩

/-! ## Tables -/

theorem Ensured.provides (hWellFormed : machine.WellFormed) (hSlot : slot ≠ Layout.selfMapSlot)
    (hEnsured : Ensured machine slot user (.ok table) after) : Provides machine after slot := by
  have hLinked := (hEnsured.prepared hWellFormed.walkable.navigable hSlot).linked
  cases hEnsured with
  | present hLink =>
      constructor
      · intro other hOther
        rw [hLink] at hOther
        rw [← hOther, source_widen]
        exact ⟨hLinked, rfl⟩
      · intro hNone
        rw [hLink] at hNone
        cases hNone
  | fresh hLink hTake hFresh =>
      constructor
      · intro other hOther
        rw [hLink] at hOther
        cases hOther
      · intro _
        have hTaken : machine.Taken (some table) _ := ⟨_, _, hTake, rfl⟩
        exact ⟨table, hLinked, hTaken.marks hWellFormed.stocked⟩

theorem Ensured.canTable (hStocked : machine.Stocked)
    (hEnsured : Ensured machine slot user (.ok table) after) : machine.CanTable slot := by
  cases hEnsured with
  | present hLink => exact .inl ⟨table, hLink⟩
  | fresh hLink hTake hFresh =>
      have hTaken : machine.Taken (some table) _ := ⟨_, _, hTake, rfl⟩
      exact .inr (hTaken.hasSpare hStocked)

/-- A table cannot be provided if there is no frame for it, and then nothing changes. -/
theorem Ensured.error_cases (hSound : machine.source.Sound) {cause : LinkError}
    (hEnsured : Ensured machine slot user (.error cause) after) :
    cause = .outOfMemory ∧ Unchanged machine after ∧ ¬ machine.CanTable slot := by
  cases hEnsured with
  | starved hLink hTake =>
      have hTaken : machine.Taken none _ := ⟨_, _, hTake, rfl⟩
      refine ⟨rfl, hTaken.unchanged hSound, ?_⟩
      rintro (⟨table, hTable⟩ | hSpare)
      · rw [hLink] at hTable
        cases hTable
      · exact hTaken.not_hasSpare hSound hSpare

/-- Providing a table frees no frame. -/
theorem Provides.freeAt_before (hProvides : Provides before after slot) {number : Nat}
    (hNumber : after.source.freeAt number = true) : before.source.freeAt number = true := by
  cases hLink : before.link? slot with
  | some table => rwa [(hProvides.kept hLink).2] at hNumber
  | none =>
      obtain ⟨table, -, -, hFree, hMarks⟩ := hProvides.added hLink
      exact hMarks.freeAt_before hFree hNumber

/-- Frame zero never becomes a table. -/
theorem Provides.freeAt_zero (hProvides : Provides before after slot) :
    after.source.freeAt 0 = before.source.freeAt 0 := by
  cases hLink : before.link? slot with
  | some table => rw [(hProvides.kept hLink).2]
  | none =>
      obtain ⟨table, -, hPositive, -, hMarks⟩ := hProvides.added hLink
      exact hMarks.freeAt_of_ne (Nat.ne_of_lt hPositive)

/-! ## Mappings -/

theorem Installs.wellFormed (hWellFormed : machine.WellFormed)
    (hPage : page.directorySlot ≠ Layout.selfMapSlot) {forced : Bool}
    {result : Except LinkError (Option Frame)}
    (hInstalls : Installs machine page frame flags forced result after) : after.WellFormed := by
  obtain ⟨hRoot, hSelf⟩ := hInstalls.self_link hWellFormed.stocked.toTraversable hPage
  refine (hInstalls.stocked hWellFormed.stocked hPage).wellFormed ?_
  rw [hSelf, hRoot]
  exact hWellFormed.self_linked

theorem Installs.placed_of_ok (hWellFormed : machine.WellFormed)
    (hPage : page.directorySlot ≠ Layout.selfMapSlot) {forced : Bool} {displaced : Option Frame}
    (hInstalls : Installs machine page frame flags forced (.ok displaced) after) :
    Placed machine after page (Entry.leaf frame flags) := by
  have hNavigable := hWellFormed.walkable.navigable
  obtain ⟨-, -, hEntries⟩ := hInstalls.entries_of_ok hNavigable hPage
  obtain ⟨table, prepared, hEnsured, -, -, rfl⟩ := hInstalls.exists_place
  have hPrepared := hEnsured.prepared hNavigable hPage
  have hProvides := hEnsured.provides hWellFormed hPage
  have hRewrites := rewrites_place hPrepared.navigable.toSeparated hPage hPrepared.linked
    (Entry.leaf frame flags)
  -- Storing the entry changes neither the bitmap nor a link.
  refine ⟨⟨?_, ?_⟩, hPrepared.stays.trans hRewrites.stays, ?_, ?_, ?_, ?_⟩
  · intro linked hLink
    rw [hRewrites.link?_eq, hRewrites.source_eq]
    exact hProvides.kept hLink
  · intro hNone
    rw [hRewrites.link?_eq, hRewrites.source_eq]
    exact hProvides.added hNone
  · rw [hEntries page hPage, if_pos rfl]
  · intro other hOther hDifferent
    rw [hEntries other hOther, if_neg hDifferent]
  · intro other hOther
    rw [hRewrites.links, hPrepared.linkAt_of_ne other hOther]
  · intro other hRoot hOther
    rw [hRewrites.link?_eq] at hOther
    have hTable : other ≠ table := by
      rintro rfl
      exact hOther hPrepared.linked
    rw [hRewrites.contents other hOther, hPrepared.contents other hRoot fun _ => hTable]

theorem Installs.canTable (hStocked : machine.Stocked) {forced : Bool}
    {displaced : Option Frame}
    (hInstalls : Installs machine page frame flags forced (.ok displaced) after) :
    machine.CanTable page.directorySlot := by
  obtain ⟨table, prepared, hEnsured, -⟩ := hInstalls.exists_place
  exact hEnsured.canTable hStocked

/-- A mapping is not placed if there is no frame for its table, which leaves everything as it
is, or if the entry is in use. -/
theorem Installs.error_cases (hSound : machine.source.Sound) {forced : Bool} {cause : LinkError}
    (hInstalls : Installs machine page frame flags forced (.error cause) after) :
    (cause = .outOfMemory ∧ Unchanged machine after ∧ ¬ machine.CanTable page.directorySlot) ∨
      (cause = .occupied ∧ (machine.entryAt page).isFree = false ∧ forced = false) := by
  cases hInstalls with
  | refused hEnsured => exact .inl (hEnsured.error_cases hSound)
  | occupied hEnsured hUsed hForced => exact .inr ⟨rfl, hUsed, hForced⟩

/-- A mapping that is not placed changes neither the bitmap nor a link nor a page. -/
theorem Installs.keeps_of_error (hWellFormed : machine.WellFormed)
    (hPage : page.directorySlot ≠ Layout.selfMapSlot) {forced : Bool} {cause : LinkError}
    (hInstalls : Installs machine page frame flags forced (.error cause) after) :
    after.source = machine.source ∧ (∀ other, after.link? other = machine.link? other) ∧
      ∀ other : VirtualPage, other.directorySlot ≠ Layout.selfMapSlot →
        after.entryAt other = machine.entryAt other := by
  have hNavigable := hWellFormed.walkable.navigable
  have hEntries : ∀ other : VirtualPage, other.directorySlot ≠ Layout.selfMapSlot →
      after.entryAt other = machine.entryAt other :=
    fun _ => hInstalls.entries_of_error hNavigable hPage
  cases hInstalls with
  | refused hEnsured =>
      obtain ⟨-, hUnchanged, -⟩ := hEnsured.error_cases hWellFormed.sound
      obtain ⟨events, rfl⟩ := hUnchanged.exists_eq_draw
      exact ⟨rfl, fun _ => rfl, hEntries⟩
  | occupied hEnsured hUsed hForced =>
      -- The entry is in use, so its table was there before.
      obtain ⟨table, hLink⟩ := exists_link_of_used hUsed
      obtain ⟨hKept, hSource⟩ := (hEnsured.provides hWellFormed hPage).kept hLink
      refine ⟨hSource, ?_, hEntries⟩
      intro other
      by_cases hOther : page.directorySlot = other
      · rw [← hOther, hKept, hLink]
      · exact (hEnsured.prepared hNavigable hPage).link?_of_ne hOther

/-- Where the entry is not in the way, a mapping fails for want of a table only. -/
theorem Installs.unchanged_of_error (hSound : machine.source.Sound) {forced : Bool}
    {cause : LinkError}
    (hInstalls : Installs machine page frame flags forced (.error cause) after)
    (hAllowed : (machine.entryAt page).isFree = true ∨ forced = true) :
    Unchanged machine after ∧ ¬ machine.CanTable page.directorySlot := by
  rcases hInstalls.error_cases hSound with ⟨-, hNothing⟩ | ⟨-, hUsed, hForced⟩
  · exact hNothing
  · rw [hUsed, hForced] at hAllowed
    exact absurd hAllowed (by decide)

/-- A mapping that has been placed is the same after a report. -/
theorem Placed.unchanged {entry : Entry} (hPlaced : Placed before after page entry)
    (hUnchanged : Unchanged after last) : Placed before last page entry := by
  obtain ⟨events, rfl⟩ := hUnchanged.exists_eq_draw
  exact ⟨⟨hPlaced.kept, hPlaced.added⟩, hPlaced.stays.trans (after.stays_draw _ events),
    hPlaced.entry, hPlaced.entries, hPlaced.links, hPlaced.contents⟩

end Machine

end TwoLevelPaging
