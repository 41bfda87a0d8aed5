import Mathlib.Order.Interval.Finset.SuccPred
import Mathlib.Order.Interval.Finset.Nat
import Mathlib.Data.Nat.SuccPred
import TwoLevelPaging.Proofs.AddressSpace.Placement
import TwoLevelPaging.Proofs.FrameBitmap.Count
import TwoLevelPaging.Proofs.Ownership.PageRuns

/-!
# How many frames a run of pages takes

A run of pages takes one frame for each page and one for each directory slot that the run
meets and that links no table yet (`Machine.demand`).  The frames that can be handed out for it
are the free ones but frame zero (`Machine.spare`).

Backing the first page of a run lowers both numbers by the same amount, the `price` of the
page: `demand_eq_add_price` and `Backs.spare_eq`.  And a page can be backed if its price can be
paid and nothing is in the way (`Backs.not_payable`).
-/

namespace TwoLevelPaging

namespace Machine

variable {size : Nat} {machine before after last : Machine (FrameBitmap size)} {slot : Slot}
  {page : VirtualPage} {frame : Frame} {flags : UInt32} {start stop : Nat}

/-- The directory slots of the pages with numbers in `[start, stop)`. -/
def slotsBetween (start stop : Nat) : Finset Slot :=
  (Finset.Ico start stop).image fun number => (Page.ofNumber number : VirtualPage).directorySlot

/-- Those of them that link no table. -/
def unlinkedBetween (machine : Machine (FrameBitmap size)) (start stop : Nat) : Finset Slot :=
  (slotsBetween start stop).filter fun slot => machine.link? slot = none

/-- The frames that it takes to back the pages with numbers in `[start, stop)`: one for each of
them, and one for each table that they lack. -/
def demand (machine : Machine (FrameBitmap size)) (start stop : Nat) : Nat :=
  (stop - start) + (machine.unlinkedBetween start stop).card

/-- The frames that can be handed out. -/
def spare (machine : Machine (FrameBitmap size)) : Nat :=
  (machine.source.freeSet.erase 0).card

/-- The frames that it takes to back one page of a slot. -/
def price (machine : Machine (FrameBitmap size)) (slot : Slot) : Nat :=
  if machine.link? slot = none then 2 else 1

/-! ## The demand of a run -/

@[simp]
theorem demand_self (machine : Machine (FrameBitmap size)) (number : Nat) :
    machine.demand number number = 0 := by
  simp [demand, unlinkedBetween, slotsBetween]

theorem slotsBetween_eq_insert (hStop : page.number < stop) :
    slotsBetween page.number stop =
      insert page.directorySlot (slotsBetween (page.number + 1) stop) := by
  rw [slotsBetween, ← Finset.insert_Ico_succ_left_eq_Ico hStop, Finset.image_insert,
    Page.ofNumber_number]
  rfl

/-- After a page has been backed its slot has a table; if it had none before, this is one slot
less without. -/
theorem unlinkedBetween_eq (hStop : page.number < stop)
    (hLinked : after.link? page.directorySlot ≠ none)
    (hLinks : ∀ other, page.directorySlot ≠ other → after.link? other = before.link? other) :
    before.unlinkedBetween page.number stop =
      if before.link? page.directorySlot = none then
        insert page.directorySlot (after.unlinkedBetween (page.number + 1) stop)
      else after.unlinkedBetween (page.number + 1) stop := by
  ext other
  by_cases hOther : other = page.directorySlot
  · have hGone : other ∉ after.unlinkedBetween (page.number + 1) stop := by
      simp [unlinkedBetween, hOther, hLinked]
    split
    · rename_i hNone
      simp [unlinkedBetween, slotsBetween_eq_insert hStop, hOther, hNone]
    · rename_i hSome
      simp only [hGone, iff_false]
      simp [unlinkedBetween, hOther, hSome]
  · have hSame := hLinks other (Ne.symm hOther)
    split <;>
      simp [unlinkedBetween, slotsBetween_eq_insert hStop, hSame, hOther]

theorem demand_eq_add_price (hStop : page.number < stop)
    (hLinked : after.link? page.directorySlot ≠ none)
    (hLinks : ∀ other, page.directorySlot ≠ other → after.link? other = before.link? other) :
    before.demand page.number stop =
      after.demand (page.number + 1) stop + before.price page.directorySlot := by
  have hGone : page.directorySlot ∉ after.unlinkedBetween (page.number + 1) stop := by
    simp [unlinkedBetween, hLinked]
  rw [demand, demand, price, unlinkedBetween_eq hStop hLinked hLinks]
  split
  · rw [Finset.card_insert_of_notMem hGone]
    omega
  · omega

/-- A run takes at least what its first page takes. -/
theorem price_le_demand (hStop : page.number < stop) :
    machine.price page.directorySlot ≤ machine.demand page.number stop := by
  rw [price, demand]
  split
  · rename_i hLink
    have hMember : page.directorySlot ∈ machine.unlinkedBetween page.number stop := by
      simp [unlinkedBetween, slotsBetween_eq_insert hStop, hLink]
    have hSome := Finset.card_pos.mpr ⟨_, hMember⟩
    omega
  · omega

/-- A single page takes its price. -/
theorem demand_single (machine : Machine (FrameBitmap size)) (page : VirtualPage) :
    machine.demand page.number (page.number + 1) = machine.price page.directorySlot := by
  have hSlots : slotsBetween page.number (page.number + 1) = {page.directorySlot} := by
    rw [slotsBetween_eq_insert (Nat.lt_succ_self _)]
    simp [slotsBetween]
  rw [demand, price, unlinkedBetween, hSlots, Finset.filter_singleton]
  split <;> simp

/-! ## The frames that are left -/

theorem hasSpare_iff : machine.HasSpare ↔ 0 < machine.spare := by
  rw [spare, Finset.card_pos]
  constructor
  · rintro ⟨number, hPositive, hFree⟩
    exact ⟨number, Finset.mem_erase.mpr
      ⟨Nat.ne_of_gt hPositive, FrameBitmap.mem_freeSet.mpr hFree⟩⟩
  · rintro ⟨number, hMember⟩
    obtain ⟨hNumber, hFree⟩ := Finset.mem_erase.mp hMember
    exact ⟨number, Nat.pos_of_ne_zero hNumber, FrameBitmap.mem_freeSet.mp hFree⟩

theorem spare_eq_of_marks {number : Nat} (hPositive : 0 < number)
    (hFree : before.source.freeAt number = true)
    (hMarks : before.source.Marks after.source number true) :
    before.spare = after.spare + 1 := by
  have hMember : number ∈ before.source.freeSet.erase 0 :=
    Finset.mem_erase.mpr ⟨Nat.ne_of_gt hPositive, FrameBitmap.mem_freeSet.mpr hFree⟩
  rw [spare, spare, hMarks.freeSet_eq_erase, Finset.erase_right_comm,
    Finset.card_erase_add_one hMember]

/-- All free frames are those that can be handed out, and frame zero if it is free. -/
theorem card_freeSet_eq (machine : Machine (FrameBitmap size)) :
    machine.source.freeSet.card =
      machine.spare + if machine.source.freeAt 0 = true then 1 else 0 := by
  rw [spare]
  split
  · rename_i hZero
    rw [Finset.card_erase_add_one (FrameBitmap.mem_freeSet.mpr hZero)]
  · rename_i hZero
    rw [Finset.erase_eq_of_notMem fun hMember => hZero (FrameBitmap.mem_freeSet.mp hMember),
      Nat.add_zero]

theorem Taken.spare_eq (hStocked : before.Stocked) (hTaken : Taken before (some frame) after) :
    before.spare = after.spare + 1 := by
  obtain ⟨hPositive, hFree, hMarks⟩ := hTaken.marks hStocked
  exact spare_eq_of_marks hPositive hFree hMarks

theorem Taken.spare_eq_zero (hSound : before.source.Sound) (hTaken : Taken before none after) :
    before.spare = 0 := by
  by_contra hSpare
  exact hTaken.not_hasSpare hSound (hasSpare_iff.mpr (Nat.pos_of_ne_zero hSpare))

/-- A table costs one frame less than a page that needs it. -/
theorem Provides.spare_eq (hProvides : Provides before after slot) :
    before.spare + 1 = after.spare + before.price slot := by
  rw [price]
  cases hLink : before.link? slot with
  | some table =>
      rw [if_neg (Option.some_ne_none _), spare, spare, (hProvides.kept hLink).2]
  | none =>
      obtain ⟨table, -, hPositive, hFree, hMarks⟩ := hProvides.added hLink
      rw [if_pos rfl, spare_eq_of_marks hPositive hFree hMarks]

/-- A slot can have a table for a page that has its frame already, if the price of the page
could be paid before. -/
theorem canTable_of_price_le (hDrawn : before.spare = after.spare + 1)
    (hLinks : ∀ slot, after.link? slot = before.link? slot)
    (hPrice : before.price slot ≤ before.spare) : after.CanTable slot := by
  cases hLink : after.link? slot with
  | some table => exact .inl ⟨table, hLink⟩
  | none =>
      rw [price, ← hLinks, if_pos hLink] at hPrice
      exact .inr (hasSpare_iff.mpr (by omega))

theorem price_pos (machine : Machine (FrameBitmap size)) (slot : Slot) :
    0 < machine.price slot := by
  rw [price]
  split <;> omega

/-! ## Backing one page -/

/-- A page that has been backed has cost its price.  Its slot has a table then, and all other
links are the same. -/
theorem Backs.spare_eq (hBefore : before.WellFormed)
    (hBacks : Backs before page flags (.ok ()) after) :
    before.spare = after.spare + before.price page.directorySlot ∧
      after.link? page.directorySlot ≠ none ∧
      ∀ other, page.directorySlot ≠ other → after.link? other = before.link? other := by
  cases hBacks with
  | placed hPage hTaken hInstalls =>
      rename_i frame displaced drawn
      have hPlaced := hInstalls.placed_of_ok (hTaken.wellFormed hBefore)
        (Layout.directorySlot_ne_of_not_reserved hPage)
      have hSpare := hTaken.spare_eq hBefore.stocked
      have hTable := hPlaced.spare_eq
      have hPrice : drawn.price page.directorySlot = before.price page.directorySlot := by
        rw [price, price, hTaken.link?_eq]
      refine ⟨by omega, ?_, ?_⟩
      · cases hLink : drawn.link? page.directorySlot with
        | some table => simp [(hPlaced.kept hLink).1]
        | none =>
            obtain ⟨table, hTable, -⟩ := hPlaced.added hLink
            simp [hTable]
      · intro other hOther
        rw [link?, hPlaced.links other hOther, ← link?, hTaken.link?_eq]

/-- A page that has been backed holds a frame other than frame zero, with these flags. -/
theorem Backs.exists_leaf (hBefore : before.WellFormed)
    (hBacks : Backs before page flags (.ok ()) after) :
    (∃ frame : Frame, 0 < frame.number ∧ after.entryAt page = Entry.leaf frame flags) ∧
      ∀ other : VirtualPage, other.directorySlot ≠ Layout.selfMapSlot → other ≠ page →
        after.entryAt other = before.entryAt other := by
  cases hBacks with
  | placed hPage hTaken hInstalls =>
      rename_i frame displaced drawn
      have hSlot := Layout.directorySlot_ne_of_not_reserved hPage
      have hPlaced := hInstalls.placed_of_ok (hTaken.wellFormed hBefore) hSlot
      refine ⟨⟨frame, (hTaken.marks hBefore.stocked).1, hPlaced.entry⟩, ?_⟩
      intro other hOther hDifferent
      rw [hPlaced.entries other hOther hDifferent, hTaken.entryAt_eq]

/-- Where a run of pages holds frames with these flags, it is one page longer after the next
page has been backed. -/
theorem Backs.extends_run (hBefore : before.WellFormed)
    (hBacks : Backs before page flags (.ok ()) after)
    (hRun : ∀ other : VirtualPage, start ≤ other.number → other.number < page.number →
      other.directorySlot ≠ Layout.selfMapSlot ∧
        ∃ frame : Frame, 0 < frame.number ∧ before.entryAt other = Entry.leaf frame flags) :
    ∀ other : VirtualPage, start ≤ other.number → other.number < page.number + 1 →
      ∃ frame : Frame, 0 < frame.number ∧ after.entryAt other = Entry.leaf frame flags := by
  obtain ⟨hLeaf, hEntries⟩ := hBacks.exists_leaf hBefore
  intro other hStart hBelow
  by_cases hSame : other = page
  · rw [hSame]
    exact hLeaf
  · have hApart : other.number ≠ page.number := fun hEqual => hSame (Page.ext hEqual)
    obtain ⟨hSlot, hFilled⟩ := hRun other hStart (by omega)
    rw [hEntries other hSlot hSame]
    exact hFilled

/-- A page that is not backed leaves the free frames, the links and the pages. -/
theorem Backs.keeps_of_error (hBefore : before.WellFormed) {error : MapError}
    (hBacks : Backs before page flags (.error error) after) :
    after.source.freeSet = before.source.freeSet ∧
      (∀ slot, after.link? slot = before.link? slot) ∧
      ∀ other : VirtualPage, other.directorySlot ≠ Layout.selfMapSlot →
        after.entryAt other = before.entryAt other := by
  have hNothing : Unchanged before after → after.source.freeSet = before.source.freeSet ∧
      (∀ slot, after.link? slot = before.link? slot) ∧
      ∀ other : VirtualPage, other.directorySlot ≠ Layout.selfMapSlot →
        after.entryAt other = before.entryAt other := by
    intro hUnchanged
    obtain ⟨events, rfl⟩ := hUnchanged.exists_eq_draw
    exact ⟨rfl, fun _ => rfl, fun _ _ => rfl⟩
  cases hBacks with
  | refused hUnchanged hPage => exact hNothing hUnchanged
  | starved hTaken => exact hNothing (hTaken.unchanged hBefore.sound)
  | failed hPage hTaken hInstalls hReleased =>
      obtain ⟨hSource, hLinks, hEntries⟩ := hInstalls.keeps_of_error
        (hTaken.wellFormed hBefore) (Layout.directorySlot_ne_of_not_reserved hPage)
      obtain ⟨hLimit, hBits⟩ := hReleased.undoes hBefore.stocked hTaken hSource
      refine ⟨?_, ?_, ?_⟩
      · ext number
        rw [FrameBitmap.mem_freeSet, FrameBitmap.mem_freeSet, FrameBitmap.freeAt,
          FrameBitmap.freeAt, hLimit, hBits]
      · intro slot
        obtain ⟨_, _, -, rfl⟩ := hReleased
        rw [← hTaken.link?_eq]
        exact hLinks slot
      · intro other hOther
        obtain ⟨_, _, -, rfl⟩ := hReleased
        rw [← hTaken.entryAt_eq]
        exact hEntries other hOther

/-- A page is not backed because it is not available, or because its price cannot be paid. -/
theorem Backs.not_payable (hBefore : before.WellFormed) {error : MapError}
    (hBacks : Backs before page flags (.error error) after) :
    ¬ (before.Available page ∧ before.price page.directorySlot ≤ before.spare) := by
  rintro ⟨⟨hFree, hOpen⟩, hPrice⟩
  cases hBacks with
  | refused hUnchanged hPage =>
      rw [hOpen] at hPage
      cases hPage
  | starved hTaken =>
      have hPositive := before.price_pos page.directorySlot
      rw [hTaken.spare_eq_zero hBefore.sound] at hPrice
      omega
  | failed hPage hTaken hInstalls hReleased =>
      have hTable := canTable_of_price_le (hTaken.spare_eq hBefore.stocked) hTaken.link?_eq hPrice
      rw [← hTaken.entryAt_eq] at hFree
      exact (hInstalls.unchanged_of_error (hTaken.sound hBefore.sound) (.inl hFree)).2 hTable

end Machine

end TwoLevelPaging
