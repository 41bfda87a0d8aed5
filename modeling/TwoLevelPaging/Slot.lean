import TwoLevelPaging.Page
import TwoLevelPaging.Text.Record

/-!
# Slots

A paging structure has 1024 entries; a slot is the index of one.  The number of
a virtual page is two slots side by side: the directory slot selects the table
and the table slot the entry in it (`ofSlots_directorySlot_tableSlot`).

`Slot.first?` is the forward search on slots that every probe for a free entry
uses: it finds the least slot from a given one on that passes a test
(`first?_eq_some_iff`).
-/

namespace TwoLevelPaging

/-- The index of an entry of a page table or of the page directory. -/
abbrev Slot := Fin 1024

namespace Slot

/-- The slot of a number; 1024 or more is a fault. -/
def ofNat (number : Nat) : Except Fault Slot :=
  if hInside : number < 1024 then .ok ⟨number, hInside⟩ else .error .violated

/-- The slot above, if there is one. -/
def next? (slot : Slot) : Option Slot :=
  if hInside : slot.val + 1 < 1024 then some ⟨slot.val + 1, hInside⟩ else none

/-- The least slot that is not below `start` and passes the test. -/
def first? (start : Slot) (test : Slot → Bool) : Option Slot :=
  if test start then
    some start
  else if hInside : start.val + 1 < 1024 then
    first? ⟨start.val + 1, hInside⟩ test
  else
    none
termination_by 1024 - start.val

theorem next?_eq_some_iff (slot next : Slot) :
    slot.next? = some next ↔ next.val = slot.val + 1 := by
  unfold next?
  split
  case isTrue hInside =>
    simp only [Option.some.injEq, Fin.ext_iff]
    exact eq_comm
  case isFalse hOutside =>
    have hTop := next.isLt
    simp only [reduceCtorEq, false_iff]
    omega

/-- A loop that goes on behind a slot that it has reached comes closer to the end. -/
theorem distance_lt {start reached next : Slot} (hReached : start ≤ reached)
    (hNext : reached.next? = some next) : 1024 - next.val < 1024 - start.val := by
  have hTop := next.isLt
  rw [next?_eq_some_iff] at hNext
  rw [Fin.le_def] at hReached
  omega

theorem first?_eq_none_iff (start : Slot) (test : Slot → Bool) :
    first? start test = none ↔ ∀ slot : Slot, start ≤ slot → test slot = false := by
  fun_induction first? start test with
  | case1 start hPasses =>
      simp only [reduceCtorEq, false_iff]
      intro hAll
      have hRefused := hAll start (Fin.le_refl start)
      simp [hPasses] at hRefused
  | case2 start hRefused hInside ih =>
      rw [ih]
      constructor
      · intro hAbove slot hReached
        by_cases hSame : slot = start
        · simpa [hSame] using hRefused
        · apply hAbove
          rw [Fin.le_def] at hReached ⊢
          have hDifferent : slot.val ≠ start.val := fun hEqual => hSame (Fin.ext hEqual)
          simp only
          omega
      · intro hAll slot hReached
        apply hAll
        rw [Fin.le_def] at hReached ⊢
        simp only at hReached
        omega
  | case3 start hRefused hOutside =>
      simp only [true_iff]
      intro slot hReached
      have hSame : slot = start := by
        apply Fin.ext
        have hTop := slot.isLt
        rw [Fin.le_def] at hReached
        omega
      simpa [hSame] using hRefused

theorem first?_eq_some_iff (start found : Slot) (test : Slot → Bool) :
    first? start test = some found ↔
      start ≤ found ∧ test found = true ∧
        ∀ slot : Slot, start ≤ slot → slot < found → test slot = false := by
  fun_induction first? start test with
  | case1 start hPasses =>
      simp only [Option.some.injEq]
      constructor
      · rintro rfl
        refine ⟨Fin.le_refl _, hPasses, ?_⟩
        intro slot hReached hBefore
        exact absurd (Fin.le_def.mp hReached) (Nat.not_le.mpr hBefore)
      · rintro ⟨hReached, -, hLeast⟩
        apply Classical.byContradiction
        intro hDifferent
        have hBefore : start < found :=
          Fin.lt_def.mpr (Nat.lt_of_le_of_ne (Fin.le_def.mp hReached)
            fun hEqual => hDifferent (Fin.ext hEqual))
        have hRefused := hLeast start (Fin.le_refl start) hBefore
        simp [hPasses] at hRefused
  | case2 start hRefused hInside ih =>
      rw [ih]
      constructor
      · rintro ⟨hReached, hPasses, hLeast⟩
        rw [Fin.le_def] at hReached
        simp only at hReached
        refine ⟨Fin.le_def.mpr (by omega), hPasses, ?_⟩
        intro slot hAbove hBefore
        by_cases hSame : slot = start
        · simpa [hSame] using hRefused
        · refine hLeast slot ?_ hBefore
          rw [Fin.le_def] at hAbove ⊢
          have hDifferent : slot.val ≠ start.val := fun hEqual => hSame (Fin.ext hEqual)
          simp only
          omega
      · rintro ⟨hReached, hPasses, hLeast⟩
        have hDifferent : found ≠ start := by
          rintro rfl
          simp [hPasses] at hRefused
        have hApart : found.val ≠ start.val := fun hEqual => hDifferent (Fin.ext hEqual)
        rw [Fin.le_def] at hReached
        refine ⟨Fin.le_def.mpr (by simp only; omega), hPasses, ?_⟩
        intro slot hAbove hBefore
        rw [Fin.le_def] at hAbove
        simp only at hAbove
        exact hLeast slot (Fin.le_def.mpr (by omega)) hBefore
  | case3 start hRefused hOutside =>
      simp only [reduceCtorEq, false_iff]
      rintro ⟨hReached, hPasses, -⟩
      have hSame : found = start := by
        apply Fin.ext
        have hTop := found.isLt
        rw [Fin.le_def] at hReached
        omega
      simp [hSame, hRefused] at hPasses

/-- A search resumes at the next slot where its first one is refused. -/
theorem first?_eq (start : Slot) (test : Slot → Bool) :
    first? start test =
      if test start then some start else start.next?.bind fun next => first? next test := by
  rw [first?, next?]
  split
  · rfl
  · split <;> rfl

/-- A search may start behind slots that it refuses anyway. -/
theorem first?_eq_of_skipped {start next : Slot} {test : Slot → Bool} (hLe : start ≤ next)
    (hSkipped : ∀ slot : Slot, start ≤ slot → slot < next → test slot = false) :
    first? start test = first? next test := by
  cases hNext : first? next test with
  | none =>
      rw [first?_eq_none_iff] at hNext ⊢
      intro slot hReached
      by_cases hBefore : slot < next
      · exact hSkipped slot hReached hBefore
      · exact hNext slot (Fin.not_lt.mp hBefore)
  | some found =>
      rw [first?_eq_some_iff] at hNext ⊢
      obtain ⟨hReached, hPasses, hLeast⟩ := hNext
      refine ⟨Fin.le_trans hLe hReached, hPasses, ?_⟩
      intro slot hAbove hBefore
      by_cases hSkip : slot < next
      · exact hSkipped slot hAbove hSkip
      · exact hLeast slot (Fin.not_lt.mp hSkip) hBefore

/-- To search with two tests is to search with the first one, and again behind every
slot that the second one refuses. -/
theorem first?_and (start : Slot) (test other : Slot → Bool) :
    (first? start fun slot => test slot && other slot) =
      (first? start test).bind fun found =>
        if other found then some found
        else found.next?.bind fun next => first? next fun slot => test slot && other slot := by
  cases hFirst : first? start test with
  | none =>
      rw [Option.bind_none, first?_eq_none_iff]
      intro slot hReached
      rw [(first?_eq_none_iff start test).mp hFirst slot hReached, Bool.false_and]
  | some found =>
      obtain ⟨hReached, hPasses, hLeast⟩ := (first?_eq_some_iff start found test).mp hFirst
      rw [first?_eq_of_skipped hReached fun slot hAbove hBefore => by
        rw [hLeast slot hAbove hBefore, Bool.false_and], first?_eq, hPasses, Bool.true_and,
        Option.bind_some]

end Slot

namespace Page

/-- There are as many tables of 1024 pages as slots. -/
theorem number_div_lt (page : VirtualPage) : page.number / 1024 < 1024 := by
  have hBound := page.number_lt
  simp only [PageSize.count] at hBound
  omega

/-- The slot of the directory entry on the walk to the page. -/
def directorySlot (page : VirtualPage) : Slot :=
  ⟨page.number / 1024, page.number_div_lt⟩

/-- The slot of the entry in the page's table. -/
def tableSlot (page : VirtualPage) : Slot :=
  ⟨page.number % 1024, Nat.mod_lt _ (by decide)⟩

/-- Two slots side by side are the number of a page. -/
theorem slots_lt_count (directory table : Slot) :
    directory.val * 1024 + table.val < PageSize.small.count := by
  have hFirst := directory.isLt
  have hSecond := table.isLt
  simp only [PageSize.count]
  omega

/-- The virtual page reached through these two slots. -/
def ofSlots (directory table : Slot) : VirtualPage :=
  ⟨directory.val * 1024 + table.val, slots_lt_count directory table⟩

/-- The two slots of the page by name. -/
def slotsDebug (page : VirtualPage) : String :=
  Text.wrapped "DirectoryIndex" (Text.decimal page.directorySlot.val) ++ " " ++
    Text.wrapped "TableIndex" (Text.decimal page.tableSlot.val)

@[simp]
theorem directorySlot_ofSlots (directory table : Slot) :
    (ofSlots directory table).directorySlot = directory := by
  have hBound := table.isLt
  apply Fin.ext
  simp only [directorySlot, ofSlots]
  omega

@[simp]
theorem tableSlot_ofSlots (directory table : Slot) :
    (ofSlots directory table).tableSlot = table := by
  have hBound := table.isLt
  apply Fin.ext
  simp only [tableSlot, ofSlots]
  omega

@[simp]
theorem ofSlots_directorySlot_tableSlot (page : VirtualPage) :
    ofSlots page.directorySlot page.tableSlot = page := by
  apply Page.ext
  simp only [directorySlot, tableSlot, ofSlots]
  omega

end Page

end TwoLevelPaging
