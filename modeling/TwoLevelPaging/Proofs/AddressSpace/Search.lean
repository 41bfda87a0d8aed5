import TwoLevelPaging.Proofs.AddressSpace.Edit

/-!
# Searching for a free page

A page is `Available` if its entry is free and it is not reserved; pages of the
self-map never are.  The forward search answers with the least available page from
its start on (`exists_run_findFree`), and this determines the answer
(`FirstAvailable.unique`), so the search finds the same page through either view.
-/

namespace TwoLevelPaging

/-- The pages of a directory slot are those with a number in its 1024. -/
theorem Page.directorySlot_eq_of_bounds {page : VirtualPage} {slot : Slot}
    (hLower : slot.val * 1024 ≤ page.number) (hUpper : page.number < (slot.val + 1) * 1024) :
    page.directorySlot = slot := by
  apply Fin.ext
  simp only [directorySlot]
  omega

namespace Machine

variable {source : Type} {machine : Machine source}

/-- A mapping may be placed in the page: its entry is free and the page is not
reserved. -/
def Available (machine : Machine source) (page : VirtualPage) : Prop :=
  (machine.entryAt page).isFree = true ∧ Layout.isReserved page = false

/-- The answer of a search: the least available page from a number on. -/
def FirstAvailable (machine : Machine source) (start : Nat) : Option VirtualPage → Prop
  | none => ∀ page : VirtualPage, start ≤ page.number → ¬ machine.Available page
  | some found => start ≤ found.number ∧ machine.Available found ∧
      ∀ page : VirtualPage, start ≤ page.number → page.number < found.number →
        ¬ machine.Available page

theorem Available.directorySlot_ne {page : VirtualPage} (hAvailable : machine.Available page) :
    page.directorySlot ≠ Layout.selfMapSlot := by
  intro hSlot
  have hReserved := hAvailable.2
  simp [Layout.isReserved, Layout.isSelfMap, hSlot] at hReserved

theorem FirstAvailable.extend {start next : Nat} {found : Option VirtualPage}
    (hAnswer : machine.FirstAvailable next found) (hNext : start ≤ next)
    (hSkipped : ∀ page : VirtualPage, start ≤ page.number → page.number < next →
      ¬ machine.Available page) : machine.FirstAvailable start found := by
  cases found with
  | none =>
      intro page hStart
      by_cases hReached : next ≤ page.number
      · exact hAnswer page hReached
      · exact hSkipped page hStart (by omega)
  | some found =>
      obtain ⟨hReached, hAvailable, hLeast⟩ := hAnswer
      refine ⟨by omega, hAvailable, ?_⟩
      intro page hStart hBefore
      by_cases hAbove : next ≤ page.number
      · exact hLeast page hAbove hBefore
      · exact hSkipped page hStart (by omega)

/-- A search has one answer only. -/
theorem FirstAvailable.unique {start : Nat} {first second : Option VirtualPage}
    (hFirst : machine.FirstAvailable start first)
    (hSecond : machine.FirstAvailable start second) : first = second := by
  cases first with
  | none =>
      cases second with
      | none => rfl
      | some page => exact absurd hSecond.2.1 (hFirst page hSecond.1)
  | some page =>
      cases second with
      | none => exact absurd hFirst.2.1 (hSecond page hFirst.1)
      | some other =>
          have hNotBelow : ¬ page.number < other.number :=
            fun hBelow => hSecond.2.2 page hFirst.1 hBelow hFirst.2.1
          have hNotAbove : ¬ other.number < page.number :=
            fun hAbove => hFirst.2.2 other hSecond.1 hAbove hSecond.2.1
          rw [Page.ext (show page.number = other.number by omega)]

end Machine

namespace Action

variable {source : Type} {machine : Machine source}

/-- The table of a slot is asked for the least position whose page has a free entry. -/
theorem exists_run_freeSlot? (hNavigable : machine.Navigable) {slot : Slot}
    (hVisible : machine.view.hiddenSlots.contains slot = false)
    (hSlot : slot ≠ Layout.selfMapSlot) (start : Slot) :
    ∃ free, (freeSlot? slot start).run machine = .done free machine ∧
      free.map Subtype.val =
        Slot.first? start fun position =>
          (machine.entryAt (Page.ofSlots slot position)).isFree := by
  have hTable := run_table? hNavigable hVisible
    fun table hLink => hNavigable.table_installed hSlot hLink
  cases hLink : machine.link? slot with
  | none =>
      have hEntries : ∀ position, machine.entryAt (Page.ofSlots slot position) = Entry.zero :=
        fun position => Machine.entryAt_of_unlinked (by simpa using hLink)
      rw [hLink] at hTable
      refine ⟨some ⟨start, Fin.le_refl start⟩, by simp [freeSlot?, hTable], ?_⟩
      rw [Slot.first?_eq, hEntries, Entry.isFree_zero]
      rfl
  | some table =>
      have hEntries : (fun position => (machine.entryAt (Page.ofSlots slot position)).isFree) =
          (machine.memory.content table).isFreeAt := by
        funext position
        rw [Machine.entryAt_of_linked (by simpa using hLink), Page.tableSlot_ofSlots,
          Table.isFreeAt_eq]
      have hReaches := hNavigable.reaches_tableLocation hLink
        (hNavigable.table_installed hSlot hLink)
      rw [hLink] at hTable
      refine ⟨_, by
        simp only [freeSlot?, run_bind, hTable, Option.map_some, Outcome.andThen_done,
          run_readTable hReaches, run_pure]; rfl, ?_⟩
      rw [Option.attachWith_map_subtype_val, hEntries]
      rfl

/-- The probing of one slot finds its least position that is free and not reserved. -/
theorem run_findFreeIn (hNavigable : machine.Navigable) {slot : Slot}
    (hVisible : machine.view.hiddenSlots.contains slot = false)
    (hSlot : slot ≠ Layout.selfMapSlot) (start : Slot) :
    (findFreeIn slot start).run machine =
      .done ((Slot.first? start fun position =>
        (machine.entryAt (Page.ofSlots slot position)).isFree &&
          !Layout.isReserved (Page.ofSlots slot position)).map (Page.ofSlots slot)) machine := by
  -- Each retry starts behind the reserved page that the last one ended at.
  induction hDistance : 1024 - start.val using Nat.strongRecOn generalizing start with
  | ind distance ih =>
      obtain ⟨free, hRun, hFree⟩ := exists_run_freeSlot? hNavigable hVisible hSlot start
      rw [findFreeIn, run_bind, hRun, Outcome.andThen_done, Slot.first?_and, ← hFree]
      cases free with
      | none => rfl
      | some free =>
          obtain ⟨free, hReached⟩ := free
          cases hReserved : Layout.isReserved (Page.ofSlots slot free) with
          | false => simp [hReserved]
          | true =>
              simp only [hReserved, if_true, Option.map_some, Option.bind_some, Bool.not_true,
                Bool.false_eq_true, if_false]
              split
              case h_1 hNext => simp [hNext]
              case h_2 next hNext =>
                rw [ih _ (hDistance ▸ Slot.distance_lt hReached hNext) next rfl, hNext,
                  Option.bind_some]

/-- The search in one slot tests the availability of its pages. -/
theorem exists_run_findFreeIn (hNavigable : machine.Navigable) {slot : Slot}
    (hVisible : machine.view.hiddenSlots.contains slot = false)
    (hSlot : slot ≠ Layout.selfMapSlot) (start : Slot) :
    ∃ test : Slot → Bool,
      (findFreeIn slot start).run machine =
        .done ((Slot.first? start test).map (Page.ofSlots slot)) machine ∧
      ∀ position, test position = true ↔ machine.Available (Page.ofSlots slot position) := by
  refine ⟨_, run_findFreeIn hNavigable hVisible hSlot start, ?_⟩
  intro position
  simp [Machine.Available]

/-- A page whose position the test of its slot refuses is not available. -/
private theorem not_available_of_refused {slot : Slot} {test : Slot → Bool} {page : VirtualPage}
    (hTest : ∀ position, test position = true ↔ machine.Available (Page.ofSlots slot position))
    (hSlot : page.directorySlot = slot) (hRefused : test page.tableSlot = false) :
    ¬ machine.Available page := by
  intro hAvailable
  rw [← Page.ofSlots_directorySlot_tableSlot page, hSlot, ← hTest, hRefused] at hAvailable
  cases hAvailable

/-- The pages of a slot that the search passes over are not available. -/
private theorem not_available_of_skipped {slot start : Slot} {test : Slot → Bool} {stop : Nat}
    (hTest : ∀ position, test position = true ↔ machine.Available (Page.ofSlots slot position))
    (hStop : stop ≤ 1024)
    (hSkipped : ∀ position : Slot, start ≤ position → position.val < stop →
      test position = false) {page : VirtualPage}
    (hStart : (Page.ofSlots slot start).number ≤ page.number)
    (hBefore : page.number < slot.val * 1024 + stop) : ¬ machine.Available page := by
  simp only [Page.ofSlots] at hStart
  have hSlot : page.directorySlot = slot :=
    Page.directorySlot_eq_of_bounds (Nat.le_trans (Nat.le_add_right _ _) hStart) (by omega)
  refine not_available_of_refused hTest hSlot (hSkipped page.tableSlot ?_ ?_)
  · rw [Fin.le_def]
    simp only [Page.tableSlot]
    omega
  · simp only [Page.tableSlot]
    omega

/-- The position that the test of a slot finds first is that of the first available page. -/
private theorem firstAvailable_of_first? {slot start position : Slot} {test : Slot → Bool}
    (hTest : ∀ position, test position = true ↔ machine.Available (Page.ofSlots slot position))
    (hFirst : Slot.first? start test = some position) :
    machine.FirstAvailable (Page.ofSlots slot start).number
      (some (Page.ofSlots slot position)) := by
  obtain ⟨hStart, hPasses, hLeast⟩ := (Slot.first?_eq_some_iff start position test).mp hFirst
  refine ⟨Nat.add_le_add_left hStart _, (hTest position).mp hPasses, ?_⟩
  intro page hReached hBefore
  exact not_available_of_skipped hTest (Nat.le_of_lt position.isLt) hLeast hReached hBefore

/-- Where nothing is available from the start of a slot on, the first available page is that
from the first page of the next slot on. -/
private theorem firstAvailable_of_next {slot next start : Slot} {test : Slot → Bool}
    {found : Option VirtualPage}
    (hTest : ∀ position, test position = true ↔ machine.Available (Page.ofSlots slot position))
    (hNone : Slot.first? start test = none) (hNext : slot.next? = some next)
    (hAnswer : machine.FirstAvailable (Page.ofSlots next 0).number found) :
    machine.FirstAvailable (Page.ofSlots slot start).number found := by
  rw [Slot.first?_eq_none_iff] at hNone
  rw [Slot.next?_eq_some_iff] at hNext
  refine hAnswer.extend ?_ ?_
  · simp only [Page.ofSlots]
    omega
  · intro page hReached hBefore
    refine not_available_of_skipped hTest (Nat.le_refl 1024)
      (fun position hStart _ => hNone position hStart) hReached ?_
    simpa only [Page.ofSlots, Fin.val_zero, Nat.add_zero, hNext, Nat.add_mul,
      Nat.one_mul] using hBefore

/-- The pages of the self-map are reserved, so none of them is available. -/
private theorem firstAvailable_of_selfMap {slot start : Slot}
    (hTop : Layout.selfMapSlot.val ≤ slot.val) :
    machine.FirstAvailable (Page.ofSlots slot start).number none := by
  have hSelf : Layout.selfMapSlot.val = 1023 := rfl
  intro page hReached hAvailable
  apply hAvailable.directorySlot_ne
  have hLast := page.directorySlot.isLt
  apply Fin.ext
  simp only [Page.ofSlots] at hReached
  simp only [Page.directorySlot] at hLast ⊢
  omega

theorem exists_run_findFreeFrom (hNavigable : machine.Navigable)
    (hOpen : machine.view.Unrestricted) (slot start : Slot) :
    ∃ found, (findFreeFrom slot start).run machine = .done found machine ∧
      machine.FirstAvailable (Page.ofSlots slot start).number found := by
  -- The search moves to a higher slot until it meets the self-map.
  induction hDistance : 1024 - slot.val using Nat.strongRecOn generalizing slot start with
  | ind distance ih =>
      rw [findFreeFrom]
      by_cases hBelow : slot.val < Layout.selfMapSlot.val
      · have hSlot : slot ≠ Layout.selfMapSlot := by
          rintro rfl
          exact Nat.lt_irrefl _ hBelow
        obtain ⟨test, hRun, hTest⟩ :=
          exists_run_findFreeIn hNavigable (hOpen.visible slot) hSlot start
        cases hFirst : Slot.first? start test with
        | some position =>
            rw [hFirst] at hRun
            exact ⟨_, by simp [hBelow, hRun], firstAvailable_of_first? hTest hFirst⟩
        | none =>
            rw [if_pos hBelow, run_bind, hRun, hFirst]
            simp only [Option.map_none, Outcome.andThen_done]
            split
            case h_1 hNext =>
              have hSelf : Layout.selfMapSlot.val = 1023 := rfl
              have hLast : slot.next? = some ⟨slot.val + 1, by omega⟩ :=
                (Slot.next?_eq_some_iff _ _).mpr rfl
              rw [hLast] at hNext
              cases hNext
            case h_2 next hNext =>
              obtain ⟨found, hRest, hAnswer⟩ :=
                ih _ (hDistance ▸ Slot.distance_lt (Fin.le_refl slot) hNext) next 0 rfl
              exact ⟨found, hRest, firstAvailable_of_next hTest hFirst hNext hAnswer⟩
      · exact ⟨none, by simp [hBelow], firstAvailable_of_selfMap (Nat.not_lt.mp hBelow)⟩

/-- The search for a free page ends with the least available one and changes
nothing. -/
theorem exists_run_findFree (hNavigable : machine.Navigable) (hOpen : machine.view.Unrestricted)
    (page : VirtualPage) :
    ∃ found, (findFree page).run machine = .done found machine ∧
      machine.FirstAvailable page.number found := by
  have hSearch := exists_run_findFreeFrom hNavigable hOpen page.directorySlot page.tableSlot
  rw [Page.ofSlots_directorySlot_tableSlot] at hSearch
  exact hSearch

end Action

end TwoLevelPaging
