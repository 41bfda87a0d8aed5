import Mathlib.Data.List.Range
import TwoLevelPaging.Proofs.FrameBitmap.History
import TwoLevelPaging.Proofs.FrameBitmap.Representation

/-!
# Next-fit, one frame at a time

`searchOrder` lists the frames in the order in which next-fit looks at them.  The search
skips bytes without a clear bit and works on two intervals, but it finds the first free frame
of that list (`Sound.nextFree?_eq`).  This needs a cursor between the first allocatable frame
and the end of the managed range (`CursorInRange`), where it is after every run.  It moves only
when the bitmap is started or a frame is handed out (`Sound.cursor_cases`).
-/

namespace TwoLevelPaging
namespace FrameBitmap

variable {size : Nat} {bitmap before after : FrameBitmap size} {frame : Nat}

/-! ## Where the cursor is -/

/-- What a call does to the limit and the cursor: a start sets both, and beside it only a
frame that is handed out moves the cursor, which is behind it then. -/
theorem Sound.cursor_cases (hSound : bitmap.Sound) (hSize : size ≤ fullSize)
    {operation : Operation} {outcome : Outcome}
    (hPerform : bitmap.perform operation = .ok (outcome, after)) :
    ((∃ bytes, operation = .start bytes) ∧ after.cursor = firstAllocatable) ∨
      (after.limit = bitmap.limit ∧
        after.cursor = ((Record.mk operation outcome).handedOut?.map
          fun page => page.number + 1).getD bitmap.cursor) := by
  cases hSound.effect hPerform with
  | started bytes => exact .inl ⟨⟨bytes, rfl⟩, rfl⟩
  | unchanged hOut =>
      refine .inr ⟨rfl, ?_⟩
      rw [hOut]
      rfl
  | marked covers occupied hLimit hCursor hBits hOut =>
      refine .inr ⟨hLimit, ?_⟩
      rw [hOut]
      exact hCursor
  | handedOut number hPositive hFree hMarks hCursor hOut =>
      refine .inr ⟨hMarks.limit, ?_⟩
      rw [hOut, Option.map_some, number_ofNumber_of_freeAt hSize hSound hFree]
      exact hCursor
  | takenBack number hReleasable hMarks hCursor hOut =>
      refine .inr ⟨hMarks.limit, ?_⟩
      rw [hOut]
      exact hCursor

theorem Runs.cursorInRange {history : History} (hRuns : Runs size history bitmap)
    (hSize : size ≤ fullSize) : bitmap.CursorInRange := by
  have hBits : size * 8 < 0x100000000 := by
    unfold fullSize at hSize
    omega
  exact (hRuns.intact hBits).toCursorInRange

/-! ## The first free frame -/

/-- The frames in the order in which next-fit looks at them: from the cursor to the end of the
managed range, and then those in front of the cursor. -/
def searchOrder (bitmap : FrameBitmap size) : List Nat :=
  List.range' bitmap.cursor (bitmap.limit - bitmap.cursor) ++
    List.range' firstAllocatable (bitmap.cursor - firstAllocatable)

/-- Every managed frame but frame zero is looked at, and no other. -/
theorem CursorInRange.mem_searchOrder (hCursor : bitmap.CursorInRange) :
    frame ∈ bitmap.searchOrder ↔ firstAllocatable ≤ frame ∧ frame < bitmap.limit := by
  have hAllocatable := hCursor.allocatable
  have hManaged := hCursor.managed
  rw [searchOrder, List.mem_append, List.mem_range'_1, List.mem_range'_1]
  omega

/-- The least free frame of an interval is the first one of its list. -/
theorem IsLeastFree.find?_eq {start stop : Nat} {found : Option Nat}
    (hAnswer : bitmap.IsLeastFree start stop found) :
    (List.range' start (stop - start)).find? bitmap.freeAt = found := by
  cases found with
  | none =>
      rw [List.find?_range'_eq_none]
      intro frame hStart hStop
      rw [hAnswer frame hStart (by omega)]
      rfl
  | some found =>
      obtain ⟨hStart, hStop, hFree, hLeast⟩ := hAnswer
      rw [List.find?_range'_eq_some]
      refine ⟨hFree, List.mem_range'_1.mpr ⟨hStart, by omega⟩, ?_⟩
      intro frame hReached hBefore
      rw [hLeast frame hReached hBefore]
      rfl

/-- The search with its skipped bytes finds the first free frame of the search order. -/
theorem Sound.nextFree?_eq (hSound : bitmap.Sound) (hCursor : bitmap.CursorInRange) :
    bitmap.nextFree? = .ok (bitmap.searchOrder.find? bitmap.freeAt) := by
  have hAllocatable := hCursor.allocatable
  have hManaged := hCursor.managed
  have hStart : max bitmap.cursor firstAllocatable = bitmap.cursor := by omega
  -- An empty managed range has the cursor behind it, and nothing in front of the cursor.
  have hHead : min bitmap.cursor bitmap.limit - firstAllocatable =
      bitmap.cursor - firstAllocatable := by omega
  obtain ⟨tail, hTail, hTailAnswer⟩ :=
    exists_scan_eq hSound bitmap.cursor bitmap.limit (Nat.le_refl _)
  obtain ⟨head, hScan, hHeadAnswer⟩ :=
    exists_scan_eq hSound firstAllocatable (min bitmap.cursor bitmap.limit) (Nat.min_le_right _ _)
  have hHeadFound := hHeadAnswer.find?_eq
  rw [hHead] at hHeadFound
  rw [searchOrder, List.find?_append, hTailAnswer.find?_eq, hHeadFound, nextFree?, hStart, hTail]
  cases tail with
  | some frame => rfl
  | none => exact hScan

/-- Asking frames one by one finds the first free one. -/
theorem findM?_isFree_eq (hFits : bitmap.Fits) (frames : List Nat) :
    frames.findM? bitmap.isFree = .ok (frames.find? bitmap.freeAt) := by
  induction frames with
  | nil => rfl
  | cons frame rest ih =>
      rw [List.findM?, isFree_eq hFits, List.find?_cons]
      cases bitmap.freeAt frame with
      | true => rfl
      | false => exact ih

/-! ## Allocation -/

/-- The frame that the search has found is the one that is handed out. -/
theorem exists_allocate_eq_of_nextFree? (hSound : bitmap.Sound)
    (hNext : bitmap.nextFree? = .ok (some frame)) (hManaged : frame < bitmap.limit) :
    ∃ after, bitmap.allocate = .ok (.ok frame, after) ∧ after.limit = bitmap.limit ∧
      after.cursor = frame + 1 ∧
      ∀ other, after.isOccupied other = (bitmap.isOccupied other || other == frame) := by
  obtain ⟨after, hOccupy, hAfter⟩ := exists_occupy_eq hSound hManaged
  refine ⟨after, ?_, hAfter⟩
  simp [allocate, hNext, hOccupy, Except.map]

/-- What plain next-fit asks of an allocation when it has met this frame, or none, first. -/
def HandsOut (bitmap : FrameBitmap size) : Option Nat → Prop
  | some frame => ∃ page after,
      bitmap.perform .allocate = .ok (.allocated (.ok page), after) ∧ page.number = frame ∧
        after.limit = bitmap.limit ∧ after.cursor = frame + 1 ∧
        bitmap.isOccupied frame = false ∧
        ∀ other, after.isOccupied other = (bitmap.isOccupied other || other == frame)
  | none => bitmap.perform .allocate = .ok (.allocated (.error .outOfMemory), bitmap)

theorem Sound.handsOut (hSound : bitmap.Sound) (hCursor : bitmap.CursorInRange)
    (hSize : size ≤ fullSize) : bitmap.HandsOut (bitmap.searchOrder.find? bitmap.freeAt) := by
  have hNext := hSound.nextFree?_eq hCursor
  cases hFound : bitmap.searchOrder.find? bitmap.freeAt with
  | none =>
      rw [hFound] at hNext
      have hAllocate : bitmap.allocate = .ok (.error .outOfMemory, bitmap) := by
        simp [allocate, hNext]
      rw [HandsOut, perform, hAllocate]
      rfl
  | some frame =>
      rw [hFound] at hNext
      have hFree := List.find?_some hFound
      obtain ⟨after, hAllocate, hLimit, hBehind, hBits⟩ :=
        exists_allocate_eq_of_nextFree? hSound hNext (lt_limit_of_freeAt hFree)
      refine ⟨Page.ofNumber frame, after, ?_, number_ofNumber_of_freeAt hSize hSound hFree,
        hLimit, hBehind, ((freeAt_eq_true_iff _ _).mp hFree).2, hBits⟩
      rw [perform, hAllocate]
      rfl

/-- Skipping full bytes changes nothing: after every run of a bitmap for at most 4 GiB an
allocation hands out the first frame of the search order that is free when asked for, and
is out of memory exactly if no frame but frame zero is free. -/
theorem Runs.allocate_next_fit {history : History} (hSize : size ≤ fullSize)
    (hRuns : Runs size history bitmap) :
    ∃ found, bitmap.searchOrder.findM? bitmap.isFree = .ok found ∧ bitmap.HandsOut found ∧
      (found = none ↔ ∀ frame, 1 ≤ frame → frame < bitmap.limit →
        bitmap.isFree frame = .ok false) := by
  have hSound := hRuns.sound hSize
  have hCursor := hRuns.cursorInRange hSize
  refine ⟨bitmap.searchOrder.find? bitmap.freeAt, findM?_isFree_eq hSound.fits _,
    hSound.handsOut hCursor hSize, ?_⟩
  rw [List.find?_eq_none]
  constructor
  · intro hNone frame hPositive hManaged
    have hOccupied := hNone frame (hCursor.mem_searchOrder.mpr ⟨hPositive, hManaged⟩)
    rw [isFree_eq hSound.fits, Bool.eq_false_of_not_eq_true hOccupied]
  · intro hNone frame hMember hFree
    obtain ⟨hPositive, hManaged⟩ := hCursor.mem_searchOrder.mp hMember
    have hOccupied := hNone frame hPositive hManaged
    rw [isFree_eq hSound.fits, hFree] at hOccupied
    cases hOccupied

/-- Frame 10 of twelve is handed out, and then frame 5 is freed in front of the cursor. -/
def wrapped : History :=
  [⟨.mark 5 false, .done⟩, ⟨.allocate, .allocated (.ok (Page.ofNumber 10))⟩,
    ⟨.mark 10 false, .done⟩, ⟨.start 0xC000, .done⟩]

theorem runs_wrapped : Runs 2 wrapped ⟨#v[0xFB, 0xFF], 12, 11⟩ := by
  have hStart : Runs 2 [⟨.start 0xC000, .done⟩] ⟨#v[0xFF, 0xFF], 12, 1⟩ := .next .new rfl
  have hMark : Runs 2 [⟨.mark 10 false, .done⟩, ⟨.start 0xC000, .done⟩]
      ⟨#v[0xFF, 0xDF], 12, 1⟩ := .next hStart rfl
  have hAllocate : FrameBitmap.allocate (⟨#v[0xFF, 0xDF], 12, 1⟩ : FrameBitmap 2) =
      .ok (.ok 10, ⟨#v[0xFF, 0xFF], 12, 11⟩) := by decide +kernel
  have hTaken : Runs 2 [⟨.allocate, .allocated (.ok (Page.ofNumber 10))⟩,
      ⟨.mark 10 false, .done⟩, ⟨.start 0xC000, .done⟩] ⟨#v[0xFF, 0xFF], 12, 11⟩ :=
    .next hMark (by
      rw [perform, hAllocate]
      rfl)
  exact .next hTaken rfl

/-- Nothing is free behind the cursor, and the search goes on to frame 5. -/
theorem allocate_wrapped : 2 ≤ fullSize ∧ Runs 2 wrapped ⟨#v[0xFB, 0xFF], 12, 11⟩ ∧
    (⟨#v[0xFB, 0xFF], 12, 11⟩ : FrameBitmap 2).searchOrder = [11, 1, 2, 3, 4, 5, 6, 7, 8, 9, 10] ∧
    (⟨#v[0xFB, 0xFF], 12, 11⟩ : FrameBitmap 2).HandsOut (some 5) := by
  refine ⟨by decide, runs_wrapped, by decide, ?_⟩
  obtain ⟨found, hFound, hOut, -⟩ := Runs.allocate_next_fit (by decide) runs_wrapped
  have hFive : (⟨#v[0xFB, 0xFF], 12, 11⟩ : FrameBitmap 2).searchOrder.findM?
      (⟨#v[0xFB, 0xFF], 12, 11⟩ : FrameBitmap 2).isFree = .ok (some 5) := by decide +kernel
  obtain rfl := Except.ok.inj (hFive.symm.trans hFound)
  exact hOut

end FrameBitmap
end TwoLevelPaging
