import TwoLevelPaging.Proofs.FrameBitmap.Effect

/-!
# What always holds of a bitmap

A bitmap is `Intact` if every managed frame has a bit, the search resumes inside the managed
range or right behind it, and every bit behind the managed range is set.  A new bitmap is
intact, and every call on an intact one is answered, whatever its arguments, and leaves an
intact one (`Intact.exists_perform_eq`).  So every sequence of calls can be made, and every
run leaves an intact bitmap (`Runs.exists_append`, `Runs.intact`).

All this asks of the size is that the bits can be numbered in 32 bits.  Such a bitmap may have
bits for more than 4 GiB, and then not every frame has a page, so nothing here speaks of the
pages that are handed out.
-/

namespace TwoLevelPaging
namespace FrameBitmap

variable {size : Nat} {bitmap before after : FrameBitmap size} {frame : Nat}

/-- The search resumes at an allocatable frame, or right behind the managed range. -/
structure CursorInRange (bitmap : FrameBitmap size) : Prop where
  allocatable : firstAllocatable ≤ bitmap.cursor
  managed : bitmap.cursor ≤ max firstAllocatable bitmap.limit

/-! ## Intact bitmaps -/

/-- What always holds of a bitmap: the managed frames have bits, the cursor is in range, and
behind the managed range every bit is set. -/
structure Intact (bitmap : FrameBitmap size) : Prop extends CursorInRange bitmap where
  fits : bitmap.Fits
  full : ∀ position, bitmap.limit ≤ position → bitmap.isOccupied position = true

/-- A whole number of bytes leaves room for one more before the top of a 32-bit register. -/
theorem Intact.sound (hIntact : bitmap.Intact) (hSize : size * 8 < 0x100000000) :
    bitmap.Sound := by
  have hFits : bitmap.limit ≤ size * 8 := hIntact.fits
  exact ⟨hFits, by omega⟩

/-- Whatever it held before, a bitmap is intact when the management starts. -/
theorem intact_start (bitmap : FrameBitmap size) (bytes : Nat) : (bitmap.start bytes).Intact where
  allocatable := Nat.le_refl _
  managed := Nat.le_max_left _ _
  fits := Nat.min_le_right _ _
  full position _ := by simp [isOccupied, start]

/-- A new bitmap is one that has just started to manage no memory. -/
theorem start_zero (bitmap : FrameBitmap size) : bitmap.start 0 = empty size := by
  simp [start, empty, framesBelow]

/-- A change of bits of managed frames, with a cursor that is in range afterwards. -/
theorem Intact.of_kept (hIntact : before.Intact) (hLimit : after.limit = before.limit)
    (hCursor : after.CursorInRange)
    (hBits : ∀ other, before.limit ≤ other → after.isOccupied other = before.isOccupied other) :
    after.Intact where
  toCursorInRange := hCursor
  fits := by
    have hFits : before.limit ≤ size * 8 := hIntact.fits
    rwa [← hLimit] at hFits
  full position hBehind := by
    rw [hLimit] at hBehind
    rw [hBits position hBehind]
    exact hIntact.full position hBehind

theorem CursorInRange.congr (hCursor : before.CursorInRange) (hLimit : after.limit = before.limit)
    (hSame : after.cursor = before.cursor) : after.CursorInRange := by
  have hAllocatable := hCursor.allocatable
  have hManaged := hCursor.managed
  constructor <;> omega

/-- Behind a managed frame the cursor is in range. -/
theorem cursorInRange_behind (hManaged : frame < after.limit) (hCursor : after.cursor = frame + 1) :
    after.CursorInRange := by
  constructor
  · simp only [firstAllocatable]
    omega
  · omega

/-! ## One call -/

/-- Whatever a call does to an intact bitmap, it leaves an intact one. -/
theorem Intact.of_effect (hIntact : before.Intact) {record : Record}
    (hEffect : Effect before record after) : after.Intact := by
  cases hEffect with
  | started bytes => exact intact_start before bytes
  | unchanged => exact hIntact
  | marked covers occupied hLimit hCursor hBits =>
      refine hIntact.of_kept hLimit (hIntact.toCursorInRange.congr hLimit hCursor) ?_
      intro other hBehind
      rw [hBits, if_neg (by omega)]
  | handedOut number hPositive hFree hMarks hCursor =>
      have hManaged : number < after.limit := hMarks.limit ▸ lt_limit_of_freeAt hFree
      refine hIntact.of_kept hMarks.limit (cursorInRange_behind hManaged hCursor) ?_
      intro other hBehind
      exact hMarks.others other (by have hLimit := hMarks.limit; omega)
  | takenBack number hReleasable hMarks hCursor =>
      obtain ⟨-, hManaged, -⟩ := hReleasable
      refine hIntact.of_kept hMarks.limit
        (hIntact.toCursorInRange.congr hMarks.limit hCursor) ?_
      intro other hBehind
      exact hMarks.others other (by omega)

/-- Every call on an intact bitmap is answered, and leaves an intact one. -/
theorem Intact.exists_perform_eq (hIntact : bitmap.Intact) (hSize : size * 8 < 0x100000000)
    (operation : Operation) :
    ∃ outcome after, bitmap.perform operation = .ok (outcome, after) ∧ after.Intact := by
  obtain ⟨outcome, after, hPerform, hEffect⟩ := (hIntact.sound hSize).performs operation
  exact ⟨outcome, after, hPerform, hIntact.of_effect hEffect⟩

/-! ## Runs -/

namespace Runs

variable {history : History}

/-- Every run leaves an intact bitmap. -/
theorem intact (hRuns : Runs size history bitmap) (hSize : size * 8 < 0x100000000) :
    bitmap.Intact := by
  induction hRuns with
  | new =>
      rw [← start_zero (empty size)]
      exact intact_start _ 0
  | next hRuns hPerform ih => exact ih.of_effect ((ih.sound hSize).effect hPerform)

/-- A run can be continued with whatever calls, the newest of them first. -/
theorem exists_append (hRuns : Runs size history bitmap) (hSize : size * 8 < 0x100000000)
    (operations : List Operation) :
    ∃ records last, Runs size (records ++ history) last ∧
      records.map Record.operation = operations := by
  induction operations with
  | nil => exact ⟨[], bitmap, hRuns, rfl⟩
  | cons operation earlier ih =>
      obtain ⟨records, middle, hMiddle, rfl⟩ := ih
      obtain ⟨outcome, last, hPerform, -⟩ :=
        (hMiddle.intact hSize).exists_perform_eq hSize operation
      exact ⟨⟨operation, outcome⟩ :: records, last, hMiddle.next hPerform, rfl⟩

end Runs

end FrameBitmap
end TwoLevelPaging
