import TwoLevelPaging.FrameBitmap.Basic

/-!
# The bitmap as a set of frames

`hasBit` reads the bit of a frame in its byte, `isOccupied` in the bitmap, where
a frame without a bit counts as occupied, and `freeAt` is the resulting set of
free frames.

While the managed frames all have bits (`Fits`), the operations on single frames
do not fault: `isFree` answers with the view, and `mark` changes it at one frame
and nowhere else.  The bits say all there is about the bytes
(`eq_of_isOccupied_eq`).
-/

namespace TwoLevelPaging
namespace FrameBitmap

variable {size : Nat}

/-- Whether the bit of a frame is set in its byte. -/
def hasBit (byte : UInt8) (frame : Nat) : Bool :=
  byte.toBitVec.getLsbD (7 - frame % 8)

/-- Whether the bit of a frame is set; without a bit it counts as set. -/
def isOccupied (bitmap : FrameBitmap size) (frame : Nat) : Bool :=
  if hInside : frame / 8 < size then hasBit bitmap.bytes[frame / 8] frame else true

/-- Whether a frame is managed and its bit is clear. -/
def freeAt (bitmap : FrameBitmap size) (frame : Nat) : Bool :=
  decide (frame < bitmap.limit) && !bitmap.isOccupied frame

/-- Every managed frame has a bit. -/
def Fits (bitmap : FrameBitmap size) : Prop :=
  bitmap.limit ≤ size * 8

/-! ## Bits of a byte -/

theorem toBitVec_mask (frame : Nat) :
    (mask frame).toBitVec = BitVec.twoPow 8 (7 - frame % 8) := by
  have hEvery : ∀ bit : Fin 8,
      ((0x80 : UInt8) >>> UInt8.ofNat bit.val).toBitVec = BitVec.twoPow 8 (7 - bit.val) := by
    decide
  exact hEvery ⟨frame % 8, Nat.mod_lt _ (by decide)⟩

theorem mask_ne_zero (frame : Nat) : mask frame ≠ 0 := by
  have hEvery : ∀ bit : Fin 8, (0x80 : UInt8) >>> UInt8.ofNat bit.val ≠ 0 := by
    decide
  exact hEvery ⟨frame % 8, Nat.mod_lt _ (by decide)⟩

/-- Masking a byte with the bit of a frame tests that bit. -/
theorem and_mask_eq_zero (byte : UInt8) (frame : Nat) :
    (byte &&& mask frame == 0) = !hasBit byte frame := by
  have hMasked : byte &&& mask frame = if hasBit byte frame then mask frame else 0 := by
    rw [← UInt8.toBitVec_inj, UInt8.toBitVec_and, toBitVec_mask, BitVec.and_twoPow, hasBit]
    by_cases hSet : byte.toBitVec.getLsbD (7 - frame % 8) = true
    · rw [if_pos hSet, if_pos hSet, toBitVec_mask]
    · rw [if_neg hSet, if_neg hSet]
      rfl
  rw [hMasked]
  cases hasBit byte frame
  · rfl
  · simp [mask_ne_zero frame]

/-- Painting with the bit of a frame sets that bit and keeps the others. -/
theorem hasBit_paint_mask (occupied : Bool) (byte : UInt8) (frame other : Nat) :
    hasBit (paint occupied (mask frame) byte) other =
      if other % 8 = frame % 8 then occupied else hasBit byte other := by
  have hFrameBit : frame % 8 < 8 := Nat.mod_lt _ (by decide)
  have hOtherBit : other % 8 < 8 := Nat.mod_lt _ (by decide)
  by_cases hSame : other % 8 = frame % 8
  · cases occupied with
    | false => simp [hasBit, paint, toBitVec_mask, hSame]
    | true =>
      simp [hasBit, paint, toBitVec_mask, hSame]
      omega
  · cases occupied with
    | false =>
      simp [hasBit, paint, toBitVec_mask, hSame]
      omega
    | true =>
      simp [hasBit, paint, toBitVec_mask, hSame]
      omega

/-! ## Bytes of the bitmap -/

theorem Fits.byte_lt {bitmap : FrameBitmap size} (hFits : bitmap.Fits) {frame : Nat}
    (hManaged : frame < bitmap.limit) : frame / 8 < size := by
  unfold Fits at hFits
  omega

theorem byteAt_of_lt (bitmap : FrameBitmap size) {position : Nat} (hInside : position < size) :
    bitmap.byteAt position = .ok bitmap.bytes[position] := by
  rw [byteAt, dif_pos hInside]

theorem editByte_of_lt (bitmap : FrameBitmap size) {position : Nat} (hInside : position < size)
    (change : UInt8 → UInt8) :
    bitmap.editByte position change =
      .ok { bitmap with bytes := bitmap.bytes.set position (change bitmap.bytes[position]) } := by
  simp [editByte, hInside]

/-! ## Single frames -/

/-- Asking for a frame answers with the view. -/
theorem isFree_eq {bitmap : FrameBitmap size} (hFits : bitmap.Fits) (frame : Nat) :
    bitmap.isFree frame = .ok (bitmap.freeAt frame) := by
  by_cases hManaged : frame < bitmap.limit
  · have hInside : frame / 8 < size := hFits.byte_lt hManaged
    rw [isFree, if_pos hManaged, byteAt_of_lt bitmap hInside]
    change Except.ok (bitmap.bytes[frame / 8] &&& mask frame == 0) = _
    rw [and_mask_eq_zero]
    simp [freeAt, isOccupied, hManaged, hInside]
  · simp [isFree, freeAt, hManaged]
    rfl

/-- Marking a frame changes its bit, if it is managed, and nothing else. -/
theorem exists_mark_eq {bitmap : FrameBitmap size} (hFits : bitmap.Fits) (frame : Nat)
    (occupied : Bool) :
    ∃ after, bitmap.mark frame occupied = .ok after ∧
      after.limit = bitmap.limit ∧ after.cursor = bitmap.cursor ∧
      ∀ other, after.isOccupied other =
        if other = frame ∧ frame < bitmap.limit then occupied else bitmap.isOccupied other := by
  by_cases hManaged : frame < bitmap.limit
  · have hInside : frame / 8 < size := hFits.byte_lt hManaged
    have hMarked := editByte_of_lt bitmap hInside (paint occupied (mask frame))
    refine ⟨_, (if_pos hManaged).trans hMarked, rfl, rfl, ?_⟩
    intro other
    by_cases hReached : other / 8 < size
    · by_cases hSameByte : frame / 8 = other / 8
      -- In the same byte the position decides whether it is the same frame.
      · have hPosition : other % 8 = frame % 8 ↔ other = frame := by omega
        simp only [isOccupied, hReached, dite_true, hSameByte, Vector.getElem_set_self,
          hasBit_paint_mask, hPosition, hManaged, and_true]
      · have hDifferent : other ≠ frame := fun hSame => hSameByte (by rw [hSame])
        simp only [isOccupied, hReached, dite_true, Vector.getElem_set_ne _ _ hSameByte,
          hDifferent, false_and, if_false]
    · have hDifferent : other ≠ frame := fun hSame => hReached (by rw [hSame]; exact hInside)
      simp only [isOccupied, hReached, dite_false, hDifferent, false_and, if_false]
  · refine ⟨bitmap, ?_, rfl, rfl, ?_⟩
    · rw [mark, if_neg hManaged]
    · intro other
      rw [if_neg (fun hBoth => hManaged hBoth.2)]

/-! ## Equality -/

/-- A byte is given by the bits of its eight frames. -/
theorem byte_eq_of_hasBit_eq {first second : UInt8}
    (hSame : ∀ frame, hasBit first frame = hasBit second frame) : first = second := by
  apply UInt8.toBitVec_inj.mp
  apply BitVec.eq_of_getLsbD_eq
  intro position hInside
  have hBit := hSame (7 - position)
  have hTurned : 7 - (7 - position) % 8 = position := by omega
  rwa [hasBit, hasBit, hTurned] at hBit

/-- A bitmap is given by its bits, its limit and its cursor. -/
theorem eq_of_isOccupied_eq {first second : FrameBitmap size}
    (hLimit : first.limit = second.limit) (hCursor : first.cursor = second.cursor)
    (hSame : ∀ frame, first.isOccupied frame = second.isOccupied frame) : first = second := by
  obtain ⟨firstBytes, firstLimit, firstCursor⟩ := first
  obtain ⟨secondBytes, secondLimit, secondCursor⟩ := second
  have hBytes : firstBytes = secondBytes := by
    ext1 position hInside
    apply byte_eq_of_hasBit_eq
    intro frame
    -- The bit is that of the frame at the same place in this byte.
    have hBit := hSame (position * 8 + frame % 8)
    have hByte : (position * 8 + frame % 8) / 8 = position := by omega
    have hPlace : (position * 8 + frame % 8) % 8 = frame % 8 := by omega
    simpa only [isOccupied, hByte, hInside, dite_true, hasBit, hPlace] using hBit
  cases hBytes
  cases hLimit
  cases hCursor
  rfl

end FrameBitmap
end TwoLevelPaging
