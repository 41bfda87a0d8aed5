import Mathlib.Data.Finset.Card
import Mathlib.Data.Nat.Count
import TwoLevelPaging.Proofs.FrameBitmap.Exchange

/-!
# Counting the free frames

`freeSet` is the set of free frames.  The number of them that a bitmap reports, by whole
bytes and one frame at a time behind the last of these, is its size (`freeCount_eq`), and a
frame that is taken or given back moves out of it or into it.
-/

namespace TwoLevelPaging
namespace FrameBitmap

variable {size : Nat} {bitmap before after : FrameBitmap size} {frame : Nat}

/-- The free frames. -/
def freeSet (bitmap : FrameBitmap size) : Finset Nat :=
  (Finset.range bitmap.limit).filter fun frame => bitmap.freeAt frame = true

@[simp]
theorem mem_freeSet : frame ∈ bitmap.freeSet ↔ bitmap.freeAt frame = true := by
  rw [freeSet, Finset.mem_filter, Finset.mem_range, and_iff_right_iff_imp]
  exact lt_limit_of_freeAt

/-- A frame that is taken is the one that leaves the free frames. -/
theorem Marks.freeSet_eq_erase (hMarks : Marks before after frame true) :
    after.freeSet = before.freeSet.erase frame := by
  ext other
  rw [Finset.mem_erase, mem_freeSet, mem_freeSet]
  by_cases hSame : other = frame
  · simp [hSame, freeAt, hMarks.same]
  · rw [hMarks.freeAt_of_ne hSame]
    simp [hSame]

/-- A free frame that is taken leaves one less. -/
theorem Marks.card_freeSet (hMarks : Marks before after frame true)
    (hFree : before.freeAt frame = true) : after.freeSet.card + 1 = before.freeSet.card := by
  rw [hMarks.freeSet_eq_erase, Finset.card_erase_add_one (mem_freeSet.mpr hFree)]

/-! ## What the bitmap reports -/

/-- The clear bits of a byte, one at a time. -/
theorem clearBits_eq_count (byte : UInt8) :
    clearBits byte = Nat.count (fun frame => hasBit byte frame = false) 8 := by
  have hEvery : ∀ bits : Fin 256, clearBits (UInt8.ofNat bits.val) =
      Nat.count (fun frame => hasBit (UInt8.ofNat bits.val) frame = false) 8 := by
    decide +kernel
  have hByte := hEvery ⟨byte.toNat, byte.toNat_lt⟩
  rwa [UInt8.ofNat_toNat] at hByte

/-- The bits of the managed bytes, counted byte by byte. -/
theorem foldl_clearBits_eq_count (hFits : bitmap.Fits) (whole : Nat)
    (hWhole : whole * 8 ≤ bitmap.limit) :
    (bitmap.bytes.toList.take whole).foldl (fun sum byte => sum + clearBits byte) 0 =
      Nat.count (fun frame => bitmap.freeAt frame = true) (whole * 8) := by
  induction whole with
  | zero => rfl
  | succ whole ih =>
      have hInside : whole < size := by
        unfold Fits at hFits
        omega
      have hLength : whole < bitmap.bytes.toList.length := by simpa using hInside
      -- The free frames of one more byte are its clear bits.
      have hByte : clearBits bitmap.bytes[whole] =
          Nat.count (fun bit => bitmap.freeAt (whole * 8 + bit) = true) 8 := by
        rw [clearBits_eq_count, Nat.count_eq_card_filter_range, Nat.count_eq_card_filter_range]
        congr 1
        refine Finset.filter_congr ?_
        intro bit hBit
        have hBelow : bit < 8 := Finset.mem_range.mp hBit
        have hPosition : (whole * 8 + bit) % 8 = bit % 8 := by omega
        rw [freeAt_eq_not_hasBit (show whole * 8 + bit < bitmap.limit by omega)
          (show (whole * 8 + bit) / 8 = whole by omega) hInside]
        simp [hasBit, hPosition]
      rw [List.take_succ_eq_append_getElem hLength, List.foldl_append, ih (by omega),
        Nat.succ_mul, Nat.count_add, ← hByte]
      simp

/-- The frames behind the whole bytes, one at a time. -/
theorem freeCountFrom_eq (hFits : bitmap.Fits) (frame count : Nat) :
    bitmap.freeCountFrom frame count =
      .ok (Nat.count (fun other => bitmap.freeAt (frame + other) = true) count) := by
  induction count generalizing frame with
  | zero => rfl
  | succ count ih =>
      have hShift : ∀ other, frame + 1 + other = frame + (other + 1) := by omega
      rw [freeCountFrom, isFree_eq hFits, ih]
      simp only [bind, Except.bind, pure, Except.pure, Nat.count_succ', Nat.add_zero, hShift]
      cases bitmap.freeAt frame <;> simp [Nat.add_comm]

/-- The number of free frames that a sound bitmap reports is the number there is. -/
theorem freeCount_eq (hSound : bitmap.Sound) :
    bitmap.freeCount = .ok bitmap.freeSet.card := by
  have hNarrow := hSound.narrow
  have hWhole : bitmap.limit / 8 ≤ size := by
    have hFits := hSound.fits
    unfold Fits at hFits
    omega
  have hCount : bitmap.freeSet.card =
      Nat.count (fun frame => bitmap.freeAt frame = true) bitmap.limit := by
    rw [Nat.count_eq_card_filter_range, freeSet]
  have hCard : bitmap.freeSet.card ≤ bitmap.limit := by
    rw [hCount]
    exact Nat.count_le _
  have hWhole8 : bitmap.limit / 8 * 8 ≤ bitmap.limit := by omega
  have hSum : Nat.count (fun frame => bitmap.freeAt frame = true) (bitmap.limit / 8 * 8) +
      Nat.count (fun other => bitmap.freeAt (bitmap.limit / 8 * 8 + other) = true)
        (bitmap.limit % 8) = bitmap.freeSet.card := by
    rw [hCount, ← Nat.count_add]
    congr 1
    omega
  have hWord : Checked.word bitmap.freeSet.card = .ok bitmap.freeSet.card := by
    rw [Checked.word_eq_ok_iff]
    exact ⟨by omega, rfl⟩
  simp only [freeCount, Checked.require, hWhole, decide_true, if_true, bind, Except.bind,
    freeCountFrom_eq hSound.fits, foldl_clearBits_eq_count hSound.fits _ hWhole8, hSum, hWord]

end FrameBitmap
end TwoLevelPaging
