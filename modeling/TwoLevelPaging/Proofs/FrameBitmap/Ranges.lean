import Mathlib.Data.List.Range
import TwoLevelPaging.FrameBitmap.Range
import TwoLevelPaging.Proofs.FrameBitmap.Exchange

/-!
# Marking ranges, on the set of free frames

A range is marked byte by byte, with one mask for each byte.  On a sound bitmap this never
faults, and it changes the bits of the managed frames of the range and no other bit
(`exists_markRange_eq`).  So does marking its frames one at a time, and since a bitmap is
given by its bits the two leave the same one (`markRange_eq_markEach`).
-/

namespace TwoLevelPaging
namespace FrameBitmap

variable {size : Nat}

/-- The mask of a part of a byte has the bits of that part. -/
theorem hasBit_spanMask {first bits : Nat} (hRoom : first + bits ≤ 8) (frame : Nat) :
    hasBit (spanMask first bits) frame =
      decide (first ≤ frame % 8 ∧ frame % 8 < first + bits) := by
  have hEvery : ∀ (first bits : Fin 9) (frame : Fin 8), first.val + bits.val ≤ 8 →
      (spanMask first.val bits.val).toBitVec.getLsbD (7 - frame.val) =
        decide (first.val ≤ frame.val ∧ frame.val < first.val + bits.val) := by
    decide
  exact hEvery ⟨first, by omega⟩ ⟨bits, by omega⟩ ⟨frame % 8, Nat.mod_lt _ (by decide)⟩ hRoom

/-- Painting a byte sets or clears the bits of the mask and keeps the others. -/
theorem hasBit_paint (occupied : Bool) (bits byte : UInt8) (frame : Nat) :
    hasBit (paint occupied bits byte) frame =
      if hasBit bits frame then occupied else hasBit byte frame := by
  have hPosition : 7 - frame % 8 < 8 := by omega
  cases occupied with
  | true => cases hBit : hasBit bits frame <;> simp_all [hasBit, paint]
  | false => cases hBit : hasBit bits frame <;> simp_all [hasBit, paint]

/-- One step of the loop marks the part of a span that lies in one byte. -/
theorem exists_editByte_span_eq {bitmap : FrameBitmap size} (hFits : bitmap.Fits)
    {frame stop : Nat} (hBelow : frame < stop) (hStop : stop ≤ bitmap.limit) (occupied : Bool) :
    ∃ after, bitmap.editByte (frame / 8)
        (paint occupied (spanMask (frame % 8) (min (8 - frame % 8) (stop - frame)))) = .ok after ∧
      after.limit = bitmap.limit ∧ after.cursor = bitmap.cursor ∧
      ∀ other, after.isOccupied other =
        if frame ≤ other ∧ other < frame + min (8 - frame % 8) (stop - frame) then occupied
        else bitmap.isOccupied other := by
  have hInside : frame / 8 < size := hFits.byte_lt (by omega)
  refine ⟨_, editByte_of_lt bitmap hInside _, rfl, rfl, ?_⟩
  intro other
  by_cases hReached : other / 8 < size
  · by_cases hByte : frame / 8 = other / 8
    · have hPart : (frame % 8 ≤ other % 8 ∧
          other % 8 < frame % 8 + min (8 - frame % 8) (stop - frame)) ↔
            (frame ≤ other ∧ other < frame + min (8 - frame % 8) (stop - frame)) := by omega
      simp only [isOccupied, hReached, dite_true, hByte, Vector.getElem_set_self, hasBit_paint,
        hasBit_spanMask (show frame % 8 + min (8 - frame % 8) (stop - frame) ≤ 8 by omega),
        decide_eq_true_eq, hPart]
    · have hOutside : ¬ (frame ≤ other ∧
          other < frame + min (8 - frame % 8) (stop - frame)) := by omega
      simp only [isOccupied, hReached, dite_true, Vector.getElem_set_ne _ _ hByte, hOutside,
        if_false]
  · have hOutside : ¬ (frame ≤ other ∧
        other < frame + min (8 - frame % 8) (stop - frame)) := by omega
    simp only [isOccupied, hReached, dite_false, hOutside, if_false]

/-- Marking a span of managed frames changes their bits and no others. -/
theorem exists_markSpan_eq {bitmap : FrameBitmap size} (hSound : bitmap.Sound) (start stop : Nat)
    (hStop : stop ≤ bitmap.limit) (occupied : Bool) :
    ∃ after, bitmap.markSpan start stop occupied = .ok after ∧
      after.limit = bitmap.limit ∧ after.cursor = bitmap.cursor ∧
      ∀ other, after.isOccupied other =
        if start ≤ other ∧ other < stop then occupied else bitmap.isOccupied other := by
  -- Each step goes on behind the byte that it has marked.
  induction hDistance : stop - start using Nat.strongRecOn generalizing bitmap start with
  | ind distance ih =>
      rw [markSpan]
      by_cases hBelow : start < stop
      · obtain ⟨marked, hEdit, hLimit, hCursor, hBits⟩ :=
          exists_editByte_span_eq hSound.fits hBelow hStop occupied
        have hNarrow := hSound.narrow
        have hTop : start + min (8 - start % 8) (stop - start) < 0x100000000 := by omega
        obtain ⟨after, hRest, hRestLimit, hRestCursor, hRestBits⟩ :=
          ih (stop - (start + min (8 - start % 8) (stop - start))) (by omega)
            (hSound.congr hLimit) _ (by omega) rfl
        refine ⟨after, ?_, hRestLimit.trans hLimit, hRestCursor.trans hCursor, ?_⟩
        · simp only [if_pos hBelow, hEdit, if_pos hTop]
          exact hRest
        · intro other
          rw [hRestBits, hBits]
          by_cases hLater : start + min (8 - start % 8) (stop - start) ≤ other ∧ other < stop
          · rw [if_pos hLater, if_pos (by omega)]
          · have hHere : (start ≤ other ∧ other < start + min (8 - start % 8) (stop - start)) ↔
                (start ≤ other ∧ other < stop) := by omega
            simp only [hLater, if_false, hHere]
      · refine ⟨bitmap, if_neg hBelow, rfl, rfl, ?_⟩
        intro other
        rw [if_neg (by omega)]

/-- Marking a range changes the bits of its managed frames and no others.  The greatest
frame number that a 32-bit register holds is not reached, and is not managed. -/
theorem exists_markRange_eq {bitmap : FrameBitmap size} (hSound : bitmap.Sound)
    (start count : Nat) (occupied : Bool) :
    ∃ after, bitmap.markRange start count occupied = .ok after ∧
      after.limit = bitmap.limit ∧ after.cursor = bitmap.cursor ∧
      ∀ other, after.isOccupied other =
        if start ≤ other ∧ other < start + count ∧ other < bitmap.limit then occupied
        else bitmap.isOccupied other := by
  obtain ⟨after, hMark, hLimit, hCursor, hBits⟩ := exists_markSpan_eq hSound start
    (min (min (start + count) 0xFFFFFFFF) bitmap.limit) (Nat.min_le_right _ _) occupied
  have hNarrow := hSound.narrow
  refine ⟨after, hMark, hLimit, hCursor, ?_⟩
  intro other
  have hRange : (start ≤ other ∧ other < min (min (start + count) 0xFFFFFFFF) bitmap.limit) ↔
      (start ≤ other ∧ other < start + count ∧ other < bitmap.limit) := by omega
  simp only [hBits, hRange]

/-! ## One frame at a time -/

/-- Mark the frames of a list one at a time. -/
def markEach (bitmap : FrameBitmap size) (frames : List Nat) (occupied : Bool) :
    Except Fault (FrameBitmap size) :=
  frames.foldlM (fun marked frame => marked.mark frame occupied) bitmap

/-- Marking frames one at a time changes the bits of the managed ones among them and no
others. -/
theorem exists_markEach_eq {bitmap : FrameBitmap size} (hFits : bitmap.Fits)
    (frames : List Nat) (occupied : Bool) :
    ∃ after, bitmap.markEach frames occupied = .ok after ∧
      after.limit = bitmap.limit ∧ after.cursor = bitmap.cursor ∧
      ∀ other, after.isOccupied other =
        if other ∈ frames ∧ other < bitmap.limit then occupied else bitmap.isOccupied other := by
  induction frames generalizing bitmap with
  | nil => exact ⟨bitmap, rfl, rfl, rfl, by simp⟩
  | cons frame rest ih =>
      obtain ⟨marked, hMark, hLimit, hCursor, hBits⟩ := exists_mark_eq hFits frame occupied
      have hMarkedFits : marked.Fits := by
        rw [Fits, hLimit]
        exact hFits
      obtain ⟨after, hRest, hRestLimit, hRestCursor, hRestBits⟩ := ih hMarkedFits
      refine ⟨after, ?_, hRestLimit.trans hLimit, hRestCursor.trans hCursor, ?_⟩
      · rw [markEach, List.foldlM_cons, hMark]
        exact hRest
      · intro other
        rw [hRestBits, hBits, hLimit]
        by_cases hLater : other ∈ rest ∧ other < bitmap.limit
        · rw [if_pos hLater, if_pos ⟨List.mem_cons_of_mem frame hLater.1, hLater.2⟩]
        · have hHere : (other = frame ∧ frame < bitmap.limit) ↔
              (other ∈ frame :: rest ∧ other < bitmap.limit) := by
            constructor
            · rintro ⟨rfl, hManaged⟩
              exact ⟨List.mem_cons_self, hManaged⟩
            · rintro ⟨hMember, hManaged⟩
              rcases List.mem_cons.mp hMember with rfl | hRestMember
              · exact ⟨rfl, hManaged⟩
              · exact absurd ⟨hRestMember, hManaged⟩ hLater
          simp only [if_neg hLater, hHere]

/-- Marking a range is marking its frames one at a time, in whatever order: both leave the
same bytes, limit and cursor, and neither reaches past the end of the bitmap. -/
theorem markRange_eq_markEach {bitmap : FrameBitmap size} (hSize : size * 8 < 0x100000000)
    (hFits : bitmap.Fits) (start count : Nat) (occupied : Bool) {frames : List Nat}
    (hFrames : ∀ frame, frame ∈ frames ↔
      start ≤ frame ∧ frame < start + count ∧ frame < 0x100000000) :
    ∃ after, bitmap.markRange start count occupied = .ok after ∧
      bitmap.markEach frames occupied = .ok after := by
  have hBound : bitmap.limit ≤ size * 8 := hFits
  have hSound : bitmap.Sound := ⟨hFits, by omega⟩
  obtain ⟨after, hRange, hLimit, hCursor, hBits⟩ :=
    exists_markRange_eq hSound start count occupied
  obtain ⟨each, hEach, hEachLimit, hEachCursor, hEachBits⟩ :=
    exists_markEach_eq hFits frames occupied
  have hSame : each = after := by
    refine eq_of_isOccupied_eq (hEachLimit.trans hLimit.symm) (hEachCursor.trans hCursor.symm) ?_
    intro other
    -- A managed frame has a number of 32 bits, so none of the range is left out.
    have hManaged : (other ∈ frames ∧ other < bitmap.limit) ↔
        (start ≤ other ∧ other < start + count ∧ other < bitmap.limit) := by
      rw [hFrames]
      omega
    simp only [hEachBits, hBits, hManaged]
  exact ⟨after, hRange, hSame ▸ hEach⟩

/-- A range that leaves the 32-bit numbers frees the managed frames from 3 on, and so do the
four billion single marks. -/
theorem markEach_past_limit :
    (⟨#v[0xFF, 0xFF], 13, 1⟩ : FrameBitmap 2).markRange 3 0xFFFFFFFF false =
        .ok ⟨#v[0xE0, 0x07], 13, 1⟩ ∧
      (⟨#v[0xFF, 0xFF], 13, 1⟩ : FrameBitmap 2).markEach (List.range' 3 0xFFFFFFFD) false =
        .ok ⟨#v[0xE0, 0x07], 13, 1⟩ := by
  have hRange : (⟨#v[0xFF, 0xFF], 13, 1⟩ : FrameBitmap 2).markRange 3 0xFFFFFFFF false =
      .ok ⟨#v[0xE0, 0x07], 13, 1⟩ := by decide +kernel
  have hFits : (⟨#v[0xFF, 0xFF], 13, 1⟩ : FrameBitmap 2).Fits := show 13 ≤ 2 * 8 by decide
  have hFrames : ∀ frame, frame ∈ List.range' 3 0xFFFFFFFD ↔
      3 ≤ frame ∧ frame < 3 + 0xFFFFFFFF ∧ frame < 0x100000000 := by
    intro frame
    rw [List.mem_range'_1]
    omega
  obtain ⟨after, hAfter, hEach⟩ :=
    markRange_eq_markEach (by decide) hFits 3 0xFFFFFFFF false hFrames
  obtain rfl := Except.ok.inj (hRange.symm.trans hAfter)
  exact ⟨hRange, hEach⟩

end FrameBitmap
end TwoLevelPaging
