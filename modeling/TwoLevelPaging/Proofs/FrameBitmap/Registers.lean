import TwoLevelPaging.Proofs.FrameBitmap.Representation

/-!
# The loops of the bitmap in 32-bit registers

The search for a free frame and the marking of a span are loops over frame numbers.  Here they
are given round by round, as a machine runs them: frame numbers are 32-bit registers, and a sum
or difference that leaves a register wraps around.  A search that wrapped would start over at
frame zero and never end.

On a sound bitmap no round wraps, and each comes closer to the end, so both loops end after a
bounded number of rounds with the answer that `scan` and `markSpan` have (`Sound.loopsEnd`).
Together with the invariant this is what every run leaves (`Runs.keeps_representation`).
-/

namespace TwoLevelPaging

/-! ## Loops -/

namespace Loop

/-- What a round of a loop comes to: one more round with these registers, or the end. -/
inductive Round (registers answer : Type) where
  | again (next : registers)
  | done (result : answer)

variable {registers answer : Type} {body : registers → Except Fault (Round registers answer)}

/-- The answer of a loop, if it ends within that many rounds. -/
def within (body : registers → Except Fault (Round registers answer)) :
    Nat → registers → Except Fault (Option answer)
  | 0, _ => .ok none
  | rounds + 1, state =>
    match body state with
    | .error fault => .error fault
    | .ok (.done result) => .ok (some result)
    | .ok (.again next) => within body rounds next

/-- A round ends the loop with a right answer, or it comes closer to the end and leaves what is
a right answer as it was. -/
def Advances (body : registers → Except Fault (Round registers answer)) (Holds : registers → Prop)
    (Answers : registers → answer → Prop) (distance : registers → Nat) (state : registers) : Prop :=
  (∃ result, body state = .ok (.done result) ∧ Answers state result) ∨
    ∃ next, body state = .ok (.again next) ∧ Holds next ∧ distance next < distance state ∧
      ∀ result, Answers next result → Answers state result

/-- A loop whose rounds all advance ends with a right answer. -/
theorem exists_within_eq {Holds : registers → Prop} {Answers : registers → answer → Prop}
    {distance : registers → Nat}
    (hAdvances : ∀ state, Holds state → Advances body Holds Answers distance state)
    {rounds : Nat} {state : registers} (hHolds : Holds state) (hRounds : distance state < rounds) :
    ∃ result, within body rounds state = .ok (some result) ∧ Answers state result := by
  induction rounds generalizing state with
  | zero => omega
  | succ rounds ih =>
      rcases hAdvances state hHolds with
        ⟨result, hBody, hAnswer⟩ | ⟨next, hBody, hNext, hCloser, hSame⟩
      · exact ⟨result, by rw [within, hBody], hAnswer⟩
      · obtain ⟨result, hRest, hAnswer⟩ := ih hNext (by omega)
        exact ⟨result, by rw [within, hBody]; exact hRest, hSame result hAnswer⟩

end Loop

namespace FrameBitmap

variable {size : Nat} {bitmap : FrameBitmap size} {frame stop : UInt32}

/-! ## Searching -/

/-- A round of the search: a byte without a clear bit is skipped as a whole. -/
def searchRound (bitmap : FrameBitmap size) (stop frame : UInt32) :
    Except Fault (Loop.Round UInt32 (Option UInt32)) :=
  if frame < stop then
    (bitmap.byteAt (frame / 8).toNat).map fun byte =>
      if byte == 0xFF then
        .again ((frame ||| 7) + 1)
      else if byte &&& (0x80 >>> (frame % 8).toUInt8) == 0 then
        .done (some frame)
      else
        .again (frame + 1)
  else
    .ok (.done none)

/-- A sum that fits the register does not wrap around. -/
theorem toNat_add_of_lt {first second : UInt32}
    (hFits : first.toNat + second.toNat < 0x100000000) :
    (first + second).toNat = first.toNat + second.toNat := by
  rw [UInt32.toNat_add]
  exact Nat.mod_eq_of_lt hFits

/-- The last frame number of a byte, by setting its low bits. -/
theorem or_seven (number : Nat) : number ||| 7 = number / 8 * 8 + 7 := by
  have hApart : ∀ low, low < 8 → 8 * (number / 8) + low = 8 * (number / 8) ||| low :=
    fun low hLow => @Nat.two_pow_add_eq_or_of_lt 3 low hLow (number / 8)
  have hSet : ∀ low : Fin 8, low.val ||| 7 = 7 := by decide
  have hLow : number % 8 < 8 := Nat.mod_lt _ (by decide)
  calc number ||| 7 = (8 * (number / 8) + number % 8) ||| 7 := by rw [Nat.div_add_mod]
    _ = 8 * (number / 8) ||| (number % 8 ||| 7) := by rw [hApart _ hLow, Nat.or_assoc]
    _ = 8 * (number / 8) ||| 7 := by rw [hSet ⟨number % 8, hLow⟩]
    _ = number / 8 * 8 + 7 := by rw [← hApart 7 (by decide), Nat.mul_comm]

/-- The first frame of the next byte, if its number fits the register. -/
theorem toNat_nextByte (hFits : (frame.toNat / 8 + 1) * 8 < 0x100000000) :
    ((frame ||| 7) + 1).toNat = (frame.toNat / 8 + 1) * 8 := by
  have hLast : (frame ||| 7).toNat = frame.toNat / 8 * 8 + 7 := by
    rw [UInt32.toNat_or, UInt32.toNat_ofNat, or_seven]
  have hOne : (1 : UInt32).toNat = 1 := rfl
  rw [toNat_add_of_lt (by omega), hLast, hOne]
  omega

/-- The bit of a frame in its byte, from registers. -/
theorem registerBit_eq (frame : UInt32) :
    (0x80 : UInt8) >>> (frame % 8).toUInt8 = mask frame.toNat := by
  have hPosition : (frame % 8).toUInt8 = UInt8.ofNat (frame.toNat % 8) := by
    apply UInt8.toNat_inj.mp
    simp
  rw [mask, hPosition]

/-- Each round of the search advances, and what `scan` answers stays the same. -/
theorem searchRound_advances (hSound : bitmap.Sound) (hStop : stop.toNat ≤ bitmap.limit)
    (frame : UInt32) :
    Loop.Advances (bitmap.searchRound stop) (fun _ => True)
      (fun frame found => bitmap.scan frame.toNat stop.toNat = .ok (found.map UInt32.toNat))
      (fun frame => stop.toNat - frame.toNat) frame := by
  have hNarrow := hSound.narrow
  by_cases hBelow : frame < stop
  · have hLess : frame.toNat < stop.toNat := UInt32.lt_iff_toNat_lt.mp hBelow
    have hInside : frame.toNat / 8 < size := hSound.fits.byte_lt (by omega)
    have hByte := byteAt_of_lt bitmap hInside
    generalize bitmap.bytes[frame.toNat / 8] = byte at hByte
    have hDiv : (frame / 8).toNat = frame.toNat / 8 := rfl
    have hRound : bitmap.searchRound stop frame = .ok
        (if byte == 0xFF then .again ((frame ||| 7) + 1)
        else if byte &&& mask frame.toNat == 0 then .done (some frame)
        else .again (frame + 1)) := by
      rw [searchRound, if_pos hBelow, hDiv, hByte, registerBit_eq]
      rfl
    have hScan : bitmap.scan frame.toNat stop.toNat = if byte == 0xFF then
          if (frame.toNat / 8 + 1) * 8 < 0x100000000 then
            bitmap.scan ((frame.toNat / 8 + 1) * 8) stop.toNat
          else .error .overflow
        else if byte &&& mask frame.toNat == 0 then .ok (some frame.toNat)
        else if frame.toNat + 1 < 0x100000000 then bitmap.scan (frame.toNat + 1) stop.toNat
        else .error .overflow := by
      rw [scan, if_pos hLess, hByte]
    by_cases hFull : (byte == 0xFF) = true
    · have hNext := toNat_nextByte (show (frame.toNat / 8 + 1) * 8 < 0x100000000 by omega)
      rw [if_pos hFull] at hRound
      rw [if_pos hFull, if_pos (by omega), ← hNext] at hScan
      have hCloser : stop.toNat - ((frame ||| 7) + 1).toNat < stop.toNat - frame.toNat := by omega
      exact .inr ⟨_, hRound, trivial, hCloser, fun found hFound => hScan.trans hFound⟩
    · rw [if_neg hFull] at hRound hScan
      by_cases hClear : (byte &&& mask frame.toNat == 0) = true
      · rw [if_pos hClear] at hRound hScan
        exact .inl ⟨_, hRound, hScan⟩
      · have hNext : (frame + 1).toNat = frame.toNat + 1 :=
          toNat_add_of_lt (show frame.toNat + 1 < 0x100000000 by omega)
        rw [if_neg hClear] at hRound
        rw [if_neg hClear, if_pos (by omega), ← hNext] at hScan
        have hCloser : stop.toNat - (frame + 1).toNat < stop.toNat - frame.toNat := by omega
        exact .inr ⟨_, hRound, trivial, hCloser, fun found hFound => hScan.trans hFound⟩
  · have hDone : ¬ frame.toNat < stop.toNat :=
      fun hLess => hBelow (UInt32.lt_iff_toNat_lt.mpr hLess)
    have hScan : bitmap.scan frame.toNat stop.toNat = .ok none := by rw [scan, if_neg hDone]
    exact .inl ⟨none, if_neg hBelow, hScan⟩

/-! ## Marking -/

/-- The mask of `bits` frames of a byte from bit `first` on, from registers. -/
def registerMask (first bits : UInt32) : UInt8 :=
  ((((1 : UInt16) <<< bits.toUInt16) - 1) <<< (8 - first - bits).toUInt16).toUInt8

/-- A round of the marking: the frames of the span that lie in one byte. -/
def markRound (occupied : Bool) (stop : UInt32) :
    FrameBitmap size × UInt32 →
      Except Fault (Loop.Round (FrameBitmap size × UInt32) (FrameBitmap size))
  | (bitmap, frame) =>
    if frame < stop then
      let bits := min (8 - frame % 8) (stop - frame)
      (bitmap.editByte (frame / 8).toNat (paint occupied (registerMask (frame % 8) bits))).map
        fun marked => .again (marked, frame + bits)
    else
      .ok (.done bitmap)

/-- The number of bytes that hold frames of a span. -/
def spanBytes (frame stop : Nat) : Nat :=
  if frame < stop then (stop + 7) / 8 - frame / 8 else 0

/-- No shift leaves the register, and no bit of the mask is lost. -/
theorem registerMask_eq {first bits : UInt32} (hRoom : first.toNat + bits.toNat ≤ 8) :
    registerMask first bits = spanMask first.toNat bits.toNat := by
  have hEvery : ∀ first bits : Fin 9, first.val + bits.val ≤ 8 →
      registerMask (UInt32.ofNat first.val) (UInt32.ofNat bits.val) =
        spanMask first.val bits.val := by
    decide
  simpa using hEvery ⟨first.toNat, by omega⟩ ⟨bits.toNat, by omega⟩ hRoom

/-- The length of the part of a span that lies in one byte, from registers. -/
theorem toNat_part (hBelow : frame.toNat < stop.toNat) :
    (min (8 - frame % 8) (stop - frame)).toNat =
      min (8 - frame.toNat % 8) (stop.toNat - frame.toNat) := by
  have hByte : (8 - frame % 8).toNat = 8 - frame.toNat % 8 := by
    rw [UInt32.toNat_sub_of_le _ _ ?_]
    · rfl
    · rw [UInt32.le_iff_toNat_le, UInt32.toNat_mod]
      exact Nat.le_of_lt (Nat.mod_lt _ (by decide))
  have hSpan : (stop - frame).toNat = stop.toNat - frame.toNat :=
    UInt32.toNat_sub_of_le _ _ (UInt32.le_iff_toNat_le.mpr (Nat.le_of_lt hBelow))
  rw [UInt32.toNat_min, hByte, hSpan]

/-- Each round of the marking advances to the next byte of the span, and what `markSpan` answers
stays the same. -/
theorem markRound_advances (occupied : Bool) (state : FrameBitmap size × UInt32)
    (hState : state.1.Sound ∧ stop.toNat ≤ state.1.limit) :
    Loop.Advances (markRound occupied stop)
      (fun state => state.1.Sound ∧ stop.toNat ≤ state.1.limit)
      (fun state after => state.1.markSpan state.2.toNat stop.toNat occupied = .ok after)
      (fun state => spanBytes state.2.toNat stop.toNat) state := by
  obtain ⟨bitmap, frame⟩ := state
  obtain ⟨hSound, hStop⟩ := hState
  simp only at hSound hStop
  have hNarrow := hSound.narrow
  by_cases hBelow : frame < stop
  · have hLess : frame.toNat < stop.toNat := UInt32.lt_iff_toNat_lt.mp hBelow
    obtain ⟨marked, hEdit, hLimit, -, -⟩ :=
      exists_editByte_span_eq hSound.fits hLess hStop occupied
    -- What follows needs the part of the span in this byte by its length only.
    have hPart := toNat_part hLess
    have hRound : markRound occupied stop (bitmap, frame) =
        (bitmap.editByte (frame / 8).toNat (paint occupied (registerMask (frame % 8)
          (min (8 - frame % 8) (stop - frame))))).map
            fun marked => .again (marked, frame + min (8 - frame % 8) (stop - frame)) :=
      if_pos hBelow
    generalize min (8 - frame % 8) (stop - frame) = bits at hPart hRound
    rw [← hPart] at hEdit
    have hMask : registerMask (frame % 8) bits = spanMask (frame.toNat % 8) bits.toNat :=
      registerMask_eq (show frame.toNat % 8 + bits.toNat ≤ 8 by omega)
    have hNext : (frame + bits).toNat = frame.toNat + bits.toNat := toNat_add_of_lt (by omega)
    have hDiv : (frame / 8).toNat = frame.toNat / 8 := rfl
    rw [hMask, hDiv, hEdit] at hRound
    have hSpan : bitmap.markSpan frame.toNat stop.toNat occupied =
        marked.markSpan (frame + bits).toNat stop.toNat occupied := by
      rw [markSpan, hNext]
      simp only [if_pos hLess, ← hPart, hEdit]
      rw [if_pos (by omega)]
    have hCloser : spanBytes (frame + bits).toNat stop.toNat <
        spanBytes frame.toNat stop.toNat := by
      rw [spanBytes, spanBytes, if_pos hLess, hNext]
      split <;> omega
    have hHolds : marked.Sound ∧ stop.toNat ≤ marked.limit := ⟨hSound.congr hLimit, by omega⟩
    exact .inr ⟨_, hRound, hHolds, hCloser, fun after hAfter => hSpan.trans hAfter⟩
  · have hDone : ¬ frame.toNat < stop.toNat :=
      fun hLess => hBelow (UInt32.lt_iff_toNat_lt.mpr hLess)
    have hSpan : bitmap.markSpan frame.toNat stop.toNat occupied = .ok bitmap := by
      rw [markSpan, if_neg hDone]
    exact .inl ⟨bitmap, if_neg hBelow, hSpan⟩

/-! ## What every run leaves -/

/-- Both loops end in 32-bit registers, after a bounded number of rounds, and have the answers
of `scan` and `markSpan`. -/
structure LoopsEnd (bitmap : FrameBitmap size) : Prop where
  /-- The search needs a round for each frame of its range at most, and one to end. -/
  search : ∀ frame stop : UInt32, stop.toNat ≤ bitmap.limit → ∃ found,
    Loop.within (bitmap.searchRound stop) (stop.toNat - frame.toNat + 1) frame = .ok (some found) ∧
      bitmap.scan frame.toNat stop.toNat = .ok (found.map UInt32.toNat)
  /-- The marking needs a round for each byte of the span, and one to end. -/
  marking : ∀ (occupied : Bool) (frame stop : UInt32), stop.toNat ≤ bitmap.limit → ∃ after,
    Loop.within (markRound occupied stop) (spanBytes frame.toNat stop.toNat + 1) (bitmap, frame) =
        .ok (some after) ∧
      bitmap.markSpan frame.toNat stop.toNat occupied = .ok after

theorem Sound.loopsEnd (hSound : bitmap.Sound) : bitmap.LoopsEnd where
  search frame _ hStop :=
    Loop.exists_within_eq (fun frame _ => searchRound_advances hSound hStop frame) trivial
      (Nat.lt_succ_self (_ - frame.toNat))
  marking occupied frame stop hStop :=
    Loop.exists_within_eq (markRound_advances occupied) ⟨hSound, hStop⟩
      (Nat.lt_succ_self (spanBytes frame.toNat stop.toNat))

/-- The representation invariant of the bitmap.  Let its bits be numbered in 32 bits.  After
every run from a new bitmap the managed frames have bits, the cursor is between the first
allocatable frame and the end of the managed range, and every bit behind that range is set.
The run can be continued with whatever calls: none of them reaches past the end of the bitmap
or leaves a 32-bit register, and its loops end. -/
theorem Runs.keeps_representation {history : History} (hSize : size * 8 < 0x100000000)
    (hRuns : Runs size history bitmap) :
    bitmap.Intact ∧ bitmap.LoopsEnd ∧
      ∀ operations : List Operation, ∃ records last, Runs size (records ++ history) last ∧
        records.map Record.operation = operations := by
  have hIntact := hRuns.intact hSize
  exact ⟨hIntact, (hIntact.sound hSize).loopsEnd, hRuns.exists_append hSize⟩

/-- Fifteen frames are managed and freed from 5 on, and then only eleven: frames 9 and 10 are
freed by a range that leaves the 32-bit numbers, and handed out. -/
def shrunk : History :=
  [⟨.allocate, .allocated (.ok (Page.ofNumber 10))⟩,
    ⟨.allocate, .allocated (.ok (Page.ofNumber 9))⟩, ⟨.markRange 9 0xFFFFFFFF false, .done⟩,
    ⟨.start 0xB000, .done⟩, ⟨.markRange 5 100 false, .done⟩, ⟨.start 0xF000, .done⟩]

theorem runs_shrunk : Runs 2 shrunk ⟨#v[0xFF, 0xFF], 11, 11⟩ := by
  have hStart : Runs 2 (shrunk.drop 5) ⟨#v[0xFF, 0xFF], 15, 1⟩ := .next .new rfl
  have hMark : FrameBitmap.markRange (⟨#v[0xFF, 0xFF], 15, 1⟩ : FrameBitmap 2) 5 100 false =
      .ok ⟨#v[0xF8, 0x01], 15, 1⟩ := by decide +kernel
  have hFreed : Runs 2 (shrunk.drop 4) ⟨#v[0xF8, 0x01], 15, 1⟩ :=
    .next hStart (by rw [perform, hMark]; rfl)
  have hAgain : Runs 2 (shrunk.drop 3) ⟨#v[0xFF, 0xFF], 11, 1⟩ := .next hFreed rfl
  have hRange : FrameBitmap.markRange (⟨#v[0xFF, 0xFF], 11, 1⟩ : FrameBitmap 2) 9 0xFFFFFFFF false =
      .ok ⟨#v[0xFF, 0x9F], 11, 1⟩ := by decide +kernel
  have hTwo : Runs 2 (shrunk.drop 2) ⟨#v[0xFF, 0x9F], 11, 1⟩ :=
    .next hAgain (by rw [perform, hRange]; rfl)
  have hNine : FrameBitmap.allocate (⟨#v[0xFF, 0x9F], 11, 1⟩ : FrameBitmap 2) =
      .ok (.ok 9, ⟨#v[0xFF, 0xDF], 11, 10⟩) := by decide +kernel
  have hOne : Runs 2 (shrunk.drop 1) ⟨#v[0xFF, 0xDF], 11, 10⟩ :=
    .next hTwo (by rw [perform, hNine]; rfl)
  have hTen : FrameBitmap.allocate (⟨#v[0xFF, 0xDF], 11, 10⟩ : FrameBitmap 2) =
      .ok (.ok 10, ⟨#v[0xFF, 0xFF], 11, 11⟩) := by decide +kernel
  exact .next hOne (by rw [perform, hTen]; rfl)

/-- The cursor stands right behind a managed range that ends inside a byte, and the bits of
frames 11 to 15 are set, although some of these frames were free before. -/
theorem representation_shrunk : 2 * 8 < 0x100000000 ∧
    Runs 2 shrunk ⟨#v[0xFF, 0xFF], 11, 11⟩ ∧
    (⟨#v[0xFF, 0xFF], 11, 11⟩ : FrameBitmap 2).Intact ∧
    (⟨#v[0xFF, 0xFF], 11, 11⟩ : FrameBitmap 2).LoopsEnd ∧
      ∀ operations : List Operation, ∃ records last, Runs 2 (records ++ shrunk) last ∧
        records.map Record.operation = operations :=
  ⟨by decide, runs_shrunk, Runs.keeps_representation (by decide) runs_shrunk⟩

end FrameBitmap
end TwoLevelPaging
