import TwoLevelPaging.FrameBitmap.View
import TwoLevelPaging.FrameSource

/-!
# Handing frames out and taking them back, on the set of free frames

A bitmap that its own operations have produced is `Sound`: every managed frame
has a bit, and positions stay below the top of a 32-bit register.  On a sound
bitmap no operation of this file faults, and each is described by what it does
to `freeAt` and to the bits behind it:

* a search answers with the least free frame of its range (`exists_scan_eq`);
* a frame that is handed out was free, is not frame zero, and its bit is the only
  one that changes (`exists_allocate_eq`);
* a frame that is given back becomes free if it is managed and not frame zero,
  and no other bit changes (`exists_release_eq`).

The cursor decides which free frame comes next.  Nothing here depends on it, so
no bound on the cursor is asked for.
-/

namespace TwoLevelPaging
namespace FrameBitmap

variable {size : Nat}

/-- What the operations on a bitmap preserve: the managed frames have bits, and
the end of the managed range, rounded up to a byte, fits a 32-bit register. -/
structure Sound (bitmap : FrameBitmap size) : Prop where
  fits : bitmap.Fits
  narrow : bitmap.limit + 8 ≤ 0x100000000

/-- Whatever the size of memory is, a bitmap is sound from the start on, if the number
of its bits fits a 32-bit register. -/
theorem sound_start (bitmap : FrameBitmap size) (hSize : size * 8 < 0x100000000) (bytes : Nat) :
    (bitmap.start bytes).Sound := by
  have hLimit : (bitmap.start bytes).limit ≤ size * 8 := Nat.min_le_right _ _
  constructor
  · exact hLimit
  · omega

/-- A bitmap for at most 4 GiB whose managed frames have bits is sound. -/
theorem sound_of_le_fullSize {bitmap : FrameBitmap size} (hFits : bitmap.Fits)
    (hSize : size ≤ fullSize) : bitmap.Sound := by
  refine ⟨hFits, ?_⟩
  unfold Fits at hFits
  unfold fullSize at hSize
  omega

theorem Sound.congr {before after : FrameBitmap size} (hSound : before.Sound)
    (hLimit : after.limit = before.limit) : after.Sound := by
  have hFits := hSound.fits
  have hNarrow := hSound.narrow
  unfold Fits at hFits
  constructor
  · unfold Fits
    omega
  · omega

/-- A free frame is managed. -/
theorem lt_limit_of_freeAt {bitmap : FrameBitmap size} {frame : Nat}
    (hFree : bitmap.freeAt frame = true) : frame < bitmap.limit := by
  simp only [freeAt, Bool.and_eq_true, decide_eq_true_eq] at hFree
  exact hFree.1

/-! ## Searching -/

/-- The answer of a search: the least free frame of `[start, stop)`, if there is one. -/
def IsLeastFree (bitmap : FrameBitmap size) (start stop : Nat) : Option Nat → Prop
  | none => ∀ frame, start ≤ frame → frame < stop → bitmap.freeAt frame = false
  | some found => start ≤ found ∧ found < stop ∧ bitmap.freeAt found = true ∧
      ∀ frame, start ≤ frame → frame < found → bitmap.freeAt frame = false

/-- Frames below the new start are not free, so the search may begin there. -/
theorem IsLeastFree.extend {bitmap : FrameBitmap size} {start next stop : Nat}
    {found : Option Nat} (hAnswer : bitmap.IsLeastFree next stop found) (hNext : start ≤ next)
    (hSkipped : ∀ frame, start ≤ frame → frame < next → bitmap.freeAt frame = false) :
    bitmap.IsLeastFree start stop found := by
  cases found with
  | none =>
      intro frame hStart hStop
      by_cases hReached : next ≤ frame
      · exact hAnswer frame hReached hStop
      · exact hSkipped frame hStart (by omega)
  | some found =>
      obtain ⟨hReached, hStop, hFree, hLeast⟩ := hAnswer
      refine ⟨by omega, hStop, hFree, ?_⟩
      intro frame hStart hBefore
      by_cases hAbove : next ≤ frame
      · exact hLeast frame hAbove hBefore
      · exact hSkipped frame hStart (by omega)

@[simp]
theorem hasBit_full (frame : Nat) : hasBit 0xFF frame = true := by
  have hEvery : ∀ bit : Fin 8, (0xFF : UInt8).toBitVec.getLsbD (7 - bit.val) = true := by
    decide
  exact hEvery ⟨frame % 8, Nat.mod_lt _ (by decide)⟩

/-- Inside the managed range, being free is having a clear bit. -/
theorem freeAt_eq_not_hasBit {bitmap : FrameBitmap size} {frame position : Nat}
    (hManaged : frame < bitmap.limit) (hPosition : frame / 8 = position)
    (hInside : position < size) :
    bitmap.freeAt frame = !hasBit bitmap.bytes[position] frame := by
  subst hPosition
  simp [freeAt, isOccupied, hManaged, hInside]

/-- At the start no frame is free. -/
@[simp]
theorem freeAt_start (bitmap : FrameBitmap size) (bytes frame : Nat) :
    (bitmap.start bytes).freeAt frame = false := by
  have hOccupied : (bitmap.start bytes).isOccupied frame = true := by
    simp [isOccupied, start]
  simp [freeAt, hOccupied]

/-- A search inside the managed range does not fault and finds the least free
frame.  Skipping a full byte passes over occupied frames only. -/
theorem exists_scan_eq {bitmap : FrameBitmap size} (hSound : bitmap.Sound) (start stop : Nat)
    (hStop : stop ≤ bitmap.limit) :
    ∃ found, bitmap.scan start stop = .ok found ∧ bitmap.IsLeastFree start stop found := by
  have hNarrow := hSound.narrow
  fun_induction bitmap.scan start stop with
  | case1 frame hBelow fault hByte =>
      have hInside := hSound.fits.byte_lt (show frame < bitmap.limit by omega)
      rw [byteAt_of_lt bitmap hInside] at hByte
      cases hByte
  | case2 frame hBelow byte hByte hFull hFits ih =>
      -- A full byte is skipped: its managed frames are occupied, and no other is free.
      obtain ⟨found, hScan, hAnswer⟩ := ih
      refine ⟨found, hScan, hAnswer.extend (by omega) ?_⟩
      intro other hStart hBefore
      by_cases hManaged : other < bitmap.limit
      · have hInside := hSound.fits.byte_lt hManaged
        have hSame : other / 8 = frame / 8 := by omega
        have hPosition : frame / 8 < size := by omega
        rw [byteAt_of_lt bitmap hPosition] at hByte
        rw [freeAt_eq_not_hasBit hManaged hSame hPosition, Except.ok.inj hByte,
          beq_iff_eq.mp hFull, hasBit_full]
        rfl
      · simp [freeAt, hManaged]
  | case3 frame hBelow byte hByte hFull hOverflow =>
      omega
  | case4 frame hBelow byte hByte hPartial hClear =>
      -- The first clear bit ends the search.
      have hInside := hSound.fits.byte_lt (show frame < bitmap.limit by omega)
      rw [byteAt_of_lt bitmap hInside] at hByte
      rw [and_mask_eq_zero] at hClear
      refine ⟨some frame, rfl, Nat.le_refl frame, hBelow, ?_, by omega⟩
      rw [freeAt_eq_not_hasBit (by omega) rfl hInside, Except.ok.inj hByte]
      exact hClear
  | case5 frame hBelow byte hByte hPartial hSet hFits ih =>
      -- A set bit passes over one frame.
      obtain ⟨found, hScan, hAnswer⟩ := ih
      refine ⟨found, hScan, hAnswer.extend (by omega) ?_⟩
      intro other hStart hBefore
      have hInside := hSound.fits.byte_lt (show frame < bitmap.limit by omega)
      have hSame : other = frame := by omega
      rw [byteAt_of_lt bitmap hInside] at hByte
      rw [and_mask_eq_zero] at hSet
      rw [hSame, freeAt_eq_not_hasBit (by omega) rfl hInside, Except.ok.inj hByte]
      simpa using hSet
  | case6 frame hBelow byte hByte hPartial hSet hOverflow =>
      omega
  | case7 frame hDone =>
      refine ⟨none, rfl, ?_⟩
      intro other hStart hBefore
      omega

/-- The frame that is handed out next is a free one, and there is one unless
every frame but frame zero is occupied. -/
theorem exists_nextFree?_eq {bitmap : FrameBitmap size} (hSound : bitmap.Sound) :
    ∃ found, bitmap.nextFree? = .ok found ∧
      match found with
      | none => ∀ frame, 0 < frame → bitmap.freeAt frame = false
      | some frame => 0 < frame ∧ bitmap.freeAt frame = true := by
  obtain ⟨found, hScan, hAnswer⟩ :=
    exists_scan_eq hSound (max bitmap.cursor firstAllocatable) bitmap.limit (Nat.le_refl _)
  cases found with
  | some frame =>
      obtain ⟨hReached, -, hFree, -⟩ := hAnswer
      refine ⟨some frame, by simp [nextFree?, hScan, bind, Except.bind, pure, Except.pure], ?_,
        hFree⟩
      simp only [firstAllocatable] at hReached
      omega
  | none =>
      obtain ⟨other, hRest, hOther⟩ := exists_scan_eq hSound firstAllocatable
        (min bitmap.cursor bitmap.limit) (Nat.min_le_right _ _)
      refine ⟨other, by simp [nextFree?, hScan, hRest, bind, Except.bind], ?_⟩
      cases other with
      | some frame =>
          obtain ⟨hReached, -, hFree, -⟩ := hOther
          exact ⟨hReached, hFree⟩
      | none =>
          intro frame hPositive
          by_cases hManaged : frame < bitmap.limit
          -- A frame in front of the cursor is met by the second search.
          · by_cases hCursor : frame < bitmap.cursor
            · exact hOther frame hPositive (by omega)
            · exact hAnswer frame (by simp only [firstAllocatable]; omega) hManaged
          · simp [freeAt, hManaged]

/-! ## One bit -/

/-- The bit of a managed frame says whether it is free. -/
theorem freeAt_eq_true_iff (bitmap : FrameBitmap size) (frame : Nat) :
    bitmap.freeAt frame = true ↔ frame < bitmap.limit ∧ bitmap.isOccupied frame = false := by
  simp [freeAt]

/-- One bit has been set or cleared; beside it only the cursor may have changed. -/
structure Marks (before after : FrameBitmap size) (frame : Nat) (occupied : Bool) : Prop where
  limit : after.limit = before.limit
  same : after.isOccupied frame = occupied
  others : ∀ other, other ≠ frame → after.isOccupied other = before.isOccupied other

theorem Marks.freeAt_same {before after : FrameBitmap size} {frame : Nat} {occupied : Bool}
    (hMarks : Marks before after frame occupied) (hManaged : frame < before.limit) :
    after.freeAt frame = !occupied := by
  simp [freeAt, hMarks.limit, hMarks.same, hManaged]

theorem Marks.freeAt_of_ne {before after : FrameBitmap size} {frame : Nat} {occupied : Bool}
    (hMarks : Marks before after frame occupied) {other : Nat} (hOther : other ≠ frame) :
    after.freeAt other = before.freeAt other := by
  simp only [freeAt, hMarks.limit, hMarks.others other hOther]

/-- Marking a frame that was free makes no other frame free. -/
theorem Marks.freeAt_before {before after : FrameBitmap size} {frame : Nat} {occupied : Bool}
    (hMarks : Marks before after frame occupied) (hFree : before.freeAt frame = true)
    {other : Nat} (hOther : after.freeAt other = true) : before.freeAt other = true := by
  by_cases hSame : other = frame
  · rw [hSame]
    exact hFree
  · rwa [hMarks.freeAt_of_ne hSame] at hOther

/-! ## Handing out and taking back -/

/-- Occupying a managed frame changes that frame only, and the search goes on behind it. -/
theorem exists_occupy_eq {bitmap : FrameBitmap size} (hSound : bitmap.Sound) {frame : Nat}
    (hManaged : frame < bitmap.limit) :
    ∃ after, bitmap.occupy frame = .ok after ∧ after.limit = bitmap.limit ∧
      after.cursor = frame + 1 ∧
      ∀ other, after.isOccupied other = (bitmap.isOccupied other || other == frame) := by
  obtain ⟨⟨bytes, limit, cursor⟩, hMark, hLimit, -, hBits⟩ :=
    exists_mark_eq hSound.fits frame true
  have hNarrow := hSound.narrow
  simp only at hLimit
  refine ⟨⟨bytes, limit, frame + 1⟩, ?_, hLimit, rfl, ?_⟩
  · have hWord : Checked.word (frame + 1) = .ok (frame + 1) := by
      rw [Checked.word_eq_ok_iff]
      exact ⟨by omega, rfl⟩
    simp [occupy, hMark, hWord, Except.map]
  · intro other
    have hBit := hBits other
    simp only [isOccupied] at hBit ⊢
    rw [hBit]
    by_cases hSame : other = frame
    · simp [hSame, hManaged]
    · simp [hSame]

/-- Handing out a frame: it was free and is not frame zero, no other frame changes, and the
search goes on behind it; or no such frame exists and nothing changes. -/
theorem exists_allocate_eq {bitmap : FrameBitmap size} (hSound : bitmap.Sound) :
    (∃ frame after, bitmap.allocate = .ok (.ok frame, after) ∧ 0 < frame ∧
      bitmap.freeAt frame = true ∧ Marks bitmap after frame true ∧
      after.cursor = frame + 1) ∨
    (bitmap.allocate = .ok (.error .outOfMemory, bitmap) ∧
      ∀ frame, 0 < frame → bitmap.freeAt frame = false) := by
  obtain ⟨found, hNext, hFound⟩ := exists_nextFree?_eq hSound
  cases found with
  | none => exact .inr ⟨by simp [allocate, hNext], hFound⟩
  | some frame =>
      obtain ⟨hPositive, hFree⟩ := hFound
      obtain ⟨after, hOccupy, hLimit, hCursor, hBits⟩ :=
        exists_occupy_eq hSound (lt_limit_of_freeAt hFree)
      refine .inl ⟨frame, after, ?_, hPositive, hFree, ⟨hLimit, ?_, ?_⟩, hCursor⟩
      · simp [allocate, hNext, hOccupy, Except.map]
      · simp [hBits]
      · intro other hOther
        simp [hBits, hOther]

/-- Only a free frame is handed out. -/
theorem freeAt_of_allocate {bitmap after : FrameBitmap size} (hSound : bitmap.Sound)
    {frame : Nat} (hAllocate : bitmap.allocate = .ok (.ok frame, after)) :
    bitmap.freeAt frame = true := by
  rcases exists_allocate_eq hSound with ⟨number, next, hFound, -, hFree, -⟩ | ⟨hNone, -⟩
  · rw [hFound] at hAllocate
    cases hAllocate
    exact hFree
  · rw [hNone] at hAllocate
    cases hAllocate

/-- The frame is not handed out, neither by this bitmap nor by any later one in which no other
frames have become free. -/
def Retains (bitmap : FrameBitmap size) (frame : Nat) : Prop :=
  ∀ later : FrameBitmap size, later.limit = bitmap.limit →
    (∀ number, later.freeAt number = true → bitmap.freeAt number = true) →
    ∀ after, later.allocate ≠ .ok (.ok frame, after)

/-- Occupied frames are not handed out. -/
theorem retains_of_not_freeAt {bitmap : FrameBitmap size} (hSound : bitmap.Sound) {frame : Nat}
    (hOccupied : ¬ bitmap.freeAt frame = true) : bitmap.Retains frame := by
  intro later hLimit hFree after hAllocate
  exact hOccupied (hFree frame (freeAt_of_allocate (hSound.congr hLimit) hAllocate))

/-- A refused release changes nothing. -/
theorem eq_of_release_eq_error {bitmap after : FrameBitmap size} {frame : Nat}
    {error : FrameError}
    (hRelease : bitmap.release frame = .ok (.error error, after)) : after = bitmap := by
  unfold release at hRelease
  split at hRelease
  · cases hRelease
    rfl
  · split at hRelease
    · cases hRelease
      rfl
    · split at hRelease
      · cases hRelease
      · cases hRelease
        rfl
      · cases hMark : bitmap.mark frame false <;> rw [hMark] at hRelease <;> cases hRelease

/-- Taking a frame back frees it if it is managed and not frame zero, whether or
not it was free before, and changes no other frame.  The search is not moved. -/
theorem exists_release_eq {bitmap : FrameBitmap size} (hSound : bitmap.Sound) (frame : Nat) :
    ∃ result after, bitmap.release frame = .ok (result, after) ∧
      after.limit = bitmap.limit ∧ after.cursor = bitmap.cursor ∧
      (result = .ok () ↔ 0 < frame ∧ frame < bitmap.limit ∧ bitmap.freeAt frame = false) ∧
      ∀ other, after.isOccupied other = (bitmap.isOccupied other &&
        !(other == frame && decide (0 < frame ∧ frame < bitmap.limit))) := by
  by_cases hZero : frame = 0
  · exact ⟨.error .nullFrame, bitmap, by simp [release, hZero], rfl, rfl, by simp [hZero],
      by simp [hZero]⟩
  · by_cases hBeyond : bitmap.limit ≤ frame
    · refine ⟨.error (.outOfRange frame), bitmap, by simp [release, hZero, hBeyond], rfl, rfl,
        by simp; omega, ?_⟩
      intro other
      simp [Nat.not_lt.mpr hBeyond]
    · have hManaged : frame < bitmap.limit := by omega
      have hPositive : 0 < frame := by omega
      have hIsFree := isFree_eq hSound.fits frame
      cases hFree : bitmap.freeAt frame with
      | true =>
          rw [hFree] at hIsFree
          refine ⟨.error (.notAllocated frame), bitmap,
            by simp [release, hZero, hBeyond, hIsFree], rfl, rfl, by simp, ?_⟩
          intro other
          -- The frame is refused because its bit is clear already.
          have hClear := ((bitmap.freeAt_eq_true_iff frame).mp hFree).2
          by_cases hSame : other = frame
          · simp [hSame, hClear]
          · simp [hSame]
      | false =>
          rw [hFree] at hIsFree
          obtain ⟨after, hMark, hLimit, hCursor, hBits⟩ := exists_mark_eq hSound.fits frame false
          refine ⟨.ok (), after, by simp [release, hZero, hBeyond, hIsFree, hMark, Except.map],
            hLimit, hCursor, by simp [hPositive, hManaged], ?_⟩
          intro other
          rw [hBits other]
          by_cases hSame : other = frame
          · simp [hSame, hManaged, hPositive]
          · simp [hSame]

/-! ## The bitmap as a source of frames -/

/-- A frame is taken from the free ones, or there is none and the bitmap stays. -/
theorem exists_take_eq {bitmap : FrameBitmap size} (hSound : bitmap.Sound) :
    (∃ number pool events,
      FrameSource.take bitmap = .ok (some (Page.ofNumber number), pool, events) ∧
        0 < number ∧ bitmap.freeAt number = true ∧ Marks bitmap pool number true) ∨
    ∃ events, FrameSource.take bitmap = .ok (none, bitmap, events) := by
  rcases exists_allocate_eq hSound with
    ⟨number, pool, hAllocate, hPositive, hFree, hMarks, -⟩ | ⟨hAllocate, -⟩
  · refine .inl ⟨number, pool, allocationEvents (.ok number), ?_, hPositive, hFree, hMarks⟩
    simp only [FrameSource.take, hAllocate, bind, Except.bind, pure, Except.pure,
      Except.toOption, Option.map_some]
  · refine .inr ⟨allocationEvents (.error .outOfMemory), ?_⟩
    simp only [FrameSource.take, hAllocate, bind, Except.bind, pure, Except.pure,
      Except.toOption, Option.map_none]

/-- Only a bitmap without free frames, but for frame zero, has none to deal out. -/
theorem freeAt_of_take_none {bitmap pool : FrameBitmap size} {events : List Event}
    (hSound : bitmap.Sound) (hTake : FrameSource.take bitmap = .ok (none, pool, events))
    {frame : Nat} (hPositive : 0 < frame) : bitmap.freeAt frame = false := by
  rcases exists_allocate_eq hSound with ⟨number, next, hAllocate, -⟩ | ⟨-, hNone⟩
  · simp only [FrameSource.take, hAllocate, bind, Except.bind, pure, Except.pure,
      Except.toOption, Option.map_some] at hTake
    cases hTake
  · exact hNone frame hPositive

/-- Giving a frame back clears its bit, if it is a managed one and not frame zero. -/
theorem exists_give_eq {bitmap : FrameBitmap size} (hSound : bitmap.Sound) (frame : Frame) :
    ∃ pool events, FrameSource.give bitmap frame = .ok (pool, events) ∧
      pool.limit = bitmap.limit ∧
      (0 < frame.number → frame.number < bitmap.limit →
        Marks bitmap pool frame.number false) := by
  obtain ⟨result, pool, hRelease, hLimit, -, -, hBits⟩ := exists_release_eq hSound frame.number
  have hMarks : 0 < frame.number → frame.number < bitmap.limit →
      Marks bitmap pool frame.number false := by
    intro hPositive hManaged
    refine ⟨hLimit, by simp [hBits, hPositive, hManaged], ?_⟩
    intro other hOther
    simp [hBits, hOther]
  cases result with
  | ok value => exact ⟨pool, _, by simp [FrameSource.give, hRelease]; rfl, hLimit, hMarks⟩
  | error error => exact ⟨pool, _, by simp [FrameSource.give, hRelease]; rfl, hLimit, hMarks⟩

/-- Giving a frame back is taking it back, with a report. -/
theorem exists_release_of_give {bitmap pool : FrameBitmap size} {frame : Frame}
    {events : List Event} (hGive : FrameSource.give bitmap frame = .ok (pool, events)) :
    ∃ result, bitmap.release frame.number = .ok (result, pool) := by
  obtain ⟨⟨result, after⟩, hRelease, hReport⟩ := Checked.exists_of_bind_eq_ok hGive
  refine ⟨result, ?_⟩
  cases result with
  | ok value => rw [hRelease, (Prod.mk.inj (Except.ok.inj hReport)).1]
  | error error => rw [hRelease, (Prod.mk.inj (Except.ok.inj hReport)).1]

end FrameBitmap
end TwoLevelPaging
