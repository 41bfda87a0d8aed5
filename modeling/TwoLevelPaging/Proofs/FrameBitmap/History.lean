import TwoLevelPaging.Proofs.FrameBitmap.Effect

/-!
# Frames over whole runs of the bitmap

What one call does to the free frames can be read off its record (`Follows`): a frame that
is free afterwards was freed by the call, or was free before and is not one that the call
occupies.  Along a run this relates the bits to the history: a free frame was freed after it
was last occupied (`Runs.freed_of_freeAt`).  Since only free frames are handed out, none is
handed out twice, and the number of free frames follows each frame that goes out or comes
back (`Runs.accounts`).

Pages have numbers below 2 ^ 20, so a record names the frame that was handed out only if the
bitmap is for at most 4 GiB.
-/

namespace TwoLevelPaging
namespace FrameBitmap

variable {size : Nat} {bitmap before after : FrameBitmap size} {frame : Nat}

/-- A bitmap that manages nothing is sound. -/
theorem sound_empty (size : Nat) : (empty size).Sound where
  fits := Nat.zero_le _
  narrow := by simp [empty]

/-! ## One call -/

theorem Marks.ne_of_freeAt (hMarks : Marks before after frame true) {other : Nat}
    (hFree : after.freeAt other = true) : other ≠ frame := by
  rintro rfl
  have hManaged : other < before.limit := hMarks.limit ▸ lt_limit_of_freeAt hFree
  rw [hMarks.freeAt_same hManaged] at hFree
  cases hFree

/-- What a call on a bitmap does to the free frames, as its record tells it. -/
structure Follows (before : FrameBitmap size) (record : Record) (after : FrameBitmap size) :
    Prop where
  sound : after.Sound
  freed : ∀ frame, after.freeAt frame = true →
    record.Frees frame ∨ before.freeAt frame = true ∧ ¬ record.Occupies frame
  handedOut : ∀ frame, record.handedOut? = some frame →
    0 < frame.number ∧ before.freeAt frame.number = true ∧ Marks before after frame.number true
  takenBack : ∀ number, record.takenBack? = some number →
    before.Releasable number ∧ Marks before after number false

namespace Follows

variable {record : Record}

/-- A call that starts the management over. -/
theorem of_started (hSize : size ≤ fullSize) (bytes : Nat) :
    Follows bitmap ⟨.start bytes, .done⟩ (bitmap.start bytes) where
  sound := sound_of_le_fullSize (Nat.min_le_right _ _) hSize
  freed frame hFree := by
    rw [freeAt_start] at hFree
    cases hFree
  handedOut frame hFrame := nomatch hFrame
  takenBack number hNumber := nomatch hNumber

/-- A call that changes nothing. -/
theorem of_unchanged (hSound : bitmap.Sound) (hSpared : ∀ frame, ¬ record.Occupies frame)
    (hOut : record.handedOut? = none) (hBack : record.takenBack? = none) :
    Follows bitmap record bitmap where
  sound := hSound
  freed frame hFree := .inr ⟨hFree, hSpared frame⟩
  handedOut frame hFrame := by simp [hOut] at hFrame
  takenBack number hNumber := by simp [hBack] at hNumber

/-- A call that sets or clears the bits of the managed frames that it covers. -/
theorem of_marked (covers : Nat → Prop) [DecidablePred covers] (occupied : Bool)
    (hSound : before.Sound) (hLimit : after.limit = before.limit)
    (hBits : ∀ other, after.isOccupied other =
      if covers other ∧ other < before.limit then occupied else before.isOccupied other)
    (hFrees : ∀ frame, covers frame → occupied = false → record.Frees frame)
    (hOccupies : ∀ frame, record.Occupies frame → covers frame ∧ occupied = true)
    (hOut : record.handedOut? = none) (hBack : record.takenBack? = none) :
    Follows before record after where
  sound := hSound.congr hLimit
  freed frame hFree := by
    obtain ⟨hManaged, hClear⟩ := (after.freeAt_eq_true_iff frame).mp hFree
    rw [hLimit] at hManaged
    rw [hBits] at hClear
    by_cases hCovered : covers frame
    · rw [if_pos ⟨hCovered, hManaged⟩] at hClear
      exact .inl (hFrees frame hCovered hClear)
    · rw [if_neg (fun hBoth => hCovered hBoth.1)] at hClear
      exact .inr ⟨(before.freeAt_eq_true_iff frame).mpr ⟨hManaged, hClear⟩,
        fun hOccupied => hCovered (hOccupies frame hOccupied).1⟩
  handedOut frame hFrame := by simp [hOut] at hFrame
  takenBack number hNumber := by simp [hBack] at hNumber

/-- A call that hands a free frame out. -/
theorem of_handedOut {page : Frame} (hSound : before.Sound)
    (hOut : record.handedOut? = some page) (hBack : record.takenBack? = none)
    (hOccupies : ∀ frame, record.Occupies frame → frame = page.number)
    (hPositive : 0 < page.number) (hFree : before.freeAt page.number = true)
    (hMarks : Marks before after page.number true) : Follows before record after where
  sound := hSound.congr hMarks.limit
  freed frame hFrame := by
    have hOther : frame ≠ page.number := hMarks.ne_of_freeAt hFrame
    refine .inr ⟨?_, fun hOccupied => hOther (hOccupies frame hOccupied)⟩
    rwa [hMarks.freeAt_of_ne hOther] at hFrame
  handedOut frame hFrame := by
    obtain rfl := Option.some.inj (hOut.symm.trans hFrame)
    exact ⟨hPositive, hFree, hMarks⟩
  takenBack number hNumber := by simp [hBack] at hNumber

/-- A call that takes a frame back. -/
theorem of_takenBack (hSound : before.Sound) (hBack : record.takenBack? = some frame)
    (hOut : record.handedOut? = none) (hFrees : record.Frees frame)
    (hSpared : ∀ other, ¬ record.Occupies other) (hReleasable : before.Releasable frame)
    (hMarks : Marks before after frame false) : Follows before record after where
  sound := hSound.congr hMarks.limit
  freed other hFree := by
    by_cases hSame : other = frame
    · rw [hSame]
      exact .inl hFrees
    · rw [hMarks.freeAt_of_ne hSame] at hFree
      exact .inr ⟨hFree, hSpared other⟩
  handedOut page hPage := by simp [hOut] at hPage
  takenBack number hNumber := by
    obtain rfl := Option.some.inj (hBack.symm.trans hNumber)
    exact ⟨hReleasable, hMarks⟩

end Follows

/-- A frame of a bitmap for at most 4 GiB has a page of its number. -/
theorem number_ofNumber_of_freeAt (hSize : size ≤ fullSize) (hSound : bitmap.Sound)
    (hFree : bitmap.freeAt frame = true) : (Page.ofNumber frame : Frame).number = frame := by
  have hManaged := lt_limit_of_freeAt hFree
  have hFits := hSound.fits
  unfold Fits at hFits
  unfold fullSize at hSize
  rw [Page.number_ofNumber, PageSize.count]
  omega

/-- Whatever a call has done, its record tells which frames it has freed and occupied. -/
theorem Effect.follows {record : Record} (hEffect : Effect before record after)
    (hSound : before.Sound) (hSize : size ≤ fullSize) : Follows before record after := by
  cases hEffect with
  | started bytes => exact .of_started hSize bytes
  | unchanged hOut hBack hSpared => exact .of_unchanged hSound hSpared hOut hBack
  | marked covers occupied hLimit hCursor hBits hOut hBack hFrees hOccupies =>
      exact .of_marked covers occupied hSound hLimit hBits hFrees hOccupies hOut hBack
  | handedOut number hPositive hFree hMarks hCursor hOut hBack hOccupies =>
      have hNumber := number_ofNumber_of_freeAt hSize hSound hFree
      rw [← hNumber] at hPositive hFree hMarks
      exact .of_handedOut hSound hOut hBack hOccupies hPositive hFree hMarks
  | takenBack number hReleasable hMarks hCursor hOut hBack hFrees hSpared =>
      exact .of_takenBack hSound hBack hOut hFrees hSpared hReleasable hMarks

/-- The operation is answered, and the record of it tells what it has done. -/
def Answers (bitmap : FrameBitmap size) (operation : Operation) : Prop :=
  ∃ outcome after, bitmap.perform operation = .ok (outcome, after) ∧
    Follows bitmap ⟨operation, outcome⟩ after

/-- Every call on a sound bitmap is answered, and its record tells what it has done. -/
theorem Sound.answers (hSound : bitmap.Sound) (hSize : size ≤ fullSize) (operation : Operation) :
    bitmap.Answers operation := by
  obtain ⟨outcome, after, hPerform, hEffect⟩ := hSound.performs operation
  exact ⟨outcome, after, hPerform, hEffect.follows hSound hSize⟩

/-- What is known of the one outcome that a call has. -/
theorem Sound.follows (hSound : bitmap.Sound) (hSize : size ≤ fullSize) {operation : Operation}
    {outcome : Outcome} (hPerform : bitmap.perform operation = .ok (outcome, after)) :
    Follows bitmap ⟨operation, outcome⟩ after :=
  (hSound.effect hPerform).follows hSound hSize

/-! ## Runs -/

namespace Runs

variable {history : History}

/-- Every run leaves a sound bitmap. -/
theorem sound (hRuns : Runs size history bitmap) (hSize : size ≤ fullSize) : bitmap.Sound := by
  induction hRuns with
  | new => exact sound_empty size
  | next hRuns hPerform ih => exact (ih.follows hSize hPerform).sound

/-- A frame that is free after a run was freed after it was last occupied. -/
theorem freed_of_freeAt (hRuns : Runs size history bitmap) (hSize : size ≤ fullSize)
    (hFree : bitmap.freeAt frame = true) : Freed history frame := by
  induction hRuns with
  | new =>
      have hManaged : frame < 0 := lt_limit_of_freeAt hFree
      omega
  | next hRuns hPerform ih =>
      rcases ((hRuns.sound hSize).follows hSize hPerform).freed frame hFree with
        hFrees | ⟨hBefore, hSpared⟩
      · exact .now hFrees
      · exact (ih hBefore).later hSpared

end Runs

/-! ## Counts -/

/-- Read backwards, a release is an allocation. -/
theorem Marks.symm (hMarks : Marks before after frame false)
    (hReleasable : before.Releasable frame) : Marks after before frame true where
  limit := hMarks.limit.symm
  same := by
    obtain ⟨-, hManaged, hOccupied⟩ := hReleasable
    simpa [freeAt, hManaged] using hOccupied
  others other hOther := (hMarks.others other hOther).symm

theorem Follows.freeCount_handedOut {record : Record} {page : Frame}
    (hFollows : Follows before record after) (hSound : before.Sound)
    (hOut : record.handedOut? = some page) :
    ∃ left, before.freeCount = .ok (left + 1) ∧ after.freeCount = .ok left := by
  obtain ⟨-, hFree, hMarks⟩ := hFollows.handedOut page hOut
  refine ⟨after.freeSet.card, ?_, freeCount_eq hFollows.sound⟩
  rw [freeCount_eq hSound, hMarks.card_freeSet hFree]

theorem Follows.freeCount_takenBack {record : Record}
    (hFollows : Follows before record after) (hSound : before.Sound)
    (hBack : record.takenBack? = some frame) :
    ∃ left, before.freeCount = .ok left ∧ after.freeCount = .ok (left + 1) := by
  obtain ⟨hReleasable, hMarks⟩ := hFollows.takenBack frame hBack
  have hFree : after.freeAt frame = true := hMarks.freeAt_same hReleasable.2.1
  refine ⟨before.freeSet.card, freeCount_eq hSound, ?_⟩
  rw [freeCount_eq hFollows.sound, (hMarks.symm hReleasable).card_freeSet hFree]

/-- The count is the number of frames that the bitmap says are free. -/
theorem freeCount_eq_card_isFree (hSound : bitmap.Sound) : bitmap.freeCount =
    .ok ((Finset.range bitmap.limit).filter fun frame => bitmap.isFree frame = .ok true).card := by
  rw [freeCount_eq hSound, freeSet]
  congr 2
  refine Finset.filter_congr ?_
  intro frame _
  rw [isFree_eq hSound.fits, Except.ok.injEq]

/-- Nothing can be allocated right after the start. -/
theorem allocate_start (bitmap : FrameBitmap size) (hSize : size ≤ fullSize) (bytes : Nat) :
    (bitmap.start bytes).allocate = .ok (.error .outOfMemory, bitmap.start bytes) := by
  have hSound : (bitmap.start bytes).Sound :=
    sound_of_le_fullSize (Nat.min_le_right _ _) hSize
  rcases exists_allocate_eq hSound with ⟨number, after, -, -, hFree, -⟩ | ⟨hNone, -⟩
  · rw [freeAt_start] at hFree
    cases hFree
  · exact hNone

/-- A release is accepted exactly for a releasable frame, and a refused one changes nothing. -/
theorem exists_perform_release_eq (hSound : bitmap.Sound) (address : Address .physical) :
    ∃ result after, bitmap.perform (.release address) = .ok (.released result, after) ∧
      (result = .ok () ↔ bitmap.Releasable (Page.containing address : Frame).number) ∧
      (result ≠ .ok () → after = bitmap) := by
  rcases release_cases hSound (Page.containing address : Frame).number with
    ⟨hReleasable, after, hRelease, -⟩ | ⟨hRefused, error, hRelease⟩
  · exact ⟨.ok (), after, by rw [perform, hRelease]; rfl, iff_of_true rfl hReleasable, by simp⟩
  · exact ⟨.error error, bitmap, by rw [perform, hRelease]; rfl,
      iff_of_false (by simp) hRefused, by simp⟩

/-- What a run leaves: its history and the bits agree, and so do the bits and the count. -/
structure Accounts (history : History) (bitmap : FrameBitmap size) : Prop where
  answered : ∀ operation, ∃ outcome after, bitmap.perform operation = .ok (outcome, after)
  /-- A frame that is handed out next is managed and not frame zero.  It was freed after it
  was last occupied, and there is one free frame less afterwards. -/
  handedOut : ∀ {operation outcome after frame},
    bitmap.perform operation = .ok (outcome, after) →
    (Record.mk operation outcome).handedOut? = some frame →
      0 < frame.number ∧ frame.number < bitmap.limit ∧ Freed history frame.number ∧
        ∃ left, bitmap.freeCount = .ok (left + 1) ∧ after.freeCount = .ok left
  /-- Nothing can be handed out right after the start. -/
  started : ∀ bytes,
    (bitmap.start bytes).allocate = .ok (.error .outOfMemory, bitmap.start bytes) ∧
      FrameSource.take (bitmap.start bytes) = .ok (none, bitmap.start bytes, [])
  /-- A release is accepted for a managed occupied frame other than frame zero, and a
  refused one changes nothing. -/
  released : ∀ address : Address .physical, ∃ result after,
    bitmap.perform (.release address) = .ok (.released result, after) ∧
      (result = .ok () ↔ 1 ≤ address.toNat / 4096 ∧ address.toNat / 4096 < bitmap.limit ∧
        bitmap.isFree (address.toNat / 4096) = .ok false) ∧
      (result ≠ .ok () → after = bitmap)
  /-- A frame that is taken back is one free frame more. -/
  takenBack : ∀ {operation outcome after frame},
    bitmap.perform operation = .ok (outcome, after) →
    (Record.mk operation outcome).takenBack? = some frame →
      ∃ left, bitmap.freeCount = .ok left ∧ after.freeCount = .ok (left + 1)
  counted : bitmap.freeCount =
    .ok ((Finset.range bitmap.limit).filter fun frame => bitmap.isFree frame = .ok true).card

/-- No frame is handed out twice: after every run of a bitmap for at most 4 GiB a frame that
is handed out was freed after it was last occupied, releases are accepted for occupied
frames only, and the count of free frames is exact. -/
theorem Runs.accounts {history : History} (hSize : size ≤ fullSize)
    (hRuns : Runs size history bitmap) : Accounts history bitmap := by
  have hSound := hRuns.sound hSize
  constructor
  case answered =>
    intro operation
    obtain ⟨outcome, after, hPerform, -⟩ := hSound.answers hSize operation
    exact ⟨outcome, after, hPerform⟩
  case handedOut =>
    intro operation outcome after frame hPerform hOut
    have hFollows := hSound.follows hSize hPerform
    obtain ⟨hPositive, hFree, -⟩ := hFollows.handedOut frame hOut
    exact ⟨hPositive, lt_limit_of_freeAt hFree, hRuns.freed_of_freeAt hSize hFree,
      hFollows.freeCount_handedOut hSound hOut⟩
  case started =>
    intro bytes
    have hNone := bitmap.allocate_start hSize bytes
    refine ⟨hNone, ?_⟩
    simp only [FrameSource.take, hNone]
    rfl
  case released =>
    intro address
    obtain ⟨result, after, hPerform, hResult, hRefused⟩ := exists_perform_release_eq hSound address
    refine ⟨result, after, hPerform, ?_, hRefused⟩
    rw [hResult, Releasable, isFree_eq hSound.fits, Except.ok.injEq]
    rfl
  case takenBack =>
    intro operation outcome after frame hPerform hBack
    exact (hSound.follows hSize hPerform).freeCount_takenBack hSound hBack
  case counted =>
    exact freeCount_eq_card_isFree hSound

/-- Frame 3 is handed out and given back. -/
def reuse : History :=
  [⟨.give (Page.ofNumber 3), .given [.frameFreed 3]⟩, ⟨.take, .taken (some (Page.ofNumber 3))⟩,
    ⟨.mark 3 false, .done⟩, ⟨.start 0x8000, .done⟩]

theorem runs_reuse : Runs 1 reuse ⟨#v[0xEF], 8, 4⟩ := by
  have hStart : Runs 1 [⟨.start 0x8000, .done⟩] ⟨#v[0xFF], 8, 1⟩ := .next .new rfl
  have hMark : Runs 1 [⟨.mark 3 false, .done⟩, ⟨.start 0x8000, .done⟩] ⟨#v[0xEF], 8, 1⟩ :=
    .next hStart rfl
  have hAllocate : FrameBitmap.allocate (⟨#v[0xEF], 8, 1⟩ : FrameBitmap 1) =
      .ok (.ok 3, ⟨#v[0xFF], 8, 4⟩) := by decide +kernel
  have hTake : Runs 1 [⟨.take, .taken (some (Page.ofNumber 3))⟩, ⟨.mark 3 false, .done⟩,
      ⟨.start 0x8000, .done⟩] ⟨#v[0xFF], 8, 4⟩ :=
    .next hMark (by
      simp only [perform, FrameSource.take, hAllocate]
      rfl)
  exact .next hTake rfl

/-- Frame 3 may be handed out once more, because it has come back. -/
theorem accounts_reuse : 1 ≤ fullSize ∧ Runs 1 reuse ⟨#v[0xEF], 8, 4⟩ ∧
    (FrameBitmap.perform (⟨#v[0xEF], 8, 4⟩ : FrameBitmap 1) .allocate =
      .ok (.allocated (.ok (Page.ofNumber 3)), ⟨#v[0xFF], 8, 4⟩)) ∧ Freed reuse 3 := by
  have hAllocate : FrameBitmap.perform (⟨#v[0xEF], 8, 4⟩ : FrameBitmap 1) .allocate =
      .ok (.allocated (.ok (Page.ofNumber 3)), ⟨#v[0xFF], 8, 4⟩) := by
    have hNext : FrameBitmap.allocate (⟨#v[0xEF], 8, 4⟩ : FrameBitmap 1) =
        .ok (.ok 3, ⟨#v[0xFF], 8, 4⟩) := by decide +kernel
    rw [perform, hNext]
    rfl
  obtain ⟨-, -, hFreed, -⟩ :=
    (Runs.accounts (by decide) runs_reuse).handedOut hAllocate rfl
  exact ⟨by decide, runs_reuse, hAllocate, hFreed⟩

end FrameBitmap
end TwoLevelPaging
