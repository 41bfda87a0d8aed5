import TwoLevelPaging.FrameBitmap.Operation
import TwoLevelPaging.Proofs.FrameBitmap.Count
import TwoLevelPaging.Proofs.FrameBitmap.Ranges

/-!
# What a call does to the bitmap

A call starts over, changes nothing, sets or clears the bits of the managed frames that it
covers, hands a free frame out, or takes an occupied one back.  `Effect` lists these five with
the bits, the limit and the cursor that they leave, and with what the record of the call tells
of them.  A sound bitmap answers every call with one of the five (`Sound.performs`), so a call
that has been made had one of them (`Sound.effect`).

Whatever holds along the runs of a bitmap is proved for the five effects and not for the
calls.  The search of an allocation and the marking of a range enter only through what they
leave, so no such argument depends on how either walks over the bytes.
-/

namespace TwoLevelPaging
namespace FrameBitmap

variable {size : Nat} {bitmap after : FrameBitmap size}

/-! ## Frames that come back -/

/-- A frame that may be released: a managed one that is occupied, and not frame zero. -/
def Releasable (bitmap : FrameBitmap size) (frame : Nat) : Prop :=
  0 < frame ∧ frame < bitmap.limit ∧ bitmap.freeAt frame = false

/-- A release clears the bit of a releasable frame, and is refused for any other. -/
theorem release_cases (hSound : bitmap.Sound) (frame : Nat) :
    (bitmap.Releasable frame ∧ ∃ after, bitmap.release frame = .ok (.ok (), after) ∧
      Marks bitmap after frame false ∧ after.cursor = bitmap.cursor) ∨
    (¬ bitmap.Releasable frame ∧ ∃ error, bitmap.release frame = .ok (.error error, bitmap)) := by
  obtain ⟨result, after, hRelease, hLimit, hCursor, hResult, hBits⟩ :=
    exists_release_eq hSound frame
  cases result with
  | ok value =>
      have hReleasable : bitmap.Releasable frame := hResult.mp rfl
      refine .inl ⟨hReleasable, after, hRelease, ⟨hLimit, ?_, ?_⟩, hCursor⟩
      · simp [hBits, hReleasable.1, hReleasable.2.1]
      · intro other hOther
        simp [hBits, hOther]
  | error error =>
      obtain rfl := eq_of_release_eq_error hRelease
      refine .inr ⟨?_, error, hRelease⟩
      intro hReleasable
      cases hResult.mpr hReleasable

/-! ## The five effects -/

/-- What a call may have done to a bitmap, given the record of it. -/
inductive Effect (before : FrameBitmap size) : Record → FrameBitmap size → Prop
  | started (bytes : Nat) : Effect before ⟨.start bytes, .done⟩ (before.start bytes)
  | unchanged {record : Record} (hOut : record.handedOut? = none)
      (hBack : record.takenBack? = none) (hSpared : ∀ frame, ¬ record.Occupies frame) :
      Effect before record before
  /-- A frame that is covered but not managed has no bit to mark. -/
  | marked {record : Record} {after : FrameBitmap size} (covers : Nat → Prop)
      [DecidablePred covers] (occupied : Bool) (hLimit : after.limit = before.limit)
      (hCursor : after.cursor = before.cursor)
      (hBits : ∀ other, after.isOccupied other =
        if covers other ∧ other < before.limit then occupied else before.isOccupied other)
      (hOut : record.handedOut? = none) (hBack : record.takenBack? = none)
      (hFrees : ∀ frame, covers frame → occupied = false → record.Frees frame)
      (hOccupies : ∀ frame, record.Occupies frame → covers frame ∧ occupied = true) :
      Effect before record after
  /-- The record names the page of the frame, which tells the frame if it is below 4 GiB. -/
  | handedOut {record : Record} {after : FrameBitmap size} (number : Nat)
      (hPositive : 0 < number) (hFree : before.freeAt number = true)
      (hMarks : Marks before after number true) (hCursor : after.cursor = number + 1)
      (hOut : record.handedOut? = some (Page.ofNumber number))
      (hBack : record.takenBack? = none)
      (hOccupies : ∀ frame, record.Occupies frame →
        frame = (Page.ofNumber number : Frame).number) :
      Effect before record after
  | takenBack {record : Record} {after : FrameBitmap size} (number : Nat)
      (hReleasable : before.Releasable number) (hMarks : Marks before after number false)
      (hCursor : after.cursor = before.cursor) (hOut : record.handedOut? = none)
      (hBack : record.takenBack? = some number) (hFrees : record.Frees number)
      (hSpared : ∀ frame, ¬ record.Occupies frame) :
      Effect before record after

/-- The operation is answered, with one of the effects. -/
def Performs (bitmap : FrameBitmap size) (operation : Operation) : Prop :=
  ∃ outcome after, bitmap.perform operation = .ok (outcome, after) ∧
    Effect bitmap ⟨operation, outcome⟩ after

/-! ## One call -/

namespace Performs

theorem start (bytes : Nat) : bitmap.Performs (.start bytes) :=
  ⟨.done, bitmap.start bytes, rfl, .started bytes⟩

theorem mark (hSound : bitmap.Sound) (marked : Nat) (occupied : Bool) :
    bitmap.Performs (.mark marked occupied) := by
  obtain ⟨after, hMark, hLimit, hCursor, hBits⟩ := exists_mark_eq hSound.fits marked occupied
  refine ⟨.done, after, by rw [perform, hMark, Except.map], ?_⟩
  refine .marked (fun other => marked = other) occupied hLimit hCursor ?_ rfl rfl ?_ ?_
  · intro other
    rw [hBits]
    by_cases hSame : marked = other
    · simp [hSame]
    · simp [hSame, Ne.symm hSame]
  · rintro other hCovered rfl
    exact hCovered
  · intro other hOccupied
    cases occupied with
    | false => cases hOccupied
    | true => exact ⟨hOccupied, rfl⟩

theorem markRange (hSound : bitmap.Sound) (first count : Nat) (occupied : Bool) :
    bitmap.Performs (.markRange first count occupied) := by
  obtain ⟨after, hMark, hLimit, hCursor, hBits⟩ := exists_markRange_eq hSound first count occupied
  refine ⟨.done, after, by rw [perform, hMark, Except.map], ?_⟩
  refine .marked (fun other => first ≤ other ∧ other < first + count) occupied hLimit hCursor
    ?_ rfl rfl ?_ ?_
  · intro other
    simp only [hBits, and_assoc]
  · rintro other hCovered rfl
    exact hCovered
  · intro other hOccupied
    cases occupied with
    | false => cases hOccupied
    | true => exact ⟨hOccupied, rfl⟩

theorem allocate (hSound : bitmap.Sound) : bitmap.Performs .allocate := by
  rcases exists_allocate_eq hSound with
    ⟨number, after, hAllocate, hPositive, hFree, hMarks, hCursor⟩ | ⟨hAllocate, -⟩
  · refine ⟨.allocated (.ok (Page.ofNumber number)), after, by rw [perform, hAllocate]; rfl, ?_⟩
    exact .handedOut number hPositive hFree hMarks hCursor rfl rfl
      (fun _ hFrame => (Option.some.inj hFrame).symm)
  · refine ⟨.allocated (.error .outOfMemory), bitmap, by rw [perform, hAllocate]; rfl, ?_⟩
    exact .unchanged rfl rfl (fun _ hFrame => nomatch hFrame)

theorem take (hSound : bitmap.Sound) : bitmap.Performs .take := by
  rcases exists_allocate_eq hSound with
    ⟨number, after, hAllocate, hPositive, hFree, hMarks, hCursor⟩ | ⟨hAllocate, -⟩
  · refine ⟨.taken (some (Page.ofNumber number)), after, ?_, ?_⟩
    · simp only [perform, FrameSource.take, hAllocate]
      rfl
    · exact .handedOut number hPositive hFree hMarks hCursor rfl rfl
        (fun _ hFrame => (Option.some.inj hFrame).symm)
  · refine ⟨.taken none, bitmap, ?_, ?_⟩
    · simp only [perform, FrameSource.take, hAllocate]
      rfl
    · exact .unchanged rfl rfl (fun _ hFrame => nomatch hFrame)

theorem release (hSound : bitmap.Sound) (address : Address .physical) :
    bitmap.Performs (.release address) := by
  rcases release_cases hSound (Page.containing address : Frame).number with
    ⟨hReleasable, after, hRelease, hMarks, hCursor⟩ | ⟨-, error, hRelease⟩
  · refine ⟨.released (.ok ()), after, by rw [perform, hRelease]; rfl, ?_⟩
    exact .takenBack _ hReleasable hMarks hCursor rfl rfl rfl (fun _ hFrame => nomatch hFrame)
  · refine ⟨.released (.error error), bitmap, by rw [perform, hRelease]; rfl, ?_⟩
    exact .unchanged rfl rfl (fun _ hFrame => nomatch hFrame)

theorem give (hSound : bitmap.Sound) (page : Frame) : bitmap.Performs (.give page) := by
  rcases release_cases hSound page.number with
    ⟨hReleasable, after, hRelease, hMarks, hCursor⟩ | ⟨-, error, hRelease⟩
  · have hGive : FrameSource.give bitmap page = .ok (after, [.frameFreed page.number]) := by
      simp only [FrameSource.give, hRelease]
      rfl
    have hReported : (Record.mk (.give page) (.given [.frameFreed page.number])).takenBack? =
        some page.number := if_pos (List.mem_singleton_self _)
    refine ⟨.given [.frameFreed page.number], after, by rw [perform, hGive]; rfl, ?_⟩
    exact .takenBack page.number hReleasable hMarks hCursor rfl hReported hReported
      (fun _ hFrame => nomatch hFrame)
  · have hGive : FrameSource.give bitmap page = .ok (bitmap, [.releaseRejected page error]) := by
      simp only [FrameSource.give, hRelease]
      rfl
    refine ⟨.given [.releaseRejected page error], bitmap, by rw [perform, hGive]; rfl, ?_⟩
    exact .unchanged rfl (by simp [Record.takenBack?]) (fun _ hFrame => nomatch hFrame)

theorem countFree (hSound : bitmap.Sound) : bitmap.Performs .countFree := by
  refine ⟨.counted bitmap.freeSet.card, bitmap, by rw [perform, freeCount_eq hSound]; rfl, ?_⟩
  exact .unchanged rfl rfl (fun _ hFrame => nomatch hFrame)

theorem askFree (hSound : bitmap.Sound) (frame : Nat) : bitmap.Performs (.askFree frame) := by
  refine ⟨.told (bitmap.freeAt frame), bitmap, by rw [perform, isFree_eq hSound.fits]; rfl, ?_⟩
  exact .unchanged rfl rfl (fun _ hFrame => nomatch hFrame)

end Performs

/-- A sound bitmap answers every call, with one of the effects. -/
theorem Sound.performs (hSound : bitmap.Sound) (operation : Operation) :
    bitmap.Performs operation := by
  cases operation with
  | start bytes => exact .start bytes
  | mark marked occupied => exact .mark hSound marked occupied
  | markRange first count occupied => exact .markRange hSound first count occupied
  | allocate => exact .allocate hSound
  | release address => exact .release hSound address
  | take => exact .take hSound
  | give page => exact .give hSound page
  | countFree => exact .countFree hSound
  | askFree frame => exact .askFree hSound frame

/-- The one outcome that a call has comes with one of the effects. -/
theorem Sound.effect (hSound : bitmap.Sound) {operation : Operation} {outcome : Outcome}
    (hPerform : bitmap.perform operation = .ok (outcome, after)) :
    Effect bitmap ⟨operation, outcome⟩ after := by
  obtain ⟨other, next, hOther, hEffect⟩ := hSound.performs operation
  rw [hPerform] at hOther
  cases hOther
  exact hEffect

end FrameBitmap
end TwoLevelPaging
