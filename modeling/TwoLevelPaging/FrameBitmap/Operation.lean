import TwoLevelPaging.FrameBitmap.NextFit
import TwoLevelPaging.FrameBitmap.Range
import TwoLevelPaging.FrameSource

/-!
# Operations on the bitmap as data

An `Operation` is a call to the allocator of frames with its arguments, an `Outcome` what
the caller sees of it, and a `Record` both.  `Record.Frees` and `Record.Occupies` read off a
record which frames the call has set free or occupied, without looking at any bit, and
`Freed` asks a history of records whether a frame was set free after it was last occupied.
-/

namespace TwoLevelPaging
namespace FrameBitmap

variable {size : Nat}

/-- A call with its arguments. -/
inductive Operation where
  | start (bytes : Nat)
  | mark (frame : Nat) (occupied : Bool)
  | markRange (first count : Nat) (occupied : Bool)
  | allocate
  | release (address : Address .physical)
  /-- An allocation for a table or a page. -/
  | take
  /-- A release that is reported only if it is rejected. -/
  | give (frame : Frame)
  | countFree
  | askFree (frame : Nat)
  deriving DecidableEq

/-- What a caller sees of a call. -/
inductive Outcome where
  | done
  | allocated (result : Except FrameError Frame)
  | released (result : Except FrameError Unit)
  | taken (frame : Option Frame)
  | given (reported : List Event)
  | counted (frames : Nat)
  | told (free : Bool)

/-- Do what the operation says. -/
def perform (bitmap : FrameBitmap size) :
    Operation → Except Fault (Outcome × FrameBitmap size)
  | .start bytes => .ok (.done, bitmap.start bytes)
  | .mark frame occupied => (bitmap.mark frame occupied).map fun after => (.done, after)
  | .markRange first count occupied =>
      (bitmap.markRange first count occupied).map fun after => (.done, after)
  | .allocate => bitmap.allocate.map fun (result, after) =>
      (.allocated (result.map Page.ofNumber), after)
  | .release address => (bitmap.release (Page.containing address : Frame).number).map
      fun (result, after) => (.released result, after)
  | .take => (FrameSource.take bitmap).map fun (frame, after, _) => (.taken frame, after)
  | .give frame => (FrameSource.give bitmap frame).map fun (after, events) => (.given events, after)
  | .countFree => bitmap.freeCount.map fun frames => (.counted frames, bitmap)
  | .askFree frame => (bitmap.isFree frame).map fun free => (.told free, bitmap)

/-- A call and what came of it. -/
structure Record where
  operation : Operation
  outcome : Outcome

namespace Record

/-- The frame that the call hands out. -/
def handedOut? : Record → Option Frame
  | ⟨_, .allocated (.ok frame)⟩ => some frame
  | ⟨_, .taken frame⟩ => frame
  | _ => none

/-- The number of the frame that the call takes back. -/
def takenBack? : Record → Option Nat
  | ⟨.release address, .released (.ok ())⟩ => some (Page.containing address : Frame).number
  | ⟨.give frame, .given reported⟩ =>
      if .frameFreed frame.number ∈ reported then some frame.number else none
  | _ => none

/-- The call frees the frame: it marks it free or takes it back. -/
def Frees (record : Record) (frame : Nat) : Prop :=
  match record.operation with
  | .mark marked false => marked = frame
  | .markRange first count false => first ≤ frame ∧ frame < first + count
  | _ => record.takenBack? = some frame

/-- The call occupies the frame: it starts over, marks it occupied or hands it out. -/
def Occupies (record : Record) (frame : Nat) : Prop :=
  match record.operation with
  | .start _ => True
  | .mark marked true => marked = frame
  | .markRange first count true => first ≤ frame ∧ frame < first + count
  | _ => record.handedOut?.map Page.number = some frame

end Record

/-- The records of a run, the newest first. -/
abbrev History := List Record

/-- Some call freed the frame, and none since has occupied it. -/
def Freed (history : History) (frame : Nat) : Prop :=
  ∃ newer record older, history = newer ++ record :: older ∧ record.Frees frame ∧
    ∀ later ∈ newer, ¬ later.Occupies frame

/-- The runs from a new bitmap on, with any operations in any order. -/
inductive Runs (size : Nat) : History → FrameBitmap size → Prop
  | new : Runs size [] (empty size)
  | next {history : History} {before after : FrameBitmap size} {operation : Operation}
      {outcome : Outcome} (hRuns : Runs size history before)
      (hPerform : before.perform operation = .ok (outcome, after)) :
      Runs size (⟨operation, outcome⟩ :: history) after

/-- A frame that a call has just freed is freed. -/
theorem Freed.now {record : Record} {history : History} {frame : Nat}
    (hFrees : record.Frees frame) : Freed (record :: history) frame :=
  ⟨[], record, history, rfl, hFrees, by simp⟩

/-- A freed frame stays freed as long as no call occupies it. -/
theorem Freed.later {record : Record} {history : History} {frame : Nat}
    (hFreed : Freed history frame) (hSpared : ¬ record.Occupies frame) :
    Freed (record :: history) frame := by
  obtain ⟨newer, freeing, older, hSplit, hFrees, hNewer⟩ := hFreed
  refine ⟨record :: newer, freeing, older, by rw [hSplit, List.cons_append], hFrees, ?_⟩
  intro later hLater
  rcases List.mem_cons.mp hLater with hFirst | hRest
  · rw [hFirst]
    exact hSpared
  · exact hNewer later hRest

end FrameBitmap
end TwoLevelPaging
