import TwoLevelPaging.Firmware
import TwoLevelPaging.FrameBitmap.NextFit

/-!
# Surveys of the frame bitmap

The free frames as ranges, and handing out frames until few are left.
-/

namespace TwoLevelPaging
namespace FrameBitmap

variable {size : Nat}

/-- Put a frame in front of the ranges, the first of which lies above it. -/
def prepend (frame : Nat) : List FrameRange → List FrameRange
  | [] => [⟨frame, 1⟩]
  | range :: rest =>
    if range.first = frame + 1 then
      ⟨frame, range.count + 1⟩ :: rest
    else
      ⟨frame, 1⟩ :: range :: rest

/-- The free frames below `stop`, in front of the ranges found above it. -/
def freeRangesBelow (bitmap : FrameBitmap size) (above : List FrameRange) :
    Nat → Except Fault (List FrameRange)
  | 0 => .ok above
  | frame + 1 =>
    match bitmap.isFree frame with
    | .error fault => .error fault
    | .ok true => bitmap.freeRangesBelow (prepend frame above) frame
    | .ok false => bitmap.freeRangesBelow above frame

/-- The free managed frames as maximal ranges in ascending order. -/
def freeRanges (bitmap : FrameBitmap size) : Except Fault (List FrameRange) :=
  bitmap.freeRangesBelow [] bitmap.limit

/-- Hand out up to `count` frames, in front of those handed out so far. -/
def allocateUpTo (bitmap : FrameBitmap size) (taken : List Nat) :
    Nat → Except Fault (List Nat × FrameBitmap size)
  | 0 => .ok (taken, bitmap)
  | count + 1 =>
    match bitmap.allocate with
    | .error fault => .error fault
    | .ok (.error _, after) => .ok (taken, after)
    | .ok (.ok frame, after) => after.allocateUpTo (frame :: taken) count

/-- Hand out frames until `keep` are left or no further one can be handed out.
The answer has the frame handed out last in front. -/
def drain (bitmap : FrameBitmap size) (keep : Nat) :
    Except Fault (List Nat × FrameBitmap size) :=
  match bitmap.freeCount with
  | .error fault => .error fault
  | .ok free => bitmap.allocateUpTo [] (free - keep)

end FrameBitmap
end TwoLevelPaging
