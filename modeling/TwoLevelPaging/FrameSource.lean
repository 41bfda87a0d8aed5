import TwoLevelPaging.Event
import TwoLevelPaging.FrameBitmap.NextFit

/-!
# Sources of frames

Page tables and pages are backed by frames from a source.  The bitmap of
physical frames is one; a strip, which deals out consecutive frames and only
collects what is given back, is another.
-/

namespace TwoLevelPaging

/-- Something that deals out frames and takes them back. -/
class FrameSource (source : Type) where
  /-- Deal out a frame, if there is one, and say what there is to report. -/
  take : source → Except Fault (Option Frame × source × List Event)
  /-- Take a frame back. -/
  give : source → Frame → Except Fault (source × List Event)

namespace FrameBitmap

variable {size : Nat}

/-- What an allocation reports. -/
def allocationEvents : Except FrameError Nat → List Event
  | .ok frame => [.frameAllocated frame]
  | .error _ => []

/-- What a successful release reports. -/
def releaseEvents (frame : Nat) : Except FrameError Unit → List Event
  | .ok () => [.frameFreed frame]
  | .error _ => []

/-- What the start of the management of memory up to a limit reports. -/
def startEvents (bitmap : FrameBitmap size) (bytes : Nat) : List Event :=
  if bitmap.capacity < framesBelow bytes then [.limitClamped bytes bitmap.capacity] else []

instance : FrameSource (FrameBitmap size) where
  take bitmap := do
    let (result, after) ← bitmap.allocate
    return (result.toOption.map Page.ofNumber, after, allocationEvents result)
  give bitmap frame := do
    let (result, after) ← bitmap.release frame.number
    match result with
    | .ok () => return (after, releaseEvents frame.number result)
    | .error error => return (after, [.releaseRejected frame error])

end FrameBitmap

/-- The frames `[next, stop)`, dealt out in order, and the frames given back so
far, the oldest first. -/
structure FrameStrip where
  next : Nat
  stop : Nat
  returned : List Frame
  deriving DecidableEq

namespace FrameStrip

/-- The number of frames that are left. -/
def remaining (strip : FrameStrip) : Nat :=
  strip.stop - strip.next

instance : FrameSource FrameStrip where
  take strip :=
    if strip.next < strip.stop then
      .ok (some (Page.ofNumber strip.next), { strip with next := strip.next + 1 }, [])
    else
      .ok (none, strip, [])
  give strip frame := .ok ({ strip with returned := strip.returned ++ [frame] }, [])

end FrameStrip

end TwoLevelPaging
