import TwoLevelPaging.FrameBitmap.Basic

/-!
# Handing frames out and taking them back

The search is next-fit: it resumes after the frame handed out last, goes to the
end of the managed range, and then over the frames in front of the cursor.  A
byte without a clear bit is skipped as a whole.
-/

namespace TwoLevelPaging
namespace FrameBitmap

variable {size : Nat}

/-- The least free frame of `[frame, stop)`. -/
def scan (bitmap : FrameBitmap size) (frame stop : Nat) : Except Fault (Option Nat) :=
  if frame < stop then
    match bitmap.byteAt (frame / 8) with
    | .error fault => .error fault
    | .ok byte =>
      if byte == 0xFF then
        if (frame / 8 + 1) * 8 < 0x100000000 then
          bitmap.scan ((frame / 8 + 1) * 8) stop
        else
          .error .overflow
      else if byte &&& mask frame == 0 then
        .ok (some frame)
      else if frame + 1 < 0x100000000 then
        bitmap.scan (frame + 1) stop
      else
        .error .overflow
  else
    .ok none
termination_by stop - frame

/-- The frame that is handed out next. -/
def nextFree? (bitmap : FrameBitmap size) : Except Fault (Option Nat) := do
  match ← bitmap.scan (max bitmap.cursor firstAllocatable) bitmap.limit with
  | some frame => return some frame
  | none => bitmap.scan firstAllocatable (min bitmap.cursor bitmap.limit)

/-- Occupy a frame and go on behind it the next time. -/
def occupy (bitmap : FrameBitmap size) (frame : Nat) : Except Fault (FrameBitmap size) :=
  match bitmap.mark frame true with
  | .error fault => .error fault
  | .ok ⟨bytes, limit, _⟩ => (Checked.word (frame + 1)).map fun cursor => ⟨bytes, limit, cursor⟩

/-- Hand out a free frame. -/
def allocate (bitmap : FrameBitmap size) :
    Except Fault (Except FrameError Nat × FrameBitmap size) :=
  match bitmap.nextFree? with
  | .error fault => .error fault
  | .ok none => .ok (.error .outOfMemory, bitmap)
  | .ok (some frame) => (bitmap.occupy frame).map fun occupied => (.ok frame, occupied)

/-- Take a frame back.  Frame 0, a frame beyond the managed range and a frame
that is free already are refused. -/
def release (bitmap : FrameBitmap size) (frame : Nat) :
    Except Fault (Except FrameError Unit × FrameBitmap size) :=
  if frame = 0 then
    .ok (.error .nullFrame, bitmap)
  else if bitmap.limit ≤ frame then
    .ok (.error (.outOfRange frame), bitmap)
  else
    match bitmap.isFree frame with
    | .error fault => .error fault
    | .ok true => .ok (.error (.notAllocated frame), bitmap)
    | .ok false => (bitmap.mark frame false).map fun marked => (.ok (), marked)

end FrameBitmap
end TwoLevelPaging
