import TwoLevelPaging.FrameBitmap.Basic

/-!
# Marking ranges of frames

A range is marked byte by byte: a leading part of a byte, whole bytes, and a
trailing part.  `spanMask` has the bits of one such part.
-/

namespace TwoLevelPaging
namespace FrameBitmap

variable {size : Nat}

/-- The mask of `bits` frames of a byte, from bit `first` on, counted from the
most significant bit. -/
def spanMask (first bits : Nat) : UInt8 :=
  UInt8.ofNat ((1 <<< bits - 1) <<< (8 - first - bits))

/-- Mark the frames `[frame, stop)`, a byte at a time. -/
def markSpan (bitmap : FrameBitmap size) (frame stop : Nat) (occupied : Bool) :
    Except Fault (FrameBitmap size) :=
  if frame < stop then
    let take := min (8 - frame % 8) (stop - frame)
    match bitmap.editByte (frame / 8) (paint occupied (spanMask (frame % 8) take)) with
    | .error fault => .error fault
    | .ok marked =>
      if frame + take < 0x100000000 then
        marked.markSpan (frame + take) stop occupied
      else
        .error .overflow
  else
    .ok bitmap
termination_by stop - frame

/-- Mark `count` frames from `start` on.  The end of the range stays in a 32-bit
register, and what lies beyond the managed range is ignored. -/
def markRange (bitmap : FrameBitmap size) (start count : Nat) (occupied : Bool) :
    Except Fault (FrameBitmap size) :=
  bitmap.markSpan start (min (min (start + count) 0xFFFFFFFF) bitmap.limit) occupied

end FrameBitmap
end TwoLevelPaging
