import TwoLevelPaging.Page
import TwoLevelPaging.Text.Explained
import TwoLevelPaging.Text.Record

/-!
# The bitmap of physical frames

One bit stands for one frame, in the order of frame numbers, with the most
significant bit of each byte first.  A set bit means that the frame is occupied,
reserved or unknown; a clear bit means that it is free.  The bitmap manages the
frames below `limit`, and searches resume at `cursor`.

Frame numbers are plain numbers here: a caller may name a frame beyond the
managed range or beyond memory, which marking ignores.  Every byte is reached
through `byteAt` and `editByte`, which fault past the end of the bitmap.
-/

namespace TwoLevelPaging

/-- A bitmap of `size` bytes. -/
structure FrameBitmap (size : Nat) where
  bytes : Vector UInt8 size
  limit : Nat
  cursor : Nat
  deriving DecidableEq

/-- Why a frame is not handed out or not taken back. -/
inductive FrameError where
  | outOfMemory
  | nullFrame
  | outOfRange (frame : Nat)
  | notAllocated (frame : Nat)
  deriving DecidableEq

namespace FrameError

/-- The kind of the error by name. -/
def name : FrameError → String
  | outOfMemory => "OutOfPhysicalMemory"
  | nullFrame => "NullFrame"
  | outOfRange _ => "OutOfRange"
  | notAllocated _ => "NotAllocated"

/-- The error in a sentence. -/
def message : FrameError → String
  | outOfMemory => "out of physical memory"
  | nullFrame => "frame 0 is never allocated"
  | outOfRange frame => "frame " ++ Text.decimal frame ++ " is beyond the managed range"
  | notAllocated frame => "frame " ++ Text.decimal frame ++ " is not allocated"

/-- The kind of the error with its number. -/
def debug (error : FrameError) : String :=
  match error with
  | outOfRange frame | notAllocated frame => Text.wrapped error.name (Text.decimal frame)
  | _ => error.name

instance : Explained FrameError where
  name := name
  debug := debug
  message := message

end FrameError

namespace FrameBitmap

variable {size : Nat}

/-- The first frame that may be handed out.  Frame 0 never is, so that a null
physical address never names an allocation. -/
def firstAllocatable : Nat := 1

/-- The size of a bitmap for the whole of 4 GiB. -/
def fullSize : Nat := 131072

/-- The number of frames that the bitmap has bits for. -/
def capacity (_ : FrameBitmap size) : Nat :=
  size * 8

/-- The bitmap that manages nothing. -/
def empty (size : Nat) : FrameBitmap size where
  bytes := Vector.replicate size 0xFF
  limit := 0
  cursor := firstAllocatable

/-- The number of frames below this physical address. -/
def framesBelow (bytes : Nat) : Nat :=
  bytes / PageSize.small.bytes

/-- Manage the memory below this physical address, as far as the bitmap
reaches, with every frame occupied. -/
def start (bitmap : FrameBitmap size) (bytes : Nat) : FrameBitmap size where
  bytes := Vector.replicate size 0xFF
  limit := min (framesBelow bytes) bitmap.capacity
  cursor := firstAllocatable

/-- The number of bytes that are managed. -/
def manageableBytes (bitmap : FrameBitmap size) : Nat :=
  bitmap.limit * PageSize.small.bytes

/-- The bit of a frame in its byte. -/
def mask (frame : Nat) : UInt8 :=
  0x80 >>> UInt8.ofNat (frame % 8)

/-- The byte at this position. -/
def byteAt (bitmap : FrameBitmap size) (position : Nat) : Except Fault UInt8 :=
  if hInside : position < size then .ok bitmap.bytes[position] else .error .outOfBounds

/-- The bitmap with the byte at this position changed. -/
def editByte : FrameBitmap size → Nat → (UInt8 → UInt8) → Except Fault (FrameBitmap size)
  | ⟨bytes, limit, cursor⟩, position, change =>
    if hInside : position < size then
      .ok ⟨bytes.set position (change bytes[position]), limit, cursor⟩
    else
      .error .outOfBounds

/-- Set or clear the bits of the mask. -/
def paint (occupied : Bool) (bits byte : UInt8) : UInt8 :=
  if occupied then byte ||| bits else byte &&& ~~~bits

/-- Whether a managed frame is free. -/
def isFree (bitmap : FrameBitmap size) (frame : Nat) : Except Fault Bool :=
  if frame < bitmap.limit then do
    let byte ← bitmap.byteAt (frame / 8)
    return byte &&& mask frame == 0
  else
    return false

/-- Mark one frame; a frame beyond the managed range is ignored. -/
def mark (bitmap : FrameBitmap size) (frame : Nat) (occupied : Bool) :
    Except Fault (FrameBitmap size) :=
  if frame < bitmap.limit then
    bitmap.editByte (frame / 8) (paint occupied (mask frame))
  else
    .ok bitmap

/-- The number of clear bits of a byte. -/
def clearBits (byte : UInt8) : Nat :=
  let bits := byte.toNat
  8 - (bits % 2 + bits / 2 % 2 + bits / 4 % 2 + bits / 8 % 2 + bits / 16 % 2 + bits / 32 % 2 +
    bits / 64 % 2 + bits / 128 % 2)

/-- The number of free frames in `[frame, frame + count)`, one at a time. -/
def freeCountFrom (bitmap : FrameBitmap size) (frame : Nat) : Nat → Except Fault Nat
  | 0 => .ok 0
  | count + 1 => do
    let free ← bitmap.isFree frame
    let rest ← bitmap.freeCountFrom (frame + 1) count
    return free.toNat + rest

/-- The number of free managed frames: whole bytes by their clear bits, the rest
one frame at a time. -/
def freeCount (bitmap : FrameBitmap size) : Except Fault Nat := do
  let whole := bitmap.limit / 8
  Checked.require (decide (whole ≤ size)) .outOfBounds
  let inBytes := (bitmap.bytes.toList.take whole).foldl (fun sum byte => sum + clearBits byte) 0
  let behind ← bitmap.freeCountFrom (whole * 8) (bitmap.limit % 8)
  Checked.word (inBytes + behind)

end FrameBitmap

end TwoLevelPaging
