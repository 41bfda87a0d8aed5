import TwoLevelPaging.Layout
import TwoLevelPaging.Text.Record

/-!
# What the firmware and the loader report

The memory manager learns from outside how much memory there is (`BootInfo`),
which byte ranges of it are usable (`MemoryRegion`), and where the linker has put
the kernel (`KernelImage`).  Byte ranges are 64 bits wide and rounded to frames
in two ways: inward for memory that may be handed out, outward for memory that
must be kept out of the way.
-/

namespace TwoLevelPaging

/-- A run of consecutive frame numbers. -/
structure FrameRange where
  first : Nat
  count : Nat
  deriving DecidableEq

instance : Membership Nat FrameRange where
  mem range frame := range.first ≤ frame ∧ frame < range.first + range.count

/-- The quotient, rounded up. -/
def roundUpDiv (number divisor : Nat) : Nat :=
  (number + divisor - 1) / divisor

/-- What the loader reports about memory in general. -/
structure BootInfo where
  /-- Memory below 1 MiB, in KiB. -/
  lowerKib : UInt32
  /-- Memory from 1 MiB on, in KiB. -/
  upperKib : UInt32
  /-- The physical address of the memory map. -/
  mapAddress : UInt32
  /-- The size of the memory map in bytes. -/
  mapBytes : UInt32
  deriving DecidableEq

namespace BootInfo

/-- The address right above the last byte of memory. -/
def memoryLimit (boot : BootInfo) : Nat :=
  Layout.upperMemoryBase + boot.upperKib.toNat * 1024

/-- The size of one record of the memory map. -/
def regionBytes : Nat := 24

/-- The number of whole records in the memory map. -/
def regionCount (boot : BootInfo) : Nat :=
  boot.mapBytes.toNat / regionBytes

end BootInfo

/-- A byte range of the memory map. -/
structure MemoryRegion where
  base : UInt64
  length : UInt64
  kind : UInt32
  deriving DecidableEq

namespace MemoryRegion

/-- The kind of usable memory. -/
def availableKind : UInt32 := 1

/-- The kind of memory that the firmware keeps. -/
def reservedKind : UInt32 := 2

/-- Whether the memory may be used. -/
def isAvailable (region : MemoryRegion) : Bool :=
  region.kind == availableKind

/-- The address right above the region; it stays at the greatest 64-bit number
if the sum does not fit. -/
def stop (region : MemoryRegion) : Nat :=
  min (region.base.toNat + region.length.toNat) 0xFFFFFFFFFFFFFFFF

/-- The frames that lie in the region as a whole. -/
def wholeFrames (region : MemoryRegion) : FrameRange :=
  let first := roundUpDiv region.base.toNat Layout.pageBytes
  let stop := region.stop / Layout.pageBytes
  ⟨first, if first < stop then stop - first else 0⟩

/-- The frames from the one that holds the first byte of the region up to its
last byte. -/
def coveringFrames (region : MemoryRegion) : Except Fault FrameRange := do
  let first := region.base.toNat / Layout.pageBytes
  let count ← Checked.difference (roundUpDiv region.stop Layout.pageBytes) first
  return ⟨first, count⟩

/-- The kind of the region in words. -/
def kindName (region : MemoryRegion) : String :=
  if region.kind = availableKind then
    "available"
  else if region.kind = reservedKind then
    "reserved"
  else
    "other"

/-- The region with its fields by name. -/
def debug (region : MemoryRegion) : String :=
  Text.record "MemoryRegion" [("base", Text.decimal region.base.toNat),
    ("length", Text.decimal region.length.toNat), ("kind", Text.decimal region.kind.toNat)]

end MemoryRegion

/-- The extent of the linked kernel and of the loader stub below it. -/
structure KernelImage where
  start : Address .virtual
  stop : Address .virtual
  loaderEnd : Address .physical
  deriving DecidableEq

namespace KernelImage

/-- The physical address at which an address of the image is loaded, counted
modulo the size of the address space. -/
def physical (address : Address .virtual) : Address .physical :=
  ⟨address.word - UInt32.ofNat Layout.higherHalf⟩

/-- The physical address of the first byte. -/
def physicalStart (image : KernelImage) : Address .physical :=
  physical image.start

/-- The physical address right above the last byte. -/
def physicalStop (image : KernelImage) : Address .physical :=
  physical image.stop

/-- The number of pages that the length of the image fills; an image that ends
before it starts has none. -/
def pageCount (image : KernelImage) : Nat :=
  roundUpDiv (image.stop.toNat - image.start.toNat) Layout.pageBytes

/-- The image with its fields by name. -/
def debug (image : KernelImage) : String :=
  Text.record "KernelImage" [("start", image.start.debug), ("end", image.stop.debug),
    ("loader_end", image.loaderEnd.debug)]

end KernelImage

end TwoLevelPaging
