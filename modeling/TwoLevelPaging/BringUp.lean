import TwoLevelPaging.BootTables
import TwoLevelPaging.FrameBitmap.Range
import TwoLevelPaging.Mapping

/-!
# Bringing memory up

With paging on, the frame bitmap is filled from the memory map of the firmware,
and the address space is completed by the display's text buffer and the kernel
stack.  `Action.bootTables` is the step before: it builds the boot tables inside
the memory of the machine.
-/

namespace TwoLevelPaging

/-- The number of frames from zero on that the kernel image reaches into. -/
def KernelImage.frames (image : KernelImage) : Nat :=
  roundUpDiv image.physicalStop.toNat Layout.pageBytes

namespace Action

variable {source : Type} {size : Nat}

/-- Change the frame bitmap. -/
def onBitmap (step : FrameBitmap size → Except Fault (FrameBitmap size)) :
    Action (FrameBitmap size) Unit :=
  onSource fun bitmap => (step bitmap).map fun after => ((), after, [])

/-- Manage the memory below a physical address, with every frame occupied. -/
def startFrames (bytes : Nat) : Action (FrameBitmap size) Unit :=
  onSource fun bitmap => .ok ((), bitmap.start bytes, bitmap.startEvents bytes)

/-- Mark one frame. -/
def markFrame (frame : Nat) (occupied : Bool) : Action (FrameBitmap size) Unit :=
  onBitmap fun bitmap => bitmap.mark frame occupied

/-- Mark a range of frames. -/
def markFrames (first count : Nat) (occupied : Bool) : Action (FrameBitmap size) Unit :=
  onBitmap fun bitmap => bitmap.markRange first count occupied

/-- Hand out a frame of the bitmap, by its number. -/
def allocateFrame : Action (FrameBitmap size) (Except FrameError Nat) :=
  onSource fun bitmap =>
    bitmap.allocate.map fun after => (after.1, after.2, FrameBitmap.allocationEvents after.1)

/-- Take a frame back into the bitmap. -/
def releaseFrame (frame : Frame) : Action (FrameBitmap size) (Except FrameError Unit) :=
  onSource fun bitmap => (bitmap.release frame.number).map fun after =>
    (after.1, after.2, FrameBitmap.releaseEvents frame.number after.1)

/-- The number of free frames. -/
def freeFrames : Action (FrameBitmap size) Nat := do
  let current ← machine
  check current.source.freeCount

/-- Free the frames that lie in an available region as a whole, as far as frame
numbers have 32 bits. -/
def freeRegion (region : MemoryRegion) : Action (FrameBitmap size) Unit := do
  let range := region.wholeFrames
  if range.first < 0x100000000 then
    let count := min range.count 0xFFFFFFFF
    report (.memoryUsable region count)
    markFrames range.first count false

/-- Free the available regions of a memory map. -/
def freeRegions : List MemoryRegion → Action (FrameBitmap size) Unit
  | [] => return ()
  | region :: rest => do
    onlyIf region.isAvailable (freeRegion region)
    freeRegions rest

/-- Fill the bitmap from a memory map, keeping back the frames up to the end of
the kernel image and those of the text buffer.  The answer is the number of free
frames. -/
def seedFrames (boot : BootInfo) (regions : List MemoryRegion) (image : KernelImage) :
    Action (FrameBitmap size) Nat := do
  startFrames boot.memoryLimit
  freeRegions regions
  markFrames 0 image.frames true
  markFrames (Layout.textBufferPhysical.toNat / Layout.pageBytes)
    (roundUpDiv Layout.textBufferBytes Layout.pageBytes) true
  let free ← freeFrames
  let current ← machine
  report (.framesManaged (current.source.manageableBytes / 0x100000) free)
  return free

/-- Fill the bitmap, map the text buffer of the display and back the kernel
stack. -/
def bringUp (boot : BootInfo) (regions : List MemoryRegion) (image : KernelImage) :
    Action (FrameBitmap size) (Except BringUpError Unit) := do
  let _ ← seedFrames boot regions image
  match ← setMapping Layout.textBufferVirtual Layout.textBufferPhysical
      Flags.kernelReadWrite.word with
  | .error error => return .error (.mapping error)
  | .ok () =>
    report .textBufferMapped
    match ← allocatePages Layout.stackStart (UInt32.ofNat Layout.stackBytes)
        Flags.kernelReadWrite.word with
    | .error error => return .error (.mapping error)
    | .ok () =>
      report .stackBacked
      return .ok ()

/-- Report what the firmware and the loader have told. -/
def reportBoot (boot : BootInfo) (regions : List MemoryRegion) (image : KernelImage) :
    Action source Unit := do
  report (.bootReported boot regions.length image)
  regions.forM fun region => report (.regionReported region)

/-- The frames of the boot block at an address. -/
def blockFrame (address : Address .physical) (position : Nat) : Frame :=
  Page.ofNumber ((Page.containing address : Frame).number + position)

/-- The boot block in memory; all its frames must be installed. -/
def loadBlock (address : Address .physical) : Action source BootBlock := do
  let directory ← loadTable (blockFrame address 0)
  let first ← loadTable (blockFrame address 1)
  let second ← loadTable (blockFrame address 2)
  let third ← loadTable (blockFrame address 3)
  let fourth ← loadTable (blockFrame address 4)
  let fifth ← loadTable (blockFrame address 5)
  return ⟨directory, #v[first, second, third, fourth, fifth]⟩

/-- Store a paging structure into a frame. -/
def storeTable (frame : Frame) (table : Table) : Action source Unit :=
  modifyTable frame (fun _ => table) (.replaced frame)

/-- Store the boot block into memory. -/
def storeBlock (address : Address .physical) (block : BootBlock) : Action source Unit := do
  storeTable (blockFrame address 0) block.directory
  storeTable (blockFrame address 1) block.tables[0]
  storeTable (blockFrame address 2) block.tables[1]
  storeTable (blockFrame address 3) block.tables[2]
  storeTable (blockFrame address 4) block.tables[3]
  storeTable (blockFrame address 5) block.tables[4]

/-- Build the boot tables in memory at the base of a frame.  On success the
machine's root is their directory. -/
def bootTables (address : Address .physical) (image : KernelImage) (current : Cr0) :
    Action source (Except BootError PagingSwitch) := do
  let block ← loadBlock address
  let (result, built) ← check (PagingSwitch.prepare block address image current)
  storeBlock address built
  match result with
  | .error error => return .error error
  | .ok switch =>
    setRoot switch.cr3.directoryFrame
    return .ok switch

end Action

end TwoLevelPaging
