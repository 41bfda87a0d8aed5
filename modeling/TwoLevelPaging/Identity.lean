import TwoLevelPaging.Mapping

/-!
# Identity mappings

Memory that the firmware keeps can be mapped to itself, read-only, and unmapped
again; and the mapping of the loader stub to itself is dropped once the kernel
runs in the higher half.
-/

namespace TwoLevelPaging

namespace MemoryRegion

/-- The number of frames below 4 GiB. -/
def frameLimit : Nat := 0x100000

/-- The frames below 4 GiB that a region covers, in order.  The end of the range
stays in a 64-bit register. -/
def lowFrames (region : MemoryRegion) : Except Fault (List Nat) := do
  let range ← region.coveringFrames
  let first := min range.first frameLimit
  let stop := min (min (range.first + range.count) 0xFFFFFFFFFFFFFFFF) frameLimit
  return List.range' first (stop - first)

/-- The frames below 4 GiB that the regions kept by the firmware cover, region
by region. -/
def reservedFrames : List MemoryRegion → Except Fault (List Nat)
  | [] => return []
  | region :: rest => do
    let frames ← if region.isAvailable then pure [] else region.lowFrames
    let others ← reservedFrames rest
    return frames ++ others

end MemoryRegion

namespace Action

variable {source : Type} [FrameSource source]

/-- Map each frame to itself unless its page is reserved or maps another frame.
The answer counts the mapped frames, `mapped` of them so far. -/
def lockFrames (mapped : Nat) : List Nat → Action source (Except MapError Nat)
  | [] => return .ok mapped
  | frame :: rest => do
    let address := frame * Layout.pageBytes
    match ← setMapping (Address.ofNat address) (Address.ofNat address)
      Flags.kernelReadOnly.word with
    | .ok () =>
      let mapped ← check (Checked.word (mapped + 1))
      lockFrames mapped rest
    | .error .protectedRegion =>
      report (.reservedPageSkipped address .protectedRegion)
      lockFrames mapped rest
    | .error .conflict =>
      report (.reservedPageSkipped address .conflict)
      lockFrames mapped rest
    | .error error => return .error error

/-- Map the memory that the firmware keeps to itself, read-only.  The answer is
the number of its frames that are mapped so. -/
def lockReserved (regions : List MemoryRegion) : Action source (Except MapError Nat) := do
  let frames ← check (MemoryRegion.reservedFrames regions)
  match ← lockFrames 0 frames with
  | .error error => return .error error
  | .ok mapped =>
    report (.reservedPagesMapped mapped)
    return .ok mapped

/-- Whether the page of this number is present and maps the frame of the same
number. -/
def mapsItself (number : Nat) : Action source Bool := do
  let mapping ← lookup (Address.ofNat (number * Layout.pageBytes))
  return mapping.isPresent && mapping.frame.number == number

/-- Unmap each frame that is mapped to itself.  The answer counts them,
`unmapped` of them so far. -/
def unlockFrames (unmapped : Nat) : List Nat → Action source (Except MapError Nat)
  | [] => return .ok unmapped
  | frame :: rest => do
    if ← mapsItself frame then
      match ← unmapDevice (Address.ofNat (frame * Layout.pageBytes)) with
      | .error error => return .error error
      | .ok () =>
        let unmapped ← check (Checked.word (unmapped + 1))
        unlockFrames unmapped rest
    else
      unlockFrames unmapped rest

/-- Unmap the memory that the firmware keeps where it is mapped to itself. -/
def unlockReserved (regions : List MemoryRegion) : Action source (Except MapError Nat) := do
  let frames ← check (MemoryRegion.reservedFrames regions)
  match ← unlockFrames 0 frames with
  | .error error => return .error error
  | .ok unmapped =>
    report (.reservedPagesUnmapped unmapped)
    return .ok unmapped

/-- Unmap each of these pages that is present, whatever it maps.  The answer
counts them, `released` of them so far. -/
def dropPages (released : Nat) : List Nat → Action source (Except MapError Nat)
  | [] => return .ok released
  | page :: rest => do
    let address := Address.ofNat (page * Layout.pageBytes)
    let mapping ← lookup address
    if mapping.isPresent then
      match ← unmapDevice address with
      | .error error => return .error error
      | .ok () =>
        let released ← check (Checked.word (released + 1))
        dropPages released rest
    else
      dropPages released rest

/-- Unmap the pages from the end of low memory to the end of the loader stub,
rounded up to a page. -/
def dropLoader (image : KernelImage) : Action source (Except MapError Nat) := do
  let stop ← check (Checked.word
    (roundUpDiv image.loaderEnd.toNat Layout.pageBytes * Layout.pageBytes))
  let first := Layout.lowMemoryBytes / Layout.pageBytes
  match ← dropPages 0 (List.range' first (stop / Layout.pageBytes - first)) with
  | .error error => return .error error
  | .ok released =>
    report (.loaderPagesDropped released)
    return .ok released

end Action

end TwoLevelPaging
