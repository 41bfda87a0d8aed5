import TwoLevelPaging.Console
import TwoLevelPaging.Firmware
import TwoLevelPaging.FrameBitmap.Basic
import TwoLevelPaging.MapError

/-!
# Events

What the memory manager reports while it works, as data.  `Event.level`,
`Event.target` and `Event.message` fix how an event reads in a log; deciding
which events are shown is left to the reader of the journal.
-/

namespace TwoLevelPaging

/-- The requests to the memory manager that refuse reserved pages. -/
inductive Request where
  | map
  | mapForced
  | setMapping
  | unmap
  | unmapDevice
  | allocatePages
  deriving DecidableEq

namespace Request

/-- The name of the request as it is reported. -/
def name : Request → String
  | map => "map_page"
  | mapForced => "fmap_page"
  | setMapping => "set_mapping"
  | unmap => "unmap_page"
  | unmapDevice => "unmap_device_page"
  | allocatePages => "alloc_pages"

end Request

/-- Something worth a line in the log. -/
inductive Event where
  /-- Memory goes on beyond the bitmap, which manages so many frames. -/
  | limitClamped (bytes frames : Nat)
  | frameAllocated (frame : Nat)
  | frameFreed (frame : Nat)
  | releaseRejected (frame : Frame) (error : FrameError)
  | tableLinked (frame : Frame) (slot : Slot)
  | requestRefused (request : Request) (address : Address .virtual)
  | directoryPrepared (frame : Frame)
  | pageMapped (page : VirtualPage) (frame : Frame)
  | frameDisplaced (page : VirtualPage) (frame : Frame)
  | backingFailed (pages : Nat) (address : Address .virtual) (position : Nat) (error : MapError)
  | memoryUsable (region : MemoryRegion) (count : Nat)
  | framesManaged (mebibytes free : Nat)
  | textBufferMapped
  | stackBacked
  | reservedPageSkipped (address : Nat) (error : MapError)
  | reservedPagesMapped (count : Nat)
  | reservedPagesUnmapped (count : Nat)
  | loaderPagesDropped (count : Nat)
  | bootReported (boot : BootInfo) (regions : Nat) (image : KernelImage)
  | regionReported (region : MemoryRegion)
  deriving DecidableEq

namespace Event

/-- How urgent the event is. -/
def level : Event → Level
  | limitClamped .. | releaseRejected .. | requestRefused .. | reservedPageSkipped .. => .warn
  | framesManaged .. | textBufferMapped | stackBacked | reservedPagesMapped _
  | loaderPagesDropped _ | bootReported .. | regionReported _ => .info
  | directoryPrepared _ | backingFailed .. | memoryUsable .. | reservedPagesUnmapped _ => .debug
  | frameAllocated _ | frameFreed _ | tableLinked .. | pageMapped .. | frameDisplaced .. => .trace

/-- The part of the program that reports the event. -/
def target : Event → String
  | limitClamped .. | frameAllocated _ | frameFreed _ | releaseRejected .. =>
      "kernel_alloc::frame_alloc"
  | tableLinked .. => "kernel_vmem::address_space"
  | requestRefused .. | directoryPrepared _ | pageMapped .. | frameDisplaced ..
  | backingFailed .. => "kernel_alloc::vmm"
  | memoryUsable .. | framesManaged .. | textBufferMapped | stackBacked => "kernel::init"
  | reservedPageSkipped .. | reservedPagesMapped _ | reservedPagesUnmapped _
  | loaderPagesDropped _ => "kernel::memory"
  | bootReported .. | regionReported _ => "kernel::tracing"

/-- The event in words. -/
def message : Event → String
  | limitClamped bytes frames =>
      "Physical memory limit " ++ Text.hexLower 0 bytes ++
        " exceeds the frame bitmap; managing " ++ Text.decimal frames ++ " frames"
  | frameAllocated frame => "Allocated frame " ++ Text.hexLower 0 frame
  | frameFreed frame => "Freed frame " ++ Text.hexLower 0 frame
  | releaseRejected frame error => "Rejected release of " ++ frame.debug ++ ": " ++ error.message
  | tableLinked frame slot =>
      "Linked page table " ++ frame.debug ++ " at directory slot " ++ Text.decimal slot.val
  | requestRefused request address =>
      request.name ++ ": " ++ address.debug ++
        " is reserved for the memory manager, request ignored"
  | directoryPrepared frame => "Prepared page directory at " ++ frame.debug
  | pageMapped page frame => "Mapped " ++ page.debug ++ " -> " ++ frame.debug
  | frameDisplaced page frame => "Remapping " ++ page.debug ++ " released " ++ frame.debug
  | backingFailed pages address position error =>
      "Backing " ++ Text.decimal pages ++ " pages at " ++ address.debug ++ " failed at page " ++
        Text.decimal position ++ ": " ++ error.message
  | memoryUsable region count =>
      "Usable memory " ++ Text.hexLower 0 region.base.toNat ++ ".." ++
        Text.hexLower 0 region.stop ++ ": " ++ Text.decimal count ++ " frames"
  | framesManaged mebibytes free =>
      "Frame allocator manages " ++ Text.decimal mebibytes ++ " MiB, " ++ Text.decimal free ++
        " frames free"
  | textBufferMapped =>
      "VGA text buffer mapped at " ++ Text.hexLower 10 Layout.textBufferVirtual.toNat
  | stackBacked =>
      "Kernel stack backed at " ++ Text.hexLower 10 Layout.stackStart.toNat ++ ".." ++
        Text.hexLower 10 Layout.stackTop
  | reservedPageSkipped address error =>
      "Reserved page " ++ Text.hexLower 10 address ++ " not identity mapped: " ++ error.message
  | reservedPagesMapped count => "Identity mapped " ++ Text.decimal count ++ " reserved pages"
  | reservedPagesUnmapped count =>
      "Removed " ++ Text.decimal count ++ " reserved identity pages"
  | loaderPagesDropped count => "Dropped " ++ Text.decimal count ++ " loader identity pages"
  | bootReported boot regions image =>
      "Boot Info in Kernel:\n" ++
        "  Memory   = lower " ++ Text.decimal boot.lowerKib.toNat ++ " KiB, upper " ++
          Text.decimal boot.upperKib.toNat ++ " KiB\n" ++
        "  MMAP ptr = " ++ Text.hexLower 10 boot.mapAddress.toNat ++ ", len = " ++
          Text.decimal boot.mapBytes.toNat ++ ", regions = " ++ Text.decimal regions ++ "\n" ++
        "  Kernel   = " ++ image.start.display ++ ".." ++ image.stop.display ++
          ", loader ends at " ++ image.loaderEnd.display
  | regionReported region =>
      "  " ++ Text.hexLower 12 region.base.toNat ++ ".." ++ Text.hexLower 12 region.stop ++ " " ++
        region.kindName

/-- The event as a record of the log. -/
def record (event : Event) : LogRecord :=
  ⟨event.level, event.target, event.message⟩

end Event

end TwoLevelPaging
