import TwoLevelPaging.Firmware
import TwoLevelPaging.Register
import TwoLevelPaging.Table
import TwoLevelPaging.Text.Explained

/-!
# The first page tables

Before paging is on, the first address space is built in a block of six
consecutive frames: a directory and five tables.

| directory slot        | table | content                                           |
|-----------------------|-------|---------------------------------------------------|
| 0                     | 0     | the first MiB and the loader stub, mapped to themselves |
| of the kernel, and +2 | 1–3   | the kernel image, in the higher half              |
| of the scratch page   | 4     | empty                                             |
| the last              |       | the directory itself                              |

`BootBlock.build` checks the image on the way.  It wipes the block first and
writes no kernel entry before all checks have passed.
-/

namespace TwoLevelPaging

/-- A directory and five tables in consecutive frames. -/
structure BootBlock where
  directory : Table
  tables : Vector Table 5
  deriving DecidableEq

/-- Why no boot tables can be built for an image. -/
inductive BootError where
  | loaderTooLarge (stop : Address .physical)
  | kernelTooLarge (needed : Nat)
  | invalidKernel (start stop : Address .virtual)
  deriving DecidableEq

namespace BootError

/-- The kind of the error by name. -/
def name : BootError → String
  | loaderTooLarge _ => "LoaderTooLarge"
  | kernelTooLarge _ => "KernelImageTooLarge"
  | invalidKernel .. => "InvalidKernelImage"

/-- The error in a sentence. -/
def message : BootError → String
  | loaderTooLarge stop =>
      "loader stub ends at " ++ stop.display ++ ", past the identity table"
  | kernelTooLarge needed =>
      "kernel image needs " ++ Text.decimal needed ++
        " page tables, more than are reserved for it"
  | invalidKernel start stop =>
      "kernel image [" ++ start.display ++ ", " ++ stop.display ++
        ") is not a valid higher-half range"

/-- The kind of the error with its fields. -/
def debug (error : BootError) : String :=
  match error with
  | loaderTooLarge stop => Text.wrapped error.name stop.debug
  | kernelTooLarge needed => Text.record error.name [("needed", Text.decimal needed)]
  | invalidKernel start stop =>
      Text.record error.name [("start", start.debug), ("end", stop.debug)]

instance : Explained BootError where
  name := name
  debug := debug
  message := message

end BootError

namespace BootBlock

/-- The table of low memory and the loader stub. -/
def identityTable : Nat := 0

/-- The first table of the kernel image. -/
def firstKernelTable : Nat := 1

/-- The table of the scratch page. -/
def scratchTable : Nat := firstKernelTable + Layout.kernelTables

/-- The number of tables. -/
def tableCount : Nat := scratchTable + 1

/-- The size of the block in bytes. -/
def bytes : Nat := (tableCount + 1) * Layout.pageBytes

/-- The block without any entry. -/
def zero : BootBlock :=
  ⟨Table.zero, Vector.replicate 5 Table.zero⟩

/-- The block with all entries cleared. -/
def wipe (block : BootBlock) : BootBlock :=
  ⟨Table.zero, block.tables.map fun _ => Table.zero⟩

/-- The frame of a table of the block at this address. -/
def tableFrame (block : Address .physical) (table : Nat) : Except Fault Frame := do
  let distance := (Layout.pageBytes + table * Layout.pageBytes) % 0x100000000
  let address ← Checked.word (block.toNat + distance)
  return Page.containing (Address.ofNat address)

/-- Store a directory entry. -/
def setLink : BootBlock → Nat → Entry → Except Fault BootBlock
  | ⟨directory, tables⟩, number, entry => do
    let slot ← Slot.ofNat number
    return ⟨directory.set slot entry, tables⟩

/-- Store an entry of a table. -/
def setLeaf : BootBlock → Nat → Nat → Entry → Except Fault BootBlock
  | ⟨directory, tables⟩, table, number, entry => do
    let slot ← Slot.ofNat number
    if hInside : table < 5 then
      return ⟨directory, tables.set table (tables[table].set slot entry)⟩
    else
      .error .outOfBounds

/-- Link a table of the block to a directory slot. -/
def linkTable (address : Address .physical) (block : BootBlock) (number table : Nat) :
    Except Fault BootBlock := do
  let frame ← tableFrame address table
  block.setLink number (Entry.link frame .kernelReadWrite)

/-- Map one page of low memory or of the loader stub to itself. -/
def mapIdentity (block : BootBlock) (page : Nat) : Except Fault BootBlock :=
  block.setLeaf identityTable page (Entry.leaf (Page.ofNumber page) Flags.kernelReadWrite.word)

/-- Map one page of the kernel image, whose first page has entry `firstEntry` of
the first kernel table and lies in frame `firstFrame`. -/
def mapKernel (firstEntry firstFrame : Nat) (block : BootBlock) (page : Nat) :
    Except Fault BootBlock :=
  let entry := firstEntry + page
  block.setLeaf (firstKernelTable + entry / Layout.entriesPerTable)
    (entry % Layout.entriesPerTable)
    (Entry.leaf (Page.ofNumber (firstFrame + page)) Flags.kernelReadWrite.word)

/-- The number of pages that are mapped to themselves. -/
def identityPages (image : KernelImage) : Nat :=
  roundUpDiv (max image.loaderEnd.toNat Layout.lowMemoryBytes) Layout.pageBytes

/-- The first page of the image. -/
def firstPage (image : KernelImage) : VirtualPage :=
  Page.containing image.start

/-- The number of tables that the image needs from its first slot on. -/
def neededTables (image : KernelImage) : Nat :=
  roundUpDiv ((firstPage image).tableSlot.val + image.pageCount) Layout.entriesPerTable

/-- Whether the image lies in the higher half, does not end before it starts,
and leaves its tables below the slot of the scratch page. -/
def isValidKernel (image : KernelImage) : Bool :=
  decide (Layout.higherHalf ≤ image.start.toNat) && decide (image.start.toNat ≤ image.stop.toNat) &&
    decide ((firstPage image).directorySlot.val + Layout.kernelTables ≤ Layout.scratchSlot.val)

/-- Map low memory and the loader stub to themselves. -/
def buildIdentity (block : BootBlock) (address : Address .physical) (image : KernelImage) :
    Except Fault BootBlock := do
  let mapped ← (List.range (identityPages image)).foldlM mapIdentity block
  linkTable address mapped 0 identityTable

/-- Link the kernel tables, map the image, and link the scratch table and the
directory itself. -/
def buildKernel (block : BootBlock) (address : Address .physical) (image : KernelImage) :
    Except Fault BootBlock := do
  let firstSlot := (firstPage image).directorySlot.val
  let firstEntry := (firstPage image).tableSlot.val
  let firstFrame := (Page.containing image.physicalStart : Frame).number
  let linked ← (List.range Layout.kernelTables).foldlM
    (fun block table => linkTable address block (firstSlot + table) (firstKernelTable + table))
    block
  let mapped ← (List.range image.pageCount).foldlM (mapKernel firstEntry firstFrame) linked
  let scratch ← linkTable address mapped Layout.scratchSlot.val scratchTable
  scratch.setLink Layout.selfMapSlot.val (Entry.link (Page.containing address) .selfMap)

/-- Build the boot tables in a block at the base of a frame.  The answer is the
frame of the directory, or why there is none, and the block as it is left. -/
def build (block : BootBlock) (address : Address .physical) (image : KernelImage) :
    Except Fault (Except BootError Frame × BootBlock) := do
  Checked.require (address.isAligned .small) .violated
  let block := block.wipe
  if Layout.entriesPerTable < identityPages image then
    return (.error (.loaderTooLarge image.loaderEnd), block)
  else
    let block ← buildIdentity block address image
    if !isValidKernel image then
      return (.error (.invalidKernel image.start image.stop), block)
    else if Layout.kernelTables < neededTables image then
      return (.error (.kernelTooLarge (neededTables image)), block)
    else
      let block ← buildKernel block address image
      return (.ok (Page.containing address), block)

end BootBlock

/-- The register contents that turn paging on with the boot tables. -/
structure PagingSwitch where
  cr3 : Cr3
  cr0 : Cr0
  deriving DecidableEq

namespace PagingSwitch

/-- The registers with their fields by name. -/
def debug (switch : PagingSwitch) : String :=
  Text.record "PagingSwitch" [("cr3", switch.cr3.debug), ("cr0", switch.cr0.debug)]

/-- Build the boot tables and prepare the registers for them.  The other
switches of the current register are kept. -/
def prepare (block : BootBlock) (address : Address .physical) (image : KernelImage)
    (current : Cr0) : Except Fault (Except BootError PagingSwitch × BootBlock) := do
  match ← block.build address image with
  | (.error error, block) => return (.error error, block)
  | (.ok directory, block) =>
    let cr3 ← Cr3.ofDirectory directory.base false false
    return (.ok ⟨cr3, current.set .paging true⟩, block)

end PagingSwitch

end TwoLevelPaging
