import TwoLevelPaging.Slot

/-!
# Memory layout

The fixed places of the 32-bit address space:

```text
0x00000000   first MiB and loader stub, mapped to themselves while booting
0xB0000000   text buffer of the display
0xC0000000   kernel image, at most three tables
0xFFBEE000   scratch page, through which frames outside every table are edited
0xFFBEF000   stack guard page, never mapped
0xFFBF0000   kernel stack, 64 KiB
0xFFC00000   the page tables, one window page for each directory slot
0xFFFFF000   the page directory
```

The last 4 MiB are the self-map: the last directory slot names the directory
itself, so the page walk to these addresses ends in a paging structure.
-/

namespace TwoLevelPaging
namespace Layout

/-- The bytes of a page and of a frame. -/
def pageBytes : Nat := 4096

/-- The entries of a paging structure. -/
def entriesPerTable : Nat := 1024

/-- Where the kernel's half of the address space starts. -/
def higherHalf : Nat := 0xC0000000

/-- The physical address at which the kernel image is loaded. -/
def loadAddress : Nat := 0x00100000

/-- The size of low memory that is mapped to itself while booting. -/
def lowMemoryBytes : Nat := 0x00100000

/-- Where the memory that firmware counts as upper starts. -/
def upperMemoryBase : Nat := 0x00100000

/-- The number of page tables set aside for the kernel image. -/
def kernelTables : Nat := 3

/-- The directory slot that names the directory. -/
def selfMapSlot : Slot := 1023

/-- The directory slot of the table that holds the stack and the scratch page. -/
def scratchSlot : Slot := 1022

/-- The page at which the table linked at a directory slot is seen. -/
def tableWindow (slot : Slot) : VirtualPage :=
  Page.ofSlots selfMapSlot slot

/-- The page at which the directory is seen. -/
def directoryWindow : VirtualPage :=
  tableWindow selfMapSlot

/-- The size of the kernel stack. -/
def stackBytes : Nat := 65536

/-- The highest address of the kernel stack, right below the self-map. -/
def stackTop : Nat := (tableWindow 0).base.toNat - 1

/-- The lowest address of the kernel stack. -/
def stackStart : Address .virtual :=
  Address.ofNat (stackTop - stackBytes + 1)

/-- The page below the stack, kept unmapped to catch an overrun. -/
def stackGuardPage : VirtualPage :=
  Page.ofNumber ((Page.containing stackStart : VirtualPage).number - 1)

/-- The page through which a frame outside every table is edited. -/
def scratchPage : VirtualPage :=
  Page.ofNumber (stackGuardPage.number - 1)

/-- The virtual address of the display's text buffer. -/
def textBufferVirtual : Address .virtual :=
  Address.ofNat 0xB0000000

/-- The physical address of the display's text buffer. -/
def textBufferPhysical : Address .physical :=
  Address.ofNat 0x000B8000

/-- The size of the display's text buffer. -/
def textBufferBytes : Nat := 4096

/-- Whether the page belongs to the self-map. -/
def isSelfMap (page : VirtualPage) : Bool :=
  page.directorySlot == selfMapSlot

/-- Whether the page belongs to the memory manager: the self-map, the scratch
page and the stack guard page. -/
def isReserved (page : VirtualPage) : Bool :=
  isSelfMap page || page == scratchPage || page == stackGuardPage

/-- The physical address of an address in the kernel's half; below that half
the subtraction is a fault. -/
def kernelPhysical (address : Address .virtual) : Except Fault (Address .physical) :=
  (Checked.difference address.toNat higherHalf).map Address.ofNat

/-- The scratch page and the stack guard page share the table of the stack. -/
theorem directorySlot_scratchPage :
    scratchPage.directorySlot = scratchSlot ∧ stackGuardPage.directorySlot = scratchSlot ∧
      (Page.containing stackStart : VirtualPage).directorySlot = scratchSlot := by
  decide

end Layout
end TwoLevelPaging
