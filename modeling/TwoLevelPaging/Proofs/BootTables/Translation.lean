import TwoLevelPaging.Proofs.AddressSpace.Translation
import TwoLevelPaging.Proofs.BootTables.Build

/-!
# The address space of the boot tables

`Memory.BootSpace` says for each of the 2^32 virtual addresses where the boot
tables of an image lead: low memory and the loader to themselves, the pages of the
image to the consecutive frames from its load address on, the last 4 MiB to the
paging structures, and all other addresses nowhere.  A block that `build` has
finished, placed in memory at the address it was built for, makes such a space
(`build_translates`), whatever the block has held before.
-/

namespace TwoLevelPaging

/-- The address space that the boot tables of an image describe. -/
structure Memory.BootSpace (memory : Memory) (root : Frame) (image : KernelImage) : Prop where
  /-- Low memory and the loader stub are mapped to themselves. -/
  low : ∀ address : Address .virtual,
    address.toNat < BootBlock.identityPages image * Layout.pageBytes →
    memory.translate? root address = some ⟨Address.ofNat address.toNat, true, false⟩
  /-- The pages of the image lie in consecutive frames. -/
  kernel : ∀ (address : Address .virtual) (index : Nat), index < image.pageCount →
    (Page.containing address : VirtualPage).number =
      (BootBlock.firstPage image).number + index →
    ∃ frame : Frame,
      frame.number = (Page.containing image.physicalStart : Frame).number + index ∧
      memory.translate? root address =
        some ⟨frame.join (Offset.ofAddress address), true, false⟩
  /-- A window page shows the paging structure that its slot links. -/
  window : ∀ (address : Address .virtual) (slot : Slot),
    Page.containing address = Layout.tableWindow slot →
    memory.translate? root address = (memory.link? root slot).map fun link =>
      ⟨link.frame.join (Offset.ofAddress address), true, false⟩
  /-- These are the slots that are linked. -/
  linked : ∀ slot : Slot,
    (memory.link? root slot).isSome = true ↔ BootBlock.LinksSlot image slot
  /-- The last slot links the directory itself. -/
  self : (memory.link? root Layout.selfMapSlot).map (fun link => link.frame) = some root
  /-- Nothing else is mapped. -/
  nothing : ∀ address : Address .virtual,
    BootBlock.identityPages image * Layout.pageBytes ≤ address.toNat →
    (∀ index, index < image.pageCount →
      (Page.containing address : VirtualPage).number ≠
        (BootBlock.firstPage image).number + index) →
    (Page.containing address : VirtualPage).directorySlot ≠ Layout.selfMapSlot →
    memory.translate? root address = none

namespace BootBlock

/-- Memory holds the block in six consecutive frames, of which the address is in the
first. -/
structure PlacedAt (block : BootBlock) (memory : Memory) (address : Address .physical) :
    Prop where
  directory : memory.table? (Action.blockFrame address 0) = some block.directory
  table : ∀ table : Fin 5,
    memory.table? (Action.blockFrame address (table.val + 1)) = some (block.table table)

variable {block : BootBlock} {memory : Memory} {address : Address .physical}
  {image : KernelImage} {virtual : Address .virtual}

theorem PlacedAt.root (hPlaced : block.PlacedAt memory address) :
    memory.table? (Page.containing address) = some block.directory := by
  have hDirectory := hPlaced.directory
  rwa [Action.blockFrame, Nat.add_zero, Page.ofNumber_number] at hDirectory

/-! ## One walk -/

/-- A walk over a table of the block ends at the entry of this table. -/
theorem PlacedAt.translate?_eq (hPlaced : block.PlacedAt memory address) (table : Fin 5)
    (hLink : block.directory.get (Page.containing virtual : VirtualPage).directorySlot =
      Entry.link (Action.blockFrame address (table.val + 1)) .kernelReadWrite) :
    memory.translate? (Page.containing address) virtual =
      let leaf := block.leafAt table (Page.containing virtual : VirtualPage).tableSlot
      if leaf.present then
        some ⟨leaf.frame.join (Offset.ofAddress virtual), leaf.writable, false⟩
      else
        none := by
  have hTable : memory.table?
      (block.directory.get (Page.containing virtual : VirtualPage).directorySlot).frame =
        some (block.table table) := by
    rw [hLink]
    exact hPlaced.table table
  rw [Memory.translate?_of_linked hPlaced.root (by rw [hLink]; rfl) hTable, hLink]
  rfl

theorem PlacedAt.translate?_eq_some (hPlaced : block.PlacedAt memory address) (table : Fin 5)
    {frame : Frame}
    (hLink : block.directory.get (Page.containing virtual : VirtualPage).directorySlot =
      Entry.link (Action.blockFrame address (table.val + 1)) .kernelReadWrite)
    (hLeaf : block.leafAt table (Page.containing virtual : VirtualPage).tableSlot =
      Entry.leaf frame Flags.kernelReadWrite.word) :
    memory.translate? (Page.containing address) virtual =
      some ⟨frame.join (Offset.ofAddress virtual), true, false⟩ := by
  rw [hPlaced.translate?_eq table hLink, hLeaf]
  rfl

theorem PlacedAt.translate?_eq_none (hPlaced : block.PlacedAt memory address) (table : Fin 5)
    (hLink : block.directory.get (Page.containing virtual : VirtualPage).directorySlot =
      Entry.link (Action.blockFrame address (table.val + 1)) .kernelReadWrite)
    (hLeaf : block.leafAt table (Page.containing virtual : VirtualPage).tableSlot =
      Entry.zero) :
    memory.translate? (Page.containing address) virtual = none := by
  rw [hPlaced.translate?_eq table hLink, hLeaf]
  rfl

/-! ## All walks -/

/-- What lies in the higher half is loaded as far above address zero as it lies above the
start of that half. -/
theorem toNat_physical {virtual : Address .virtual}
    (hHigher : Layout.higherHalf ≤ virtual.toNat) :
    (KernelImage.physical virtual).toNat = virtual.toNat - Layout.higherHalf := by
  have hBelow : UInt32.ofNat Layout.higherHalf ≤ virtual.word := by
    rw [UInt32.le_iff_toNat_le]
    exact hHigher
  rw [KernelImage.physical, Address.toNat, UInt32.toNat_sub_of_le _ _ hBelow]
  rfl

/-- An accepted image lies in the higher half and does not end before it starts. -/
theorem Accepts.extent (hAccepts : Accepts address image) :
    Layout.higherHalf ≤ image.start.toNat ∧ image.start.toNat ≤ image.stop.toNat := by
  have hValid := hAccepts.valid
  simp only [isValidKernel, Bool.and_eq_true, decide_eq_true_eq] at hValid
  exact hValid.1

theorem Accepts.toNat_physicalStart (hAccepts : Accepts address image) :
    image.physicalStart.toNat = image.start.toNat - Layout.higherHalf :=
  toNat_physical hAccepts.extent.1

theorem Accepts.toNat_physicalStop (hAccepts : Accepts address image) :
    image.physicalStop.toNat = image.stop.toNat - Layout.higherHalf :=
  toNat_physical (Nat.le_trans hAccepts.extent.1 hAccepts.extent.2)

theorem Built.translate?_low (hBuilt : Built address image block)
    (hPlaced : block.PlacedAt memory address) (hAccepts : Accepts address image)
    (hLow : virtual.toNat < identityPages image * Layout.pageBytes) :
    memory.translate? (Page.containing address) virtual =
      some ⟨Address.ofNat virtual.toNat, true, false⟩ := by
  have hPages : identityPages image ≤ 1024 := hAccepts.low
  have hNumber : virtual.toNat / 4096 < identityPages image := by
    simp only [Layout.pageBytes] at hLow
    omega
  have hDirectory : (Page.containing virtual : VirtualPage).directorySlot.val = 0 := by
    simp only [Page.directorySlot, Page.number_containing, PageSize.bytes]
    omega
  have hTable : (Page.containing virtual : VirtualPage).tableSlot.val =
      virtual.toNat / 4096 := by
    simp only [Page.tableSlot, Page.number_containing, PageSize.bytes]
    omega
  have hLeaf := hBuilt.leafLow (Page.containing virtual : VirtualPage).tableSlot
    (by rw [hTable]; exact hNumber)
  rw [hPlaced.translate?_eq_some 0 (hBuilt.linkLow _ hDirectory) hLeaf]
  congr 2
  apply Address.toNat_injective
  have hBound := virtual.toNat_lt
  rw [Page.toNat_join, Page.number_ofNumber, hTable, Address.toNat_ofNat]
  simp only [Offset.ofAddress, PageSize.bytes, PageSize.count]
  omega

theorem Built.translate?_kernel (hBuilt : Built address image block)
    (hPlaced : block.PlacedAt memory address) (hAccepts : Accepts address image) {index : Nat}
    (hIndex : index < image.pageCount)
    (hPage : (Page.containing virtual : VirtualPage).number =
      (firstPage image).number + index) :
    ∃ frame : Frame,
      frame.number = (Page.containing image.physicalStart : Frame).number + index ∧
      memory.translate? (Page.containing address) virtual =
        some ⟨frame.join (Offset.ofAddress virtual), true, false⟩ := by
  have hRoom := hAccepts.room
  have hStart := image.start.toNat_lt
  refine ⟨Page.ofNumber ((Page.containing image.physicalStart : Frame).number + index), ?_, ?_⟩
  · rw [Page.number_ofNumber, Page.number_containing, hAccepts.toNat_physicalStart]
    simp only [PageSize.bytes, PageSize.count, Layout.higherHalf]
    omega
  · -- The page is as far into the kernel tables as into the slots that link them.
    have hTable : ((firstPage image).tableSlot.val + index) / 1024 < 3 := by
      omega
    refine hPlaced.translate?_eq_some
      ⟨((firstPage image).tableSlot.val + index) / 1024 + 1, by omega⟩ ?_ ?_
    · refine hBuilt.linkKernel _ (((firstPage image).tableSlot.val + index) / 1024) hTable ?_
      simp only [Page.directorySlot, Page.tableSlot, hPage]
      omega
    · refine hBuilt.leafKernel _ _ index hIndex ?_
      simp only [Page.tableSlot, hPage]
      omega

/-- A directory entry of the block grants stores, to the kernel alone, or is zero. -/
theorem Built.get_cases (hBuilt : Built address image block) (slot : Slot) :
    (LinksSlot image slot ∧ (block.directory.get slot).present = true ∧
      (block.directory.get slot).writable = true ∧ (block.directory.get slot).user = false) ∨
    (¬ LinksSlot image slot ∧ block.directory.get slot = Entry.zero) := by
  by_cases hLinks : LinksSlot image slot
  · refine Or.inl ⟨hLinks, ?_⟩
    rcases hLinks with hZero | ⟨index, hIndex, hSlot⟩ | rfl | rfl
    · rw [hBuilt.linkLow slot hZero]
      exact ⟨rfl, rfl, rfl⟩
    · rw [hBuilt.linkKernel slot index hIndex hSlot]
      exact ⟨rfl, rfl, rfl⟩
    · rw [hBuilt.linkScratch]
      exact ⟨rfl, rfl, rfl⟩
    · rw [hBuilt.linkSelf]
      exact ⟨rfl, rfl, rfl⟩
  · exact Or.inr ⟨hLinks, hBuilt.unlinked slot hLinks⟩

theorem Built.linked_iff (hBuilt : Built address image block)
    (hPlaced : block.PlacedAt memory address) (slot : Slot) :
    (memory.link? (Page.containing address) slot).isSome = true ↔ LinksSlot image slot := by
  rw [Memory.link?_eq hPlaced.root]
  rcases hBuilt.get_cases slot with ⟨hLinks, hPresent, -, -⟩ | ⟨hLinks, hZero⟩
  · simp [hLinks, hPresent]
  · rw [hZero]
    simp only [hLinks, iff_false]
    decide

theorem Built.translate?_window (hBuilt : Built address image block)
    (hPlaced : block.PlacedAt memory address) (slot : Slot)
    (hPage : Page.containing virtual = Layout.tableWindow slot) :
    memory.translate? (Page.containing address) virtual =
      (memory.link? (Page.containing address) slot).map fun link =>
        ⟨link.frame.join (Offset.ofAddress virtual), true, false⟩ := by
  have hDirectory : (Page.containing virtual : VirtualPage).directorySlot =
      Layout.selfMapSlot := by
    rw [hPage, Layout.tableWindow, Page.directorySlot_ofSlots]
  have hTable : (Page.containing virtual : VirtualPage).tableSlot = slot := by
    rw [hPage, Layout.tableWindow, Page.tableSlot_ofSlots]
  -- The walk passes the directory twice: its last slot names the directory itself.
  have hSelf := hBuilt.linkSelf
  rw [← hDirectory] at hSelf
  have hAgain : memory.table?
      (block.directory.get (Page.containing virtual : VirtualPage).directorySlot).frame =
        some block.directory := by
    rw [hSelf]
    exact hPlaced.root
  rw [Memory.translate?_of_linked hPlaced.root (by rw [hSelf]; rfl) hAgain, hSelf, hTable,
    Memory.link?_eq hPlaced.root]
  rcases hBuilt.get_cases slot with ⟨-, hPresent, hWritable, hUser⟩ | ⟨-, hZero⟩
  · simp only [hPresent, if_true, Option.map_some, hWritable, hUser, Bool.and_false]
    rfl
  · rw [hZero]
    rfl

theorem Built.translate?_nothing (hBuilt : Built address image block)
    (hPlaced : block.PlacedAt memory address) (hAccepts : Accepts address image)
    (hPast : identityPages image * Layout.pageBytes ≤ virtual.toNat)
    (hOutside : ∀ index, index < image.pageCount →
      (Page.containing virtual : VirtualPage).number ≠ (firstPage image).number + index)
    (hSelf : (Page.containing virtual : VirtualPage).directorySlot ≠ Layout.selfMapSlot) :
    memory.translate? (Page.containing address) virtual = none := by
  have hRoom := hAccepts.room
  have hPages : identityPages image ≤ 1024 := hAccepts.low
  have hNumber : identityPages image ≤ (Page.containing virtual : VirtualPage).number := by
    simp only [Layout.pageBytes] at hPast
    simp only [Page.number_containing, PageSize.bytes]
    omega
  rcases Classical.em (LinksSlot image (Page.containing virtual : VirtualPage).directorySlot) with
    (hFirst | ⟨index, hIndex, hSlot⟩ | hScratch | hLast) | hUnlinked
  · refine hPlaced.translate?_eq_none 0 (hBuilt.linkLow _ hFirst) (hBuilt.empty 0 _ ?_ ?_)
    · simp only [Page.directorySlot] at hFirst
      simp only [Page.tableSlot, Fin.val_zero]
      omega
    · intro other hOther
      have hBound := (Page.containing virtual : VirtualPage).tableSlot.isLt
      simp only [Fin.val_zero]
      omega
  · have hTable : index < 3 := hIndex
    refine hPlaced.translate?_eq_none ⟨index + 1, by omega⟩
      (hBuilt.linkKernel _ index hIndex hSlot) (hBuilt.empty _ _ ?_ ?_)
    · show identityPages image ≤ (index + 1) * 1024 + _
      omega
    · intro other hOther hSame
      -- The position is that of a page of the image, which the address is not in.
      apply hOutside other hOther
      simp only [Page.directorySlot] at hSlot
      simp only [Page.tableSlot] at hSame
      omega
  · refine hPlaced.translate?_eq_none 4 (by rw [hScratch]; exact hBuilt.linkScratch)
      (hBuilt.empty 4 _ ?_ ?_)
    -- The kernel tables end where the scratch table starts.
    · show identityPages image ≤ 4 * 1024 + _
      omega
    · intro other hOther
      show 4 * 1024 + _ ≠ _
      omega
  · exact absurd hLast hSelf
  · apply Memory.translate?_of_unlinked hPlaced.root
    rw [hBuilt.unlinked _ hUnlinked]
    rfl

/-- A finished block describes the address space of the boot tables. -/
theorem Built.bootSpace (hBuilt : Built address image block)
    (hPlaced : block.PlacedAt memory address) (hAccepts : Accepts address image) :
    memory.BootSpace (Page.containing address) image where
  low _ hLow := hBuilt.translate?_low hPlaced hAccepts hLow
  kernel _ _ hIndex hPage := hBuilt.translate?_kernel hPlaced hAccepts hIndex hPage
  window _ slot hPage := hBuilt.translate?_window hPlaced slot hPage
  linked slot := hBuilt.linked_iff hPlaced slot
  self := by
    rw [Memory.link?_eq hPlaced.root, hBuilt.linkSelf]
    rfl
  nothing _ hPast hOutside hSelf :=
    hBuilt.translate?_nothing hPlaced hAccepts hPast hOutside hSelf

/-- The boot tables translate exactly what they should, and are the same whatever the
block has held before. -/
theorem build_translates {built : BootBlock} {directory : Frame} (hFits : Fits address)
    (hBuild : block.build address image = .ok (.ok directory, built))
    (hPlaced : built.PlacedAt memory address) :
    memory.BootSpace directory image ∧
      ∀ other : BootBlock, other.build address image = .ok (.ok directory, built) := by
  have hAccepts := accepts_of_build_eq hFits hBuild
  obtain ⟨final, hAlways, hBuilt⟩ := exists_build_eq hFits hAccepts
  have hSame := hAlways block
  rw [hBuild] at hSame
  obtain ⟨rfl, rfl⟩ : directory = Page.containing address ∧ built = final := by
    simpa using hSame
  exact ⟨hBuilt.bootSpace hPlaced hAccepts, hAlways⟩

/-- Memory of seven frames with the block in all but the first of them. -/
def inMemory (block : BootBlock) : Memory :=
  ⟨#[Table.zero, block.directory] ++ block.tables.toArray⟩

theorem placedAt_inMemory (block : BootBlock) (hFits : Fits (Address.ofNat 0x1000)) :
    block.PlacedAt block.inMemory (Address.ofNat 0x1000) := by
  constructor
  · have hFrame : (Action.blockFrame (Address.ofNat 0x1000) 0).number = 1 := by
      rw [hFits.number_blockFrame (by decide), Address.toNat_ofNat]
    rw [Memory.table?, hFrame, inMemory]
    simp
  · intro table
    have hTable := table.isLt
    have hFrame : (Action.blockFrame (Address.ofNat 0x1000) (table.val + 1)).number =
        table.val + 2 := by
      rw [hFits.number_blockFrame (by omega), Address.toNat_ofNat]
      omega
    rw [Memory.table?, hFrame, inMemory]
    simp [Array.getElem?_append, BootBlock.table]

/-- An image of five pages that reaches from one table into the next. -/
def sampleImage : KernelImage :=
  ⟨Address.ofNat 0xC03FE000, Address.ofNat 0xC0402F00, Address.ofNat 0x00103000⟩

theorem accepts_sampleImage : Accepts (Address.ofNat 0x1000) sampleImage :=
  ⟨by decide, by decide, by decide, by decide⟩

theorem build_sampleImage_translates :
    Fits (Address.ofNat 0x1000) ∧ ∃ built : BootBlock,
      zero.build (Address.ofNat 0x1000) sampleImage =
        .ok (.ok (Page.containing (Address.ofNat 0x1000)), built) ∧
      built.PlacedAt built.inMemory (Address.ofNat 0x1000) ∧
      built.inMemory.BootSpace (Page.containing (Address.ofNat 0x1000)) sampleImage := by
  have hFits : Fits (Address.ofNat 0x1000) := by
    show _ ≤ _
    decide
  obtain ⟨built, hBuild, -⟩ := exists_build_eq hFits accepts_sampleImage
  have hPlaced := built.placedAt_inMemory hFits
  exact ⟨hFits, built, hBuild zero, hPlaced, (build_translates hFits (hBuild zero) hPlaced).1⟩

end BootBlock
end TwoLevelPaging
