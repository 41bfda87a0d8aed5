import TwoLevelPaging.Proofs.AddressSpace.WellFormed
import TwoLevelPaging.Proofs.BootTables.Translation

/-!
# The machine that has just turned paging on

A machine `Boots` if its root is the directory of boot tables that lie in its memory.  Each
of the six frames of the block has one place in the directory (`LinksFrame`), so such a
machine is well-formed as soon as the bitmap leaves these frames alone
(`Boots.wellFormed`).
-/

namespace TwoLevelPaging

namespace BootBlock

variable {address : Address .physical} {image : KernelImage} {block : BootBlock}

/-- The slot links the frame that is at this position of the block: the directory, the table
of low memory, one of the kernel tables or the scratch table. -/
def LinksFrame (image : KernelImage) (slot : Slot) (position : Nat) : Prop :=
  (slot.val = 1023 ∧ position = 0) ∨ (slot.val = 0 ∧ position = 1) ∨
    (slot.val + 2 = (firstPage image).directorySlot.val + position ∧ 2 ≤ position ∧
      position < 5) ∨
    (slot.val = 1022 ∧ position = 5)

theorem LinksFrame.position_lt {slot : Slot} {position : Nat}
    (hLinks : LinksFrame image slot position) : position < 6 := by
  unfold LinksFrame at hLinks
  omega

/-- No frame of the block is linked twice. -/
theorem LinksFrame.unique {first second : Slot} {position : Nat}
    (hFirst : LinksFrame image first position) (hSecond : LinksFrame image second position) :
    first = second := by
  unfold LinksFrame at hFirst hSecond
  apply Fin.ext
  omega

/-- A directory entry of the block links a frame of the block. -/
theorem Built.exists_linksFrame (hBuilt : Built address image block) {slot : Slot}
    {table : Frame} (hLink : (block.directory.get slot).presentFrame? = some table) :
    ∃ position, LinksFrame image slot position ∧ table = Action.blockFrame address position := by
  rcases Classical.em (LinksSlot image slot) with
    (hZero | ⟨index, hIndex, hSlot⟩ | rfl | rfl) | hUnlinked
  · rw [hBuilt.linkLow slot hZero, Entry.presentFrame?_link] at hLink
    exact ⟨1, .inr (.inl ⟨hZero, rfl⟩), (Option.some.inj hLink).symm⟩
  · rw [hBuilt.linkKernel slot index hIndex hSlot, Entry.presentFrame?_link] at hLink
    have hTable : index < 3 := hIndex
    exact ⟨index + 2, .inr (.inr (.inl ⟨by omega, by omega, by omega⟩)),
      (Option.some.inj hLink).symm⟩
  · rw [hBuilt.linkScratch, Entry.presentFrame?_link] at hLink
    exact ⟨5, .inr (.inr (.inr ⟨rfl, rfl⟩)), (Option.some.inj hLink).symm⟩
  · rw [hBuilt.linkSelf, Entry.presentFrame?_link] at hLink
    refine ⟨0, .inl ⟨rfl, rfl⟩, ?_⟩
    rw [Action.blockFrame, Nat.add_zero, Page.ofNumber_number]
    exact (Option.some.inj hLink).symm
  · rw [hBuilt.unlinked slot hUnlinked, Entry.presentFrame?_zero] at hLink
    cases hLink

/-- An entry of a table of the block maps a page of low memory or the loader, or one of the
image, for the kernel alone; or it is zero. -/
theorem Built.leafAt_cases (hBuilt : Built address image block)
    (hAccepts : Accepts address image) (table : Fin 5) (slot : Slot) :
    (slot.val < identityPages image ∧
        block.leafAt table slot = Entry.leaf (Page.ofNumber slot.val) Flags.kernelReadWrite.word) ∨
      (∃ index, index < image.pageCount ∧ block.leafAt table slot =
        Entry.leaf (Page.ofNumber ((Page.containing image.physicalStart : Frame).number + index))
          Flags.kernelReadWrite.word) ∨
      block.leafAt table slot = Entry.zero := by
  have hPages : identityPages image ≤ 1024 := hAccepts.low
  by_cases hLow : table.val * 1024 + slot.val < identityPages image
  · -- The pages that are mapped to themselves are in the first table.
    obtain rfl : table = 0 := Fin.ext (show table.val = 0 by omega)
    have hSlot : slot.val < identityPages image := by omega
    exact .inl ⟨hSlot, hBuilt.leafLow slot hSlot⟩
  · by_cases hImage : ∃ index, index < image.pageCount ∧
        table.val * 1024 + slot.val = 1024 + (firstPage image).tableSlot.val + index
    · obtain ⟨index, hIndex, hSame⟩ := hImage
      exact .inr (.inl ⟨index, hIndex, hBuilt.leafKernel table slot index hIndex hSame⟩)
    · exact .inr (.inr (hBuilt.empty table slot (Nat.not_lt.mp hLow)
        fun index hIndex hSame => hImage ⟨index, hIndex, hSame⟩))

/-- All six frames of the block are installed. -/
theorem PlacedAt.contains {memory : Memory} (hPlaced : block.PlacedAt memory address)
    {position : Nat} (hPosition : position < 6) :
    memory.contains (Action.blockFrame address position) = true := by
  rw [Memory.contains_iff]
  cases position with
  | zero => exact ⟨_, hPlaced.directory⟩
  | succ table => exact ⟨_, hPlaced.table ⟨table, by omega⟩⟩

end BootBlock

namespace Machine

open BootBlock

variable {source : Type} {machine : Machine source} {address : Address .physical}
  {image : KernelImage} {block : BootBlock}

/-- The root is the directory of a block of boot tables in memory. -/
structure Boots (machine : Machine source) (address : Address .physical) (block : BootBlock) :
    Prop where
  placed : block.PlacedAt machine.memory address
  root : machine.root = Page.containing address

theorem Boots.congr {after : Machine source} (hBoots : machine.Boots address block)
    (hMemory : after.memory = machine.memory) (hRoot : after.root = machine.root) :
    after.Boots address block :=
  ⟨hMemory ▸ hBoots.placed, hRoot.trans hBoots.root⟩

theorem Boots.linkAt_eq (hBoots : machine.Boots address block) (slot : Slot) :
    machine.linkAt slot = block.directory.get slot := by
  rw [linkAt, Memory.content, hBoots.root, hBoots.placed.root, Option.getD_some]

theorem Boots.self_linked (hBoots : machine.Boots address block)
    (hBuilt : Built address image block) :
    machine.link? Layout.selfMapSlot = some machine.root := by
  rw [link?, hBoots.linkAt_eq, hBuilt.linkSelf, Entry.presentFrame?_link, hBoots.root]

theorem Boots.exists_linksFrame (hBoots : machine.Boots address block)
    (hBuilt : Built address image block) {slot : Slot} {table : Frame}
    (hLink : machine.link? slot = some table) :
    ∃ position, LinksFrame image slot position ∧ table = Action.blockFrame address position := by
  rw [link?, hBoots.linkAt_eq] at hLink
  exact hBuilt.exists_linksFrame hLink

theorem Boots.linkAt_scratchSlot (hBoots : machine.Boots address block)
    (hBuilt : Built address image block) : machine.linkAt Layout.scratchSlot =
      Entry.link (Action.blockFrame address 5) .kernelReadWrite := by
  rw [hBoots.linkAt_eq, hBuilt.linkScratch]

/-- The table of the scratch page and of the stack is empty. -/
theorem Boots.entryAt_eq_zero (hBoots : machine.Boots address block)
    (hAccepts : Accepts address image) (hBuilt : Built address image block) {page : VirtualPage}
    (hPage : page.directorySlot = Layout.scratchSlot) : machine.entryAt page = Entry.zero := by
  have hLink : machine.link? page.directorySlot = some (Action.blockFrame address 5) := by
    rw [hPage, link?, hBoots.linkAt_scratchSlot hBuilt, Entry.presentFrame?_link]
  have hPlaced : machine.memory.table? (Action.blockFrame address 5) = some (block.table 4) :=
    hBoots.placed.table 4
  have hTable : machine.memory.content (Action.blockFrame address 5) = block.table 4 := by
    rw [Memory.content, hPlaced, Option.getD_some]
  have hPages : identityPages image ≤ 1024 := hAccepts.low
  have hRoom := hAccepts.room
  rw [entryAt_of_linked hLink, hTable]
  -- The scratch table is behind the kernel tables, which hold the whole image.
  refine hBuilt.empty 4 page.tableSlot ?_ ?_
  · show identityPages image ≤ 4 * 1024 + page.tableSlot.val
    omega
  · intro index hIndex
    show 4 * 1024 + page.tableSlot.val ≠ _
    omega

/-- Between the table of low memory and those of the kernel no slot is linked. -/
theorem Boots.link?_of_low (hBoots : machine.Boots address block)
    (hAccepts : Accepts address image) (hBuilt : Built address image block) {slot : Slot}
    (hLow : 0 < slot.val) (hHigh : slot.val < 768) : machine.link? slot = none := by
  obtain ⟨hHigher, hBelow⟩ := hAccepts.slots
  cases hLink : machine.link? slot with
  | none => rfl
  | some table =>
      obtain ⟨position, hLinks, -⟩ := hBoots.exists_linksFrame hBuilt hLink
      unfold LinksFrame at hLinks
      omega

/-- Boot tables are a well-formed address space while none of their frames is free. -/
theorem Boots.wellFormed {size : Nat} {machine : Machine (FrameBitmap size)}
    (hBoots : machine.Boots address block) (hFits : Fits address)
    (hBuilt : Built address image block) (hSound : machine.source.Sound)
    (hOccupied : ∀ position, position < 6 → ¬ machine.Free (Action.blockFrame address position))
    (hFree : ∀ number, machine.source.freeAt number = true →
      ∃ frame : Frame, frame.number = number ∧ machine.Installed frame) : machine.WellFormed where
  self_linked := hBoots.self_linked hBuilt
  linked_installed hLink := by
    obtain ⟨position, hLinks, rfl⟩ := hBoots.exists_linksFrame hBuilt hLink
    exact hBoots.placed.contains hLinks.position_lt
  linked_once hFirst hSecond := by
    obtain ⟨position, hFirstLinks, rfl⟩ := hBoots.exists_linksFrame hBuilt hFirst
    obtain ⟨other, hSecondLinks, hSame⟩ := hBoots.exists_linksFrame hBuilt hSecond
    -- Frames of the block are told apart by their positions.
    have hNumbers := congrArg Page.number hSame
    rw [hFits.number_blockFrame hFirstLinks.position_lt,
      hFits.number_blockFrame hSecondLinks.position_lt] at hNumbers
    obtain rfl : position = other := by omega
    exact hFirstLinks.unique hSecondLinks
  linked_occupied hLink := by
    obtain ⟨position, hLinks, rfl⟩ := hBoots.exists_linksFrame hBuilt hLink
    exact hOccupied position hLinks.position_lt
  free_installed _ := hFree _
  sound := hSound

end Machine

end TwoLevelPaging
