import TwoLevelPaging.BringUp

/-!
# What building leaves in the boot block

The five tables of a block, one after the other, are `5 * 1024` positions: entry
`slot` of table `table` has position `table * 1024 + slot`.  The two loops of
`BootBlock.build` walk over consecutive positions, so one lemma
(`exists_fill_eq`) says what a loop writes and what it leaves; that a run of pages
crosses from one table into the next does not show in it.

The loops are put together in `exists_build_eq`: for an address and an image that
are accepted, every block becomes the same block, and `Built` lists all its
entries.  No other address or image is accepted (`accepts_of_build_eq`).
-/

namespace TwoLevelPaging

/-- A step that succeeds hands its value on. -/
theorem Checked.ok_bind {α β : Type} (value : α) (next : α → Except Fault β) :
    (Except.ok value >>= next) = next value :=
  rfl

namespace BootBlock

variable {address : Address .physical} {image : KernelImage}

/-- A table of the block by its number. -/
def table (block : BootBlock) (number : Fin 5) : Table :=
  block.tables[number]

/-- The entry of a table of the block. -/
def leafAt (block : BootBlock) (number : Fin 5) (slot : Slot) : Entry :=
  (block.table number).get slot

@[simp]
theorem leafAt_zero (table : Fin 5) (slot : Slot) : zero.leafAt table slot = Entry.zero := by
  simp [leafAt, BootBlock.table, zero]

/-- Wiping forgets what the block has held. -/
@[simp]
theorem wipe_eq_zero (block : BootBlock) : block.wipe = zero := by
  obtain ⟨directory, tables⟩ := block
  simp only [wipe, zero, mk.injEq, true_and]
  ext1 position hPosition
  simp

/-! ## Single entries -/

theorem exists_setLink_eq (block : BootBlock) (slot : Slot) (entry : Entry) :
    ∃ after, block.setLink slot.val entry = .ok after ∧ after.tables = block.tables ∧
      ∀ other, after.directory.get other =
        if other = slot then entry else block.directory.get other := by
  obtain ⟨directory, tables⟩ := block
  refine ⟨⟨directory.set slot entry, tables⟩, ?_, rfl, ?_⟩
  · simp only [setLink, Slot.ofNat, slot.isLt, dif_pos]
    rfl
  · intro other
    by_cases hSame : other = slot
    · simp [hSame]
    · simp [hSame, directory.get_set_of_ne entry (Ne.symm hSame)]

theorem exists_setLeaf_eq (block : BootBlock) {table number : Nat} (hTable : table < 5)
    (hNumber : number < 1024) (entry : Entry) :
    ∃ after, block.setLeaf table number entry = .ok after ∧
      after.directory = block.directory ∧
      ∀ (other : Fin 5) (slot : Slot), after.leafAt other slot =
        if other.val = table ∧ slot.val = number then entry else block.leafAt other slot := by
  obtain ⟨directory, tables⟩ := block
  refine ⟨⟨directory, tables.set table (tables[table].set ⟨number, hNumber⟩ entry)⟩, ?_, rfl, ?_⟩
  · simp only [setLeaf, Slot.ofNat, hNumber, dif_pos]
    show (if inside : table < 5 then _ else _) = _
    rw [dif_pos hTable]
    rfl
  · intro other slot
    simp only [leafAt, BootBlock.table, Fin.getElem_fin, Vector.getElem_set]
    by_cases hOther : table = other.val
    · by_cases hSlot : slot = ⟨number, hNumber⟩
      · simp [hOther, hSlot]
      · have hApart : slot.val ≠ number := fun hSame => hSlot (Fin.ext hSame)
        simp [hOther, hApart, Table.get_set_of_ne _ entry (Ne.symm hSlot)]
    · simp [hOther, Ne.symm hOther]

/-! ## Runs of entries -/

/-- The positions `[start, start + count)` hold the entries of a run, and all others
what they have held before. -/
structure Filled (before after : BootBlock) (start count : Nat) (entry : Nat → Entry) : Prop where
  inside : ∀ (table : Fin 5) (slot : Slot) (index : Nat), index < count →
    table.val * 1024 + slot.val = start + index → after.leafAt table slot = entry index
  outside : ∀ (table : Fin 5) (slot : Slot),
    (∀ index, index < count → table.val * 1024 + slot.val ≠ start + index) →
    after.leafAt table slot = before.leafAt table slot

/-- Filling is a matter of the tables alone. -/
theorem Filled.congr {before after other final : BootBlock} {start count : Nat}
    {entry : Nat → Entry} (hFilled : Filled before after start count entry)
    (hBefore : other.tables = before.tables) (hAfter : final.tables = after.tables) :
    Filled other final start count entry := by
  constructor
  · intro table slot index hIndex hSame
    rw [← hFilled.inside table slot index hIndex hSame, leafAt, leafAt, BootBlock.table,
      BootBlock.table, hAfter]
  · intro table slot hOutside
    have hKept := hFilled.outside table slot hOutside
    simp only [leafAt, BootBlock.table] at hKept ⊢
    rw [hAfter, hBefore, hKept]

/-- A loop that stores one entry at each position of a run succeeds and fills the
run; it leaves the directory alone. -/
theorem exists_fill_eq (block : BootBlock) (start count : Nat) (entry : Nat → Entry)
    (step : BootBlock → Nat → Except Fault BootBlock) (hRoom : start + count ≤ 5 * 1024)
    (hStep : ∀ current index, index < count →
      step current index =
        setLeaf current ((start + index) / 1024) ((start + index) % 1024) (entry index)) :
    ∃ after, (List.range count).foldlM step block = .ok after ∧
      after.directory = block.directory ∧ Filled block after start count entry := by
  induction count with
  | zero =>
      refine ⟨block, rfl, rfl, ?_, ?_⟩
      · intro table slot index hIndex
        exact absurd hIndex (Nat.not_lt_zero index)
      · intro table slot hOutside
        rfl
  | succ count ih =>
      obtain ⟨middle, hLoop, hKept, hFilled⟩ := ih (by omega) fun current index hIndex =>
        hStep current index (Nat.lt_succ_of_lt hIndex)
      have hTable : (start + count) / 1024 < 5 := by omega
      obtain ⟨after, hSet, hDirectory, hEntries⟩ := middle.exists_setLeaf_eq hTable
        (Nat.mod_lt (start + count) (by decide)) (entry count)
      -- A position is that of the new entry exactly if its table and slot are.
      have hPosition : ∀ (table : Fin 5) (slot : Slot),
          table.val = (start + count) / 1024 ∧ slot.val = (start + count) % 1024 ↔
            table.val * 1024 + slot.val = start + count := by
        intro table slot
        have hSlot := slot.isLt
        omega
      refine ⟨after, ?_, hDirectory.trans hKept, ?_, ?_⟩
      · rw [List.range_succ, List.foldlM_append, hLoop]
        show (List.foldlM step middle [count]) = _
        rw [List.foldlM_cons, hStep middle count (Nat.lt_succ_self count), hSet]
        rfl
      · intro table slot index hIndex hSame
        rw [hEntries]
        by_cases hLast : index = count
        · rw [if_pos ((hPosition table slot).mpr (hLast ▸ hSame)), hLast]
        · rw [if_neg, hFilled.inside table slot index (by omega) hSame]
          rw [hPosition]
          omega
      · intro table slot hOutside
        rw [hEntries, if_neg]
        · exact hFilled.outside table slot fun index hIndex =>
            hOutside index (Nat.lt_succ_of_lt hIndex)
        · rw [hPosition]
          exact hOutside count (Nat.lt_succ_self count)

/-! ## Links to the tables of the block -/

/-- The block at the address ends within the address space. -/
def Fits (address : Address .physical) : Prop :=
  address.toNat + bytes ≤ 0x100000000

theorem Fits.number_blockFrame (hFits : Fits address) {position : Nat} (hPosition : position < 6) :
    (Action.blockFrame address position).number = address.toNat / 4096 + position := by
  rw [Fits, show bytes = 24576 from rfl] at hFits
  simp only [Action.blockFrame, Page.number_ofNumber, Page.number_containing, PageSize.bytes,
    PageSize.count]
  omega

theorem Fits.tableFrame_eq (hFits : Fits address) {table : Nat} (hTable : table < 5) :
    tableFrame address table = .ok (Action.blockFrame address (table + 1)) := by
  have hNumber : (Action.blockFrame address (table + 1)).number =
      address.toNat / 4096 + (table + 1) :=
    hFits.number_blockFrame (by omega)
  rw [Fits, show bytes = 24576 from rfl] at hFits
  have hDistance : (Layout.pageBytes + table * Layout.pageBytes) % 0x100000000 =
      (table + 1) * 4096 := by
    simp only [Layout.pageBytes]
    omega
  have hWord : Checked.word (address.toNat + (table + 1) * 4096) =
      .ok (address.toNat + (table + 1) * 4096) := by
    rw [Checked.word_eq_ok_iff]
    exact ⟨by omega, rfl⟩
  rw [tableFrame, hDistance, hWord]
  show Except.ok _ = _
  congr 1
  apply Page.ext
  rw [hNumber, Page.number_containing, Address.toNat_ofNat, PageSize.bytes]
  omega

theorem Fits.exists_linkTable_eq (hFits : Fits address) (block : BootBlock) (slot : Slot)
    (table : Nat) (hTable : table < 5) :
    ∃ after, linkTable address block slot.val table = .ok after ∧
      after.tables = block.tables ∧
      ∀ other, after.directory.get other =
        if other = slot then Entry.link (Action.blockFrame address (table + 1)) .kernelReadWrite
        else block.directory.get other := by
  rw [linkTable, hFits.tableFrame_eq hTable]
  exact block.exists_setLink_eq slot _

/-- The `count` directory slots from `first` on link the kernel tables, and all
others hold what they have held before. -/
structure Linked (address : Address .physical) (before after : BootBlock) (first count : Nat) :
    Prop where
  inside : ∀ (slot : Slot) (index : Nat), index < count → slot.val = first + index →
    after.directory.get slot =
      Entry.link (Action.blockFrame address (firstKernelTable + index + 1)) .kernelReadWrite
  outside : ∀ slot : Slot, (∀ index, index < count → slot.val ≠ first + index) →
    after.directory.get slot = before.directory.get slot

theorem Fits.exists_links_eq (hFits : Fits address) (block : BootBlock) (first count : Nat)
    (hCount : count ≤ Layout.kernelTables) (hRoom : first + count ≤ 1024) :
    ∃ after, (List.range count).foldlM
        (fun block table => linkTable address block (first + table) (firstKernelTable + table))
        block = .ok after ∧
      after.tables = block.tables ∧ Linked address block after first count := by
  induction count with
  | zero =>
      refine ⟨block, rfl, rfl, ?_, ?_⟩
      · intro slot index hIndex
        exact absurd hIndex (Nat.not_lt_zero index)
      · intro slot hOutside
        rfl
  | succ count ih =>
      obtain ⟨middle, hLoop, hKept, hLinked⟩ := ih (by omega) (by omega)
      have hTable : firstKernelTable + count < 5 := by
        simp only [Layout.kernelTables] at hCount
        simp only [firstKernelTable]
        omega
      obtain ⟨after, hLink, hTables, hEntries⟩ :=
        hFits.exists_linkTable_eq middle ⟨first + count, by omega⟩ _ hTable
      refine ⟨after, ?_, hTables.trans hKept, ?_, ?_⟩
      · rw [List.range_succ, List.foldlM_append, hLoop]
        show linkTable address middle (first + count) (firstKernelTable + count) >>= pure = _
        rw [hLink]
        rfl
      · intro slot index hIndex hSame
        rw [hEntries]
        by_cases hLast : index = count
        · rw [if_pos (Fin.ext (hLast ▸ hSame)), hLast]
        · rw [if_neg, hLinked.inside slot index (by omega) hSame]
          rw [Fin.ext_iff]
          simp only
          omega
      · intro slot hOutside
        rw [hEntries, if_neg]
        · exact hLinked.outside slot fun index hIndex =>
            hOutside index (Nat.lt_succ_of_lt hIndex)
        · intro hSame
          exact hOutside count (Nat.lt_succ_self count) (Fin.ext_iff.mp hSame)

/-! ## The finished block -/

/-- The address and the image pass every check of `build`. -/
structure Accepts (address : Address .physical) (image : KernelImage) : Prop where
  aligned : address.isAligned .small = true
  low : identityPages image ≤ Layout.entriesPerTable
  valid : isValidKernel image = true
  tables : neededTables image ≤ Layout.kernelTables

/-- The directory slots that the boot tables link: the first one, those of the kernel
tables, the one of the scratch page and the last one. -/
def LinksSlot (image : KernelImage) (slot : Slot) : Prop :=
  slot.val = 0 ∨
    (∃ index, index < Layout.kernelTables ∧
      slot.val = (firstPage image).directorySlot.val + index) ∨
    slot = Layout.scratchSlot ∨ slot = Layout.selfMapSlot

/-- Every entry of a finished block. -/
structure Built (address : Address .physical) (image : KernelImage) (block : BootBlock) :
    Prop where
  /-- The first slot links the table of low memory. -/
  linkLow : ∀ slot : Slot, slot.val = 0 →
    block.directory.get slot = Entry.link (Action.blockFrame address 1) .kernelReadWrite
  /-- The slots of the image link the kernel tables. -/
  linkKernel : ∀ (slot : Slot) (index : Nat), index < Layout.kernelTables →
    slot.val = (firstPage image).directorySlot.val + index →
    block.directory.get slot =
      Entry.link (Action.blockFrame address (index + 2)) .kernelReadWrite
  linkScratch : block.directory.get Layout.scratchSlot =
    Entry.link (Action.blockFrame address 5) .kernelReadWrite
  linkSelf : block.directory.get Layout.selfMapSlot =
    Entry.link (Page.containing address) .selfMap
  unlinked : ∀ slot : Slot, ¬ LinksSlot image slot → block.directory.get slot = Entry.zero
  /-- Low memory and the loader are mapped to themselves. -/
  leafLow : ∀ slot : Slot, slot.val < identityPages image →
    block.leafAt 0 slot = Entry.leaf (Page.ofNumber slot.val) Flags.kernelReadWrite.word
  /-- The pages of the image follow one another from its first entry on. -/
  leafKernel : ∀ (table : Fin 5) (slot : Slot) (index : Nat), index < image.pageCount →
    table.val * 1024 + slot.val = 1024 + (firstPage image).tableSlot.val + index →
    block.leafAt table slot =
      Entry.leaf (Page.ofNumber ((Page.containing image.physicalStart : Frame).number + index))
        Flags.kernelReadWrite.word
  empty : ∀ (table : Fin 5) (slot : Slot), identityPages image ≤ table.val * 1024 + slot.val →
    (∀ index, index < image.pageCount →
      table.val * 1024 + slot.val ≠ 1024 + (firstPage image).tableSlot.val + index) →
    block.leafAt table slot = Entry.zero

/-- The kernel tables have an entry for every page of the image. -/
theorem Accepts.room (hAccepts : Accepts address image) :
    (firstPage image).tableSlot.val + image.pageCount ≤ 3072 := by
  have hTables := hAccepts.tables
  simp only [neededTables, roundUpDiv, Layout.entriesPerTable, Layout.kernelTables] at hTables
  omega

/-- The kernel tables are linked in the higher half, below the scratch table. -/
theorem Accepts.slots (hAccepts : Accepts address image) :
    768 ≤ (firstPage image).directorySlot.val ∧
      (firstPage image).directorySlot.val + 3 ≤ 1022 := by
  have hValid := hAccepts.valid
  simp only [isValidKernel, Bool.and_eq_true, decide_eq_true_eq] at hValid
  obtain ⟨⟨hHigher, -⟩, hBelow⟩ := hValid
  refine ⟨?_, hBelow⟩
  simp only [Layout.higherHalf] at hHigher
  simp only [firstPage, Page.directorySlot, Page.number_containing, PageSize.bytes]
  omega

theorem Fits.exists_buildIdentity_eq (hFits : Fits address)
    (hLow : identityPages image ≤ Layout.entriesPerTable) :
    ∃ after, buildIdentity zero address image = .ok after ∧
      Filled zero after 0 (identityPages image)
        (fun page => Entry.leaf (Page.ofNumber page) Flags.kernelReadWrite.word) ∧
      ∀ slot, after.directory.get slot =
        if slot = 0 then Entry.link (Action.blockFrame address 1) .kernelReadWrite
        else Entry.zero := by
  have hRoom : identityPages image ≤ 1024 := hLow
  obtain ⟨mapped, hLoop, hDirectory, hFilled⟩ := exists_fill_eq zero 0 (identityPages image)
    (fun page => Entry.leaf (Page.ofNumber page) Flags.kernelReadWrite.word) mapIdentity
    (by omega) (by
      intro current index hIndex
      rw [Nat.zero_add, Nat.div_eq_of_lt (by omega), Nat.mod_eq_of_lt (by omega)]
      rfl)
  obtain ⟨after, hLink, hTables, hEntries⟩ :=
    hFits.exists_linkTable_eq mapped 0 identityTable (by decide)
  refine ⟨after, ?_, hFilled.congr rfl hTables, ?_⟩
  · rw [buildIdentity, hLoop, Checked.ok_bind]
    exact hLink
  · intro slot
    rw [hEntries, hDirectory]
    rw [show zero.directory.get slot = Entry.zero from Table.get_zero slot]
    rfl

theorem Fits.exists_buildKernel_eq (hFits : Fits address) (hAccepts : Accepts address image)
    (block : BootBlock) :
    ∃ linked after, buildKernel block address image = .ok after ∧
      Filled block after (1024 + (firstPage image).tableSlot.val) image.pageCount
        (fun index => Entry.leaf
          (Page.ofNumber ((Page.containing image.physicalStart : Frame).number + index))
          Flags.kernelReadWrite.word) ∧
      Linked address block linked (firstPage image).directorySlot.val Layout.kernelTables ∧
      ∀ slot, after.directory.get slot =
        if slot = Layout.selfMapSlot then Entry.link (Page.containing address) .selfMap
        else if slot = Layout.scratchSlot then
          Entry.link (Action.blockFrame address 5) .kernelReadWrite
        else linked.directory.get slot := by
  obtain ⟨hHigher, hBelow⟩ := hAccepts.slots
  have hRoom := hAccepts.room
  obtain ⟨linked, hLinks, hLinkedTables, hLinked⟩ := hFits.exists_links_eq block
    (firstPage image).directorySlot.val Layout.kernelTables (Nat.le_refl _)
    (by simp only [Layout.kernelTables]; omega)
  obtain ⟨mapped, hLoop, hDirectory, hFilled⟩ := exists_fill_eq linked
    (1024 + (firstPage image).tableSlot.val) image.pageCount
    (fun index => Entry.leaf
      (Page.ofNumber ((Page.containing image.physicalStart : Frame).number + index))
      Flags.kernelReadWrite.word)
    (mapKernel (firstPage image).tableSlot.val
      (Page.containing image.physicalStart : Frame).number) (by omega) (by
      intro current index hIndex
      -- The first kernel table starts at position 1024.
      rw [Nat.add_assoc, Nat.add_div_left _ (by decide), Nat.add_mod_left]
      rw [mapKernel, Nat.add_comm firstKernelTable]
      rfl)
  obtain ⟨scratch, hScratch, hScratchTables, hScratchEntries⟩ :=
    hFits.exists_linkTable_eq mapped Layout.scratchSlot scratchTable (by decide)
  obtain ⟨after, hSelf, hSelfTables, hSelfEntries⟩ :=
    scratch.exists_setLink_eq Layout.selfMapSlot (Entry.link (Page.containing address) .selfMap)
  refine ⟨linked, after, ?_,
    hFilled.congr hLinkedTables.symm (hSelfTables.trans hScratchTables), hLinked, ?_⟩
  · rw [buildKernel, hLinks, Checked.ok_bind, hLoop, Checked.ok_bind, hScratch, Checked.ok_bind]
    exact hSelf
  · intro slot
    rw [hSelfEntries, hScratchEntries, hDirectory]
    rfl

/-- The two halves of a build make a finished block. -/
theorem Accepts.built (hAccepts : Accepts address image) {identity linked built : BootBlock}
    (hLow : Filled zero identity 0 (identityPages image)
      (fun page => Entry.leaf (Page.ofNumber page) Flags.kernelReadWrite.word))
    (hLowEntries : ∀ slot, identity.directory.get slot =
      if slot = 0 then Entry.link (Action.blockFrame address 1) .kernelReadWrite
      else Entry.zero)
    (hKernel : Filled identity built (1024 + (firstPage image).tableSlot.val) image.pageCount
      (fun index => Entry.leaf
        (Page.ofNumber ((Page.containing image.physicalStart : Frame).number + index))
        Flags.kernelReadWrite.word))
    (hLinked : Linked address identity linked (firstPage image).directorySlot.val
      Layout.kernelTables)
    (hEntries : ∀ slot, built.directory.get slot =
      if slot = Layout.selfMapSlot then Entry.link (Page.containing address) .selfMap
      else if slot = Layout.scratchSlot then
        Entry.link (Action.blockFrame address 5) .kernelReadWrite
      else linked.directory.get slot) : Built address image built := by
  obtain ⟨hHigher, hBelow⟩ := hAccepts.slots
  have hPages : identityPages image ≤ 1024 := hAccepts.low
  have hBeneath : ∀ slot : Slot, slot ≠ Layout.selfMapSlot → slot ≠ Layout.scratchSlot →
      built.directory.get slot = linked.directory.get slot := by
    intro slot hSelf hScratch
    rw [hEntries, if_neg hSelf, if_neg hScratch]
  constructor
  · intro slot hZero
    obtain rfl : slot = 0 := Fin.ext hZero
    rw [hBeneath 0 (by decide) (by decide), hLinked.outside, hLowEntries, if_pos rfl]
    intro index hIndex
    simp only [Fin.val_zero]
    omega
  · intro slot index hIndex hSame
    have hIndexBound : index < 3 := hIndex
    rw [hBeneath, hLinked.inside slot index hIndex hSame, firstKernelTable,
      Nat.add_right_comm, Nat.add_comm]
    · rintro rfl
      simp only [Layout.selfMapSlot] at hSame
      omega
    · rintro rfl
      simp only [Layout.scratchSlot] at hSame
      omega
  · rw [hEntries, if_neg (by decide), if_pos rfl]
  · rw [hEntries, if_pos rfl]
  · intro slot hUnlinked
    simp only [LinksSlot, not_or, not_exists, not_and] at hUnlinked
    obtain ⟨hFirst, hKernelSlots, hScratch, hSelf⟩ := hUnlinked
    rw [hBeneath slot hSelf hScratch, hLinked.outside slot hKernelSlots, hLowEntries,
      if_neg fun hSame => hFirst (congrArg Fin.val hSame)]
  · intro slot hSlot
    -- The image does not reach into the table of low memory.
    rw [hKernel.outside]
    · exact hLow.inside 0 slot slot.val hSlot (by simp)
    · intro index hIndex
      have hSlotBound := slot.isLt
      simp only [Fin.val_zero]
      omega
  · exact hKernel.inside
  · intro table slot hPast hOutside
    rw [hKernel.outside table slot hOutside, hLow.outside, leafAt_zero]
    intro index hIndex
    omega

/-- Building from an accepted image succeeds, and what comes out does not depend on
what the block has held. -/
theorem exists_build_eq (hFits : Fits address) (hAccepts : Accepts address image) :
    ∃ built, (∀ block : BootBlock,
        block.build address image = .ok (.ok (Page.containing address), built)) ∧
      Built address image built := by
  obtain ⟨identity, hIdentity, hLow, hLowEntries⟩ :=
    hFits.exists_buildIdentity_eq hAccepts.low
  obtain ⟨linked, built, hBuildKernel, hKernel, hLinked, hEntries⟩ :=
    hFits.exists_buildKernel_eq hAccepts identity
  refine ⟨built, ?_, hAccepts.built hLow hLowEntries hKernel hLinked hEntries⟩
  intro block
  rw [build, wipe_eq_zero, hAccepts.aligned, Checked.require, if_pos rfl, Checked.ok_bind,
    if_neg (Nat.not_lt.mpr hAccepts.low), hIdentity, Checked.ok_bind, hAccepts.valid,
    if_neg (by decide), if_neg (Nat.not_lt.mpr hAccepts.tables), hBuildKernel, Checked.ok_bind]
  rfl

/-- A build that yields a directory has passed every check. -/
theorem accepts_of_build_eq (hFits : Fits address) {block built : BootBlock} {directory : Frame}
    (hBuild : block.build address image = .ok (.ok directory, built)) :
    Accepts address image := by
  -- The checks are taken in the order of `build`: a check that fails leaves an error,
  -- or a fault, where a directory should be.
  cases hAligned : address.isAligned .small with
  | false =>
      rw [build, hAligned] at hBuild
      cases hBuild
  | true =>
      rw [build, hAligned, Checked.require, if_pos rfl, Checked.ok_bind, wipe_eq_zero] at hBuild
      by_cases hLow : Layout.entriesPerTable < identityPages image
      · rw [if_pos hLow] at hBuild
        cases hBuild
      · obtain ⟨identity, hIdentity, -, -⟩ :=
          hFits.exists_buildIdentity_eq (Nat.not_lt.mp hLow)
        rw [if_neg hLow, hIdentity, Checked.ok_bind] at hBuild
        cases hValid : isValidKernel image with
        | false =>
            rw [hValid, if_pos (by decide)] at hBuild
            cases hBuild
        | true =>
            rw [hValid, if_neg (by decide)] at hBuild
            by_cases hTables : Layout.kernelTables < neededTables image
            · rw [if_pos hTables] at hBuild
              cases hBuild
            · exact ⟨hAligned, Nat.not_lt.mp hLow, hValid, Nat.not_lt.mp hTables⟩

/-- A block that reaches beyond the address space has no scratch table. -/
theorem fits_of_buildKernel_eq (hAligned : address.isAligned .small = true)
    {block built : BootBlock} (hBuild : buildKernel block address image = .ok built) :
    Fits address := by
  unfold buildKernel at hBuild
  obtain ⟨linked, -, hBuild⟩ := Checked.exists_of_bind_eq_ok hBuild
  obtain ⟨mapped, -, hBuild⟩ := Checked.exists_of_bind_eq_ok hBuild
  obtain ⟨scratch, hScratch, -⟩ := Checked.exists_of_bind_eq_ok hBuild
  unfold linkTable at hScratch
  obtain ⟨frame, hFrame, -⟩ := Checked.exists_of_bind_eq_ok hScratch
  unfold tableFrame at hFrame
  obtain ⟨word, hWord, -⟩ := Checked.exists_of_bind_eq_ok hFrame
  rw [Checked.word_eq_ok_iff] at hWord
  simp only [Address.isAligned, beq_iff_eq, PageSize.bytes] at hAligned
  simp only [Layout.pageBytes, scratchTable, firstKernelTable, Layout.kernelTables] at hWord
  rw [Fits, show bytes = 24576 from rfl]
  omega

/-- A build that yields a directory has had room for the block. -/
theorem fits_of_build_eq {block built : BootBlock} {directory : Frame}
    (hBuild : block.build address image = .ok (.ok directory, built)) : Fits address := by
  unfold build at hBuild
  obtain ⟨checked, hRequire, hBuild⟩ := Checked.exists_of_bind_eq_ok hBuild
  have hAligned : address.isAligned .small = true := by
    cases hSmall : address.isAligned .small with
    | true => rfl
    | false =>
        rw [hSmall] at hRequire
        cases hRequire
  split at hBuild
  · cases hBuild
  · obtain ⟨identity, -, hBuild⟩ := Checked.exists_of_bind_eq_ok hBuild
    split at hBuild
    · cases hBuild
    · split at hBuild
      · cases hBuild
      · obtain ⟨final, hKernel, -⟩ := Checked.exists_of_bind_eq_ok hBuild
        exact fits_of_buildKernel_eq hAligned hKernel

/-- What a build yields, without a condition on the address. -/
theorem built_of_build_eq {block built : BootBlock} {directory : Frame}
    (hBuild : block.build address image = .ok (.ok directory, built)) :
    Fits address ∧ Accepts address image ∧ directory = Page.containing address ∧
      Built address image built := by
  have hFits := fits_of_build_eq hBuild
  have hAccepts := accepts_of_build_eq hFits hBuild
  obtain ⟨final, hAlways, hBuilt⟩ := exists_build_eq hFits hAccepts
  have hSame := hAlways block
  rw [hBuild] at hSame
  obtain ⟨rfl, rfl⟩ : directory = Page.containing address ∧ built = final := by
    simpa using hSame
  exact ⟨hFits, hAccepts, rfl, hBuilt⟩

end BootBlock
end TwoLevelPaging
