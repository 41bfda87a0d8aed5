import TwoLevelPaging.Machine

/-!
# The address space that a machine holds

Memory and a root directory describe an address space.  `Machine.linkAt` is its
directory entry of a slot, `Machine.link?` the frame of the table that the slot
links, and `Machine.entryAt` the entry of a page, which is zero while the page
has no table.

The second half of the file names what actions do to a machine (`store`, `clear`,
`note`, `draw`) and says how the address space looks afterwards.  A store into a
table changes one entry (`entryAt_store_table`); this needs tables that are
`Separated`: installed, different from the directory, and each linked by one slot.
-/

namespace TwoLevelPaging

namespace Entry

@[simp]
theorem presentFrame?_zero : zero.presentFrame? = none := by
  decide

@[simp]
theorem storedFrame?_zero : zero.storedFrame? = none := by
  simp [storedFrame?]

@[simp]
theorem presentFrame?_link (frame : Frame) (flags : Flags) :
    (link frame flags).presentFrame? = some frame := by
  simp [link, presentFrame?]

theorem presentFrame?_eq_some_iff (entry : Entry) (frame : Frame) :
    entry.presentFrame? = some frame ↔ entry.present = true ∧ entry.frame = frame := by
  cases hPresent : entry.present <;> simp [presentFrame?, hPresent]

/-- An entry that stores no frame is the zero entry. -/
theorem storedFrame?_eq_none_iff (entry : Entry) :
    entry.storedFrame? = none ↔ entry = zero := by
  rw [← isFree_iff]
  cases hFree : entry.isFree <;> simp [storedFrame?, hFree]

theorem isFree_eq_false_of_frame_ne_zero {entry : Entry} (hFrame : entry.frame.number ≠ 0) :
    entry.isFree = false := by
  refine Bool.eq_false_iff.mpr ?_
  intro hFree
  rw [(isFree_iff entry).mp hFree] at hFrame
  exact hFrame rfl

/-- A mapping of a frame other than frame zero stores that frame, whatever its
flags are. -/
theorem storedFrame?_leaf {frame : Frame} (hFrame : frame.number ≠ 0) (flags : UInt32) :
    (leaf frame flags).storedFrame? = some frame := by
  have hUsed : (leaf frame flags).isFree = false := isFree_eq_false_of_frame_ne_zero hFrame
  simp [storedFrame?, hUsed]
  rfl

end Entry

/-- A page is given by its two slots. -/
theorem Page.eq_iff_slots_eq (first second : VirtualPage) :
    first = second ↔
      first.directorySlot = second.directorySlot ∧ first.tableSlot = second.tableSlot := by
  constructor
  · rintro rfl
    exact ⟨rfl, rfl⟩
  · rintro ⟨hDirectory, hTable⟩
    rw [← ofSlots_directorySlot_tableSlot first, hDirectory, hTable,
      ofSlots_directorySlot_tableSlot]

namespace Memory

/-- What a frame holds; a frame that is not installed reads as empty. -/
def content (memory : Memory) (frame : Frame) : Table :=
  (memory.table? frame).getD Table.zero

theorem table?_eq_content {memory : Memory} {frame : Frame}
    (hInstalled : memory.contains frame = true) :
    memory.table? frame = some (memory.content frame) := by
  obtain ⟨table, hTable⟩ := (memory.contains_iff frame).mp hInstalled
  rw [content, hTable, Option.getD_some]

@[simp]
theorem contains_modify (memory : Memory) (frame other : Frame) (change : Table → Table) :
    (memory.modify frame change).contains other = memory.contains other := by
  simp [contains]

theorem content_modify_same {memory : Memory} {frame : Frame} (change : Table → Table)
    (hInstalled : memory.contains frame = true) :
    (memory.modify frame change).content frame = change (memory.content frame) := by
  rw [content, table?_modify_same, table?_eq_content hInstalled]
  rfl

theorem content_modify_of_ne (memory : Memory) {frame other : Frame} (change : Table → Table)
    (hDifferent : frame ≠ other) :
    (memory.modify frame change).content other = memory.content other := by
  rw [content, table?_modify_of_ne memory change hDifferent, content]

end Memory

namespace Machine

variable {source : Type}

/-- The frame is part of the installed memory. -/
def Installed (machine : Machine source) (frame : Frame) : Prop :=
  machine.memory.contains frame = true

/-- The directory entry of a slot. -/
def linkAt (machine : Machine source) (slot : Slot) : Entry :=
  (machine.memory.content machine.root).get slot

/-- The frame of the table that a slot links. -/
def link? (machine : Machine source) (slot : Slot) : Option Frame :=
  (machine.linkAt slot).presentFrame?

/-- The entry of a page; without a table it is zero. -/
def entryAt (machine : Machine source) (page : VirtualPage) : Entry :=
  match machine.link? page.directorySlot with
  | none => Entry.zero
  | some table => (machine.memory.content table).get page.tableSlot

theorem entryAt_of_unlinked {machine : Machine source} {page : VirtualPage}
    (hLink : machine.link? page.directorySlot = none) : machine.entryAt page = Entry.zero := by
  rw [entryAt, hLink]

theorem entryAt_of_linked {machine : Machine source} {page : VirtualPage} {table : Frame}
    (hLink : machine.link? page.directorySlot = some table) :
    machine.entryAt page = (machine.memory.content table).get page.tableSlot := by
  rw [entryAt, hLink]

/-- A page has a table if its entry is in use. -/
theorem exists_link_of_used {machine : Machine source} {page : VirtualPage}
    (hUsed : (machine.entryAt page).isFree = false) :
    ∃ table, machine.link? page.directorySlot = some table := by
  cases hLink : machine.link? page.directorySlot with
  | none =>
      rw [entryAt_of_unlinked hLink] at hUsed
      exact absurd hUsed (by decide)
  | some table => exact ⟨table, rfl⟩

/-! ## Changes of a machine -/

/-- The machine with an entry stored into a frame. -/
def store (machine : Machine source) (frame : Frame) (slot : Slot) (entry : Entry) :
    Machine source :=
  { machine with
    memory := machine.memory.modify frame fun table => table.set slot entry
    journal := .stored frame slot :: machine.journal }

/-- The machine with all entries of a frame cleared. -/
def clear (machine : Machine source) (frame : Frame) : Machine source :=
  { machine with
    memory := machine.memory.modify frame fun _ => Table.zero
    journal := .replaced frame :: machine.journal }

/-- The machine with an effect recorded that changes nothing else. -/
def note (machine : Machine source) (effect : Effect) : Machine source :=
  { machine with journal := effect :: machine.journal }

/-- The machine with another state of its source of frames. -/
def draw (machine : Machine source) (pool : source) (events : List Event) : Machine source :=
  { machine with source := pool, journal := machine.journal.reportAll events }

section Changes

variable (machine : Machine source) (frame : Frame) (slot : Slot) (entry : Entry)
  (effect : Effect) (pool : source) (events : List Event)

@[simp]
theorem root_store : (machine.store frame slot entry).root = machine.root := rfl

@[simp]
theorem source_store : (machine.store frame slot entry).source = machine.source := rfl

@[simp]
theorem view_store : (machine.store frame slot entry).view = machine.view := rfl

@[simp]
theorem installed_store (other : Frame) :
    (machine.store frame slot entry).Installed other ↔ machine.Installed other := by
  simp [Installed, store]

@[simp]
theorem root_clear : (machine.clear frame).root = machine.root := rfl

@[simp]
theorem source_clear : (machine.clear frame).source = machine.source := rfl

@[simp]
theorem view_clear : (machine.clear frame).view = machine.view := rfl

@[simp]
theorem installed_clear (other : Frame) :
    (machine.clear frame).Installed other ↔ machine.Installed other := by
  simp [Installed, clear]

@[simp]
theorem root_note : (machine.note effect).root = machine.root := rfl

@[simp]
theorem source_note : (machine.note effect).source = machine.source := rfl

@[simp]
theorem view_note : (machine.note effect).view = machine.view := rfl

@[simp]
theorem memory_note : (machine.note effect).memory = machine.memory := rfl

@[simp]
theorem installed_note (other : Frame) :
    (machine.note effect).Installed other ↔ machine.Installed other := Iff.rfl

@[simp]
theorem linkAt_note : (machine.note effect).linkAt slot = machine.linkAt slot := rfl

@[simp]
theorem link?_note : (machine.note effect).link? slot = machine.link? slot := rfl

@[simp]
theorem entryAt_note (page : VirtualPage) :
    (machine.note effect).entryAt page = machine.entryAt page := rfl

@[simp]
theorem root_draw : (machine.draw pool events).root = machine.root := rfl

@[simp]
theorem source_draw : (machine.draw pool events).source = pool := rfl

@[simp]
theorem view_draw : (machine.draw pool events).view = machine.view := rfl

@[simp]
theorem memory_draw : (machine.draw pool events).memory = machine.memory := rfl

@[simp]
theorem installed_draw (other : Frame) :
    (machine.draw pool events).Installed other ↔ machine.Installed other := Iff.rfl

@[simp]
theorem linkAt_draw : (machine.draw pool events).linkAt slot = machine.linkAt slot := rfl

@[simp]
theorem link?_draw : (machine.draw pool events).link? slot = machine.link? slot := rfl

@[simp]
theorem entryAt_draw (page : VirtualPage) :
    (machine.draw pool events).entryAt page = machine.entryAt page := rfl

end Changes

theorem content_store_same {machine : Machine source} {frame : Frame}
    (hInstalled : machine.Installed frame) (slot : Slot) (entry : Entry) :
    (machine.store frame slot entry).memory.content frame =
      (machine.memory.content frame).set slot entry :=
  Memory.content_modify_same _ hInstalled

theorem content_store_of_ne (machine : Machine source) {frame other : Frame} (slot : Slot)
    (entry : Entry) (hDifferent : frame ≠ other) :
    (machine.store frame slot entry).memory.content other = machine.memory.content other :=
  Memory.content_modify_of_ne _ _ hDifferent

theorem content_clear_same {machine : Machine source} {frame : Frame}
    (hInstalled : machine.Installed frame) :
    (machine.clear frame).memory.content frame = Table.zero :=
  Memory.content_modify_same _ hInstalled

theorem content_clear_of_ne (machine : Machine source) {frame other : Frame}
    (hDifferent : frame ≠ other) :
    (machine.clear frame).memory.content other = machine.memory.content other :=
  Memory.content_modify_of_ne _ _ hDifferent

/-! ## The directory after a change -/

theorem linkAt_store_root {machine : Machine source} (hRoot : machine.Installed machine.root)
    (slot other : Slot) (entry : Entry) :
    (machine.store machine.root slot entry).linkAt other =
      if slot = other then entry else machine.linkAt other := by
  rw [linkAt, root_store, content_store_same hRoot]
  by_cases hSame : slot = other
  · rw [if_pos hSame, hSame, Table.get_set_same]
  · rw [if_neg hSame, Table.get_set_of_ne _ _ hSame, linkAt]

theorem linkAt_store_of_ne (machine : Machine source) {frame : Frame}
    (hFrame : frame ≠ machine.root) (slot other : Slot) (entry : Entry) :
    (machine.store frame slot entry).linkAt other = machine.linkAt other := by
  rw [linkAt, root_store, content_store_of_ne machine slot entry hFrame, linkAt]

theorem linkAt_clear_of_ne (machine : Machine source) {frame : Frame}
    (hFrame : frame ≠ machine.root) (other : Slot) :
    (machine.clear frame).linkAt other = machine.linkAt other := by
  rw [linkAt, root_clear, content_clear_of_ne machine hFrame, linkAt]

theorem link?_store_root {machine : Machine source} (hRoot : machine.Installed machine.root)
    (slot other : Slot) (entry : Entry) :
    (machine.store machine.root slot entry).link? other =
      if slot = other then entry.presentFrame? else machine.link? other := by
  rw [link?, linkAt_store_root hRoot]
  by_cases hSame : slot = other <;> simp [hSame, link?]

theorem link?_store_of_ne (machine : Machine source) {frame : Frame}
    (hFrame : frame ≠ machine.root) (slot other : Slot) (entry : Entry) :
    (machine.store frame slot entry).link? other = machine.link? other := by
  rw [link?, linkAt_store_of_ne machine hFrame, link?]

theorem link?_clear_of_ne (machine : Machine source) {frame : Frame}
    (hFrame : frame ≠ machine.root) (other : Slot) :
    (machine.clear frame).link? other = machine.link? other := by
  rw [link?, linkAt_clear_of_ne machine hFrame, link?]

/-! ## Separated tables -/

/-- The directory and the tables below the self-map slot are installed, and each
of their frames has one of these roles only. -/
structure Separated (machine : Machine source) : Prop where
  root_installed : machine.Installed machine.root
  table_installed : ∀ {slot table}, slot ≠ Layout.selfMapSlot →
    machine.link? slot = some table → machine.Installed table
  table_ne_root : ∀ {slot table}, slot ≠ Layout.selfMapSlot →
    machine.link? slot = some table → table ≠ machine.root
  slot_unique : ∀ {first second table}, first ≠ Layout.selfMapSlot →
    second ≠ Layout.selfMapSlot → machine.link? first = some table →
    machine.link? second = some table → first = second

/-- A store into the table of a page changes the entry of that page only. -/
theorem entryAt_store_table {machine : Machine source} (hSeparated : machine.Separated)
    {page other : VirtualPage} {table : Frame} (hPage : page.directorySlot ≠ Layout.selfMapSlot)
    (hOther : other.directorySlot ≠ Layout.selfMapSlot)
    (hLink : machine.link? page.directorySlot = some table) (entry : Entry) :
    (machine.store table page.tableSlot entry).entryAt other =
      if other = page then entry else machine.entryAt other := by
  have hRoot := hSeparated.table_ne_root hPage hLink
  have hInstalled := hSeparated.table_installed hPage hLink
  have hLinks := link?_store_of_ne machine hRoot page.tableSlot other.directorySlot entry
  cases hOtherLink : machine.link? other.directorySlot with
  | none =>
      have hDifferent : other ≠ page := by
        rintro rfl
        rw [hLink] at hOtherLink
        cases hOtherLink
      rw [hOtherLink] at hLinks
      rw [if_neg hDifferent, entryAt_of_unlinked hLinks, entryAt_of_unlinked hOtherLink]
  | some otherTable =>
      rw [hOtherLink] at hLinks
      rw [entryAt_of_linked hLinks, entryAt_of_linked hOtherLink]
      -- A page of the same table is another page if its position is another one.
      by_cases hTable : otherTable = table
      · subst hTable
        have hSlot := hSeparated.slot_unique hOther hPage hOtherLink hLink
        rw [content_store_same hInstalled]
        by_cases hPosition : page.tableSlot = other.tableSlot
        · rw [if_pos ((Page.eq_iff_slots_eq other page).mpr ⟨hSlot, hPosition.symm⟩),
            hPosition, Table.get_set_same]
        · have hDifferent : other ≠ page := by
            rintro rfl
            exact hPosition rfl
          rw [if_neg hDifferent, Table.get_set_of_ne _ _ hPosition]
      · have hDifferent : other ≠ page := by
          rintro rfl
          rw [hLink] at hOtherLink
          exact hTable (Option.some.inj hOtherLink).symm
        rw [if_neg hDifferent, content_store_of_ne machine _ _ (Ne.symm hTable)]

/-- A store of a link into the directory moves the pages of that slot to the
linked table, and no other page. -/
theorem entryAt_store_root {machine : Machine source} (hSeparated : machine.Separated)
    {slot : Slot} {entry : Entry} {table : Frame} (hPresent : entry.presentFrame? = some table)
    (hTable : table ≠ machine.root) {page : VirtualPage}
    (hPage : page.directorySlot ≠ Layout.selfMapSlot) :
    (machine.store machine.root slot entry).entryAt page =
      if slot = page.directorySlot then (machine.memory.content table).get page.tableSlot
      else machine.entryAt page := by
  have hLinks := link?_store_root hSeparated.root_installed slot page.directorySlot entry
  by_cases hSlot : slot = page.directorySlot
  · rw [if_pos hSlot, hPresent] at hLinks
    -- The linked table is not the directory, so it holds what it held.
    rw [if_pos hSlot, entryAt_of_linked hLinks,
      content_store_of_ne machine _ _ (Ne.symm hTable)]
  · rw [if_neg hSlot] at hLinks
    rw [if_neg hSlot]
    cases hLink : machine.link? page.directorySlot with
    | none =>
        rw [hLink] at hLinks
        rw [entryAt_of_unlinked hLinks, entryAt_of_unlinked hLink]
    | some other =>
        rw [hLink] at hLinks
        rw [entryAt_of_linked hLinks, entryAt_of_linked hLink,
          content_store_of_ne machine _ _ (Ne.symm (hSeparated.table_ne_root hPage hLink))]

/-- Storing into a frame that is neither the directory nor a table changes no
page. -/
theorem entryAt_store_unlinked (machine : Machine source) {frame : Frame} (slot : Slot)
    (entry : Entry) (hRoot : frame ≠ machine.root) {page : VirtualPage}
    (hUnlinked : machine.link? page.directorySlot ≠ some frame) :
    (machine.store frame slot entry).entryAt page = machine.entryAt page := by
  have hLinks := link?_store_of_ne machine hRoot slot page.directorySlot entry
  cases hLink : machine.link? page.directorySlot with
  | none =>
      rw [hLink] at hLinks
      rw [entryAt_of_unlinked hLinks, entryAt_of_unlinked hLink]
  | some table =>
      rw [hLink] at hLinks hUnlinked
      have hDifferent : frame ≠ table := fun hSame => hUnlinked (congrArg some hSame.symm)
      rw [entryAt_of_linked hLinks, entryAt_of_linked hLink,
        content_store_of_ne machine slot entry hDifferent]

/-- Clearing a frame other than the directory clears the pages whose table it is. -/
theorem entryAt_clear {machine : Machine source} {frame : Frame} (hRoot : frame ≠ machine.root)
    (hInstalled : machine.Installed frame) (page : VirtualPage) :
    (machine.clear frame).entryAt page =
      if machine.link? page.directorySlot = some frame then Entry.zero
      else machine.entryAt page := by
  have hLinks := link?_clear_of_ne machine hRoot page.directorySlot
  cases hLink : machine.link? page.directorySlot with
  | none =>
      rw [hLink] at hLinks
      rw [if_neg (by simp), entryAt_of_unlinked hLinks, entryAt_of_unlinked hLink]
  | some table =>
      rw [hLink] at hLinks
      rw [entryAt_of_linked hLinks, entryAt_of_linked hLink]
      by_cases hSame : table = frame
      · rw [if_pos (congrArg some hSame), hSame, content_clear_same hInstalled, Table.get_zero]
      · rw [if_neg (by simpa using hSame), content_clear_of_ne machine (Ne.symm hSame)]

end Machine

end TwoLevelPaging
