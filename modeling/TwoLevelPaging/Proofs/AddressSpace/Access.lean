import TwoLevelPaging.Proofs.AddressSpace.View
import TwoLevelPaging.TableEdit

/-!
# Reaching the tables through either view

An access by physical address and an access through the self-map end at the same
frame, as long as the machine is `Navigable`: its tables are separated, and under
the self-map the last directory slot names the directory.  `Machine.Reaches` says
that a location ends at a frame; `Machine.tableLocation` is the location that the
current view uses for a table.

The statements of the form `run_…` open one action each.  The actions on tables
are only opened through them, so nothing above this file depends on which of the
two views is in use.
-/

namespace TwoLevelPaging

/-- The view lends frames and reaches the tables of all slots. -/
def View.Unrestricted (view : View) : Prop :=
  view.lendsFrames = true ∧ view.hiddenSlots = []

theorem View.Unrestricted.visible {view : View} (hOpen : view.Unrestricted) (slot : Slot) :
    view.hiddenSlots.contains slot = false := by
  rw [hOpen.2]
  rfl

namespace Machine

variable {source : Type} {machine : Machine source}

/-- The tables are separated, and the self-map is in place where it is used. -/
structure Navigable (machine : Machine source) : Prop extends machine.Separated where
  self_linked : machine.view.access = .selfMap →
    machine.link? Layout.selfMapSlot = some machine.root

/-- The location ends at an installed frame. -/
def Reaches (machine : Machine source) (location : Location) (frame : Frame) : Prop :=
  machine.Installed frame ∧ (Action.resolve location).run machine = .done frame machine

/-- The location of the directory in the current view. -/
def directoryLocation (machine : Machine source) : Location :=
  match machine.view.access with
  | .physical => .frame machine.root
  | .selfMap => .window Layout.directoryWindow

/-- The location of the table of a slot in the current view. -/
def tableLocation (machine : Machine source) (slot : Slot) (table : Frame) : Location :=
  match machine.view.access with
  | .physical => .frame table
  | .selfMap => .window (Layout.tableWindow slot)

theorem reaches_frame {frame : Frame} (hInstalled : machine.Installed frame) :
    machine.Reaches (.frame frame) frame :=
  ⟨hInstalled, rfl⟩

/-- The page walk to a page without a missing level ends at the page's entry. -/
theorem leaf?_of_present {page : VirtualPage} {table frame : Frame}
    (hRoot : machine.Installed machine.root) (hTable : machine.Installed table)
    (hLink : machine.link? page.directorySlot = some table)
    (hEntry : (machine.entryAt page).presentFrame? = some frame) :
    machine.memory.leaf? machine.root page = some (machine.entryAt page) := by
  have hPresent := ((Entry.presentFrame?_eq_some_iff _ _).mp hEntry).1
  have hRootTable : machine.memory.table? machine.root =
      some (machine.memory.content machine.root) := Memory.table?_eq_content hRoot
  have hLeafTable : machine.memory.table? table = some (machine.memory.content table) :=
    Memory.table?_eq_content hTable
  simp only [link?, linkAt] at hLink
  rw [entryAt_of_linked hLink] at hPresent ⊢
  simp [Memory.leaf?, hRootTable, hLink, hLeafTable, hPresent]

theorem reaches_window {page : VirtualPage} {table frame : Frame}
    (hRoot : machine.Installed machine.root) (hTable : machine.Installed table)
    (hFrame : machine.Installed frame) (hLink : machine.link? page.directorySlot = some table)
    (hEntry : (machine.entryAt page).presentFrame? = some frame) :
    machine.Reaches (.window page) frame := by
  refine ⟨hFrame, ?_⟩
  have hLeaf := leaf?_of_present hRoot hTable hLink hEntry
  have hSame := ((Entry.presentFrame?_eq_some_iff _ _).mp hEntry).2
  simp only [Action.run, Action.resolve, hLeaf, hSame]

/-- Behind a window page stands the directory entry of the slot that it shows. -/
theorem entryAt_tableWindow (hSelf : machine.link? Layout.selfMapSlot = some machine.root)
    (slot : Slot) : machine.entryAt (Layout.tableWindow slot) = machine.linkAt slot := by
  have hLink : machine.link? (Layout.tableWindow slot).directorySlot = some machine.root := by
    simpa [Layout.tableWindow] using hSelf
  rw [entryAt_of_linked hLink, linkAt, Layout.tableWindow, Page.tableSlot_ofSlots]

/-- Under the self-map, a linked table is seen at the window page of its slot. -/
theorem reaches_tableWindow (hSelf : machine.link? Layout.selfMapSlot = some machine.root)
    (hRoot : machine.Installed machine.root) {slot : Slot} {table : Frame}
    (hLink : machine.link? slot = some table) (hTable : machine.Installed table) :
    machine.Reaches (.window (Layout.tableWindow slot)) table := by
  have hWindow : machine.link? (Layout.tableWindow slot).directorySlot = some machine.root := by
    simpa [Layout.tableWindow] using hSelf
  refine reaches_window hRoot hRoot hTable hWindow ?_
  rw [entryAt_tableWindow hSelf]
  exact hLink

theorem Navigable.reaches_directoryLocation (hNavigable : machine.Navigable) :
    machine.Reaches machine.directoryLocation machine.root := by
  have hRoot := hNavigable.root_installed
  cases hAccess : machine.view.access with
  | physical =>
      simp only [directoryLocation, hAccess]
      exact reaches_frame hRoot
  | selfMap =>
      have hSelf := hNavigable.self_linked hAccess
      simp only [directoryLocation, hAccess]
      exact reaches_tableWindow hSelf hRoot hSelf hRoot

theorem Navigable.reaches_tableLocation (hNavigable : machine.Navigable) {slot : Slot}
    {table : Frame} (hLink : machine.link? slot = some table)
    (hTable : machine.Installed table) :
    machine.Reaches (machine.tableLocation slot table) table := by
  cases hAccess : machine.view.access with
  | physical =>
      simp only [tableLocation, hAccess]
      exact reaches_frame hTable
  | selfMap =>
      simp only [tableLocation, hAccess]
      exact reaches_tableWindow (hNavigable.self_linked hAccess) hNavigable.root_installed
        hLink hTable

end Machine

namespace Action

variable {source : Type} {machine : Machine source}

/-! ## Accesses to one structure -/

theorem run_loadTable {frame : Frame} (hInstalled : machine.Installed frame) :
    (loadTable frame).run machine = .done (machine.memory.content frame) machine :=
  run_loadTable_of_some (Memory.table?_eq_content hInstalled)

theorem run_locateFrame {frame : Frame} (hInstalled : machine.Installed frame) :
    (locateFrame frame).run machine = .done (.frame frame) machine := by
  simp [locateFrame, run_loadTable hInstalled]

theorem run_readTable {location : Location} {frame : Frame}
    (hReaches : machine.Reaches location frame) :
    (readTable location).run machine = .done (machine.memory.content frame) machine := by
  simp [readTable, hReaches.2, run_loadTable hReaches.1]

theorem run_readEntry {location : Location} {frame : Frame}
    (hReaches : machine.Reaches location frame) (slot : Slot) :
    (readEntry location slot).run machine =
      .done ((machine.memory.content frame).get slot) machine := by
  simp [readEntry, run_readTable hReaches]

theorem run_writeEntry {location : Location} {frame : Frame}
    (hReaches : machine.Reaches location frame) (slot : Slot) (entry : Entry) :
    (writeEntry location slot entry).run machine =
      .done () (machine.store frame slot entry) := by
  simp [writeEntry, hReaches.2, run_modifyTable_of_contains hReaches.1, Machine.store]

theorem run_clearTable {location : Location} {frame : Frame}
    (hReaches : machine.Reaches location frame) :
    (clearTable location).run machine = .done () (machine.clear frame) := by
  simp [clearTable, hReaches.2, run_modifyTable_of_contains hReaches.1, Machine.clear]

/-! ## Finding the structures of the address space -/

theorem run_directory (hNavigable : machine.Navigable) :
    directory.run machine = .done machine.directoryLocation machine := by
  cases hAccess : machine.view.access with
  | physical =>
      simp [directory, Machine.directoryLocation, hAccess,
        run_locateFrame hNavigable.root_installed]
  | selfMap => simp [directory, Machine.directoryLocation, hAccess]

theorem run_directoryEntry (hNavigable : machine.Navigable) (slot : Slot) :
    (directoryEntry slot).run machine = .done (machine.linkAt slot) machine := by
  simp [directoryEntry, run_directory hNavigable,
    run_readEntry hNavigable.reaches_directoryLocation, Machine.linkAt]

/-- The table of a slot is found where the slot links one that is installed. -/
theorem run_linkedTable? (hNavigable : machine.Navigable) {slot : Slot}
    (hInstalled : ∀ table, machine.link? slot = some table → machine.Installed table) :
    (linkedTable? slot).run machine =
      .done ((machine.link? slot).map (machine.tableLocation slot)) machine := by
  have hEntry := run_readEntry hNavigable.reaches_directoryLocation slot
  have hLink : ((machine.memory.content machine.root).get slot).presentFrame? =
      machine.link? slot := rfl
  cases hTable : machine.link? slot with
  | none =>
      rw [hTable] at hLink
      simp [linkedTable?, run_directory hNavigable, hEntry, hLink]
  | some table =>
      rw [hTable] at hLink
      have hTableInstalled := hInstalled table hTable
      cases hAccess : machine.view.access with
      | physical =>
          simp [linkedTable?, run_directory hNavigable, hEntry, hLink, hAccess,
            run_locateFrame hTableInstalled, Machine.tableLocation]
      | selfMap =>
          simp [linkedTable?, run_directory hNavigable, hEntry, hLink, hAccess,
            Machine.tableLocation]

theorem run_table? (hNavigable : machine.Navigable) {slot : Slot}
    (hVisible : machine.view.hiddenSlots.contains slot = false)
    (hInstalled : ∀ table, machine.link? slot = some table → machine.Installed table) :
    (table? slot).run machine =
      .done ((machine.link? slot).map (machine.tableLocation slot)) machine := by
  simp only [table?, run_bind, run_machine, Outcome.andThen_done, hVisible,
    Bool.false_eq_true, if_false]
  exact run_linkedTable? hNavigable hInstalled

/-- Reading the entry of a page answers with it, unless its slot has no table. -/
theorem run_entry? (hNavigable : machine.Navigable) {page : VirtualPage}
    (hVisible : machine.view.hiddenSlots.contains page.directorySlot = false)
    (hInstalled : ∀ table, machine.link? page.directorySlot = some table →
      machine.Installed table) :
    ( entry? page).run machine =
      .done ((machine.link? page.directorySlot).map fun _ => machine.entryAt page) machine := by
  have hTable := run_table? hNavigable hVisible hInstalled
  cases hLink : machine.link? page.directorySlot with
  | none =>
      rw [hLink] at hTable
      simp [ entry?, hTable]
  | some table =>
      rw [hLink] at hTable
      have hReaches := hNavigable.reaches_tableLocation hLink (hInstalled table hLink)
      simp [ entry?, hTable, run_readEntry hReaches, Machine.entryAt_of_linked hLink]

end Action

end TwoLevelPaging
