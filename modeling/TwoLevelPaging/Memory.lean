import TwoLevelPaging.Layout
import TwoLevelPaging.Table

/-!
# Physical memory

Memory is seen at the grain of the memory manager: frames of 1024 words.  Frames
past the installed ones do not exist; reading one gives nothing.

`Memory.leaf?` is the page walk of the processor: two look-ups in memory, each of
which must find a present entry.
-/

namespace TwoLevelPaging

/-- The installed frames, from physical address zero on. -/
structure Memory where
  frames : Array Table
  deriving DecidableEq

namespace Memory

/-- Zeroed memory of so many frames, at least one. -/
def zeroed (count : Nat) : Memory :=
  ⟨Array.replicate (max count 1) Table.zero⟩

/-- The number of installed frames. -/
def size (memory : Memory) : Nat :=
  memory.frames.size

/-- Whether the frame is installed. -/
def contains (memory : Memory) (frame : Frame) : Bool :=
  decide (frame.number < memory.size)

/-- The content of an installed frame. -/
def table? (memory : Memory) (frame : Frame) : Option Table :=
  memory.frames[frame.number]?

/-- Memory with the content of a frame changed, if the frame is installed. -/
def modify : Memory → Frame → (Table → Table) → Memory
  | ⟨frames⟩, frame, change => ⟨frames.modify frame.number change⟩

/-- The entry that the page walk from a directory ends at: both the directory
entry and the table entry are present, and both structures are installed. -/
def leaf? (memory : Memory) (root : Frame) (page : VirtualPage) : Option Entry :=
  match memory.table? root with
  | none => none
  | some directory =>
    match (directory.get page.directorySlot).presentFrame? with
    | none => none
    | some frame =>
      match memory.table? frame with
      | none => none
      | some table =>
        let entry := table.get page.tableSlot
        if entry.present then some entry else none

@[simp]
theorem size_modify (memory : Memory) (frame : Frame) (change : Table → Table) :
    (memory.modify frame change).size = memory.size := by
  simp [modify, size]

@[simp]
theorem table?_modify_same (memory : Memory) (frame : Frame) (change : Table → Table) :
    (memory.modify frame change).table? frame = (memory.table? frame).map change := by
  simp [modify, table?, Array.getElem?_modify]

theorem table?_modify_of_ne (memory : Memory) {frame other : Frame} (change : Table → Table)
    (hDifferent : frame ≠ other) :
    (memory.modify frame change).table? other = memory.table? other := by
  have hApart : frame.number ≠ other.number := fun hSame => hDifferent (Page.ext hSame)
  simp [modify, table?, Array.getElem?_modify, hApart]

theorem contains_iff (memory : Memory) (frame : Frame) :
    memory.contains frame = true ↔ ∃ table, memory.table? frame = some table := by
  rw [contains, decide_eq_true_iff]
  simp only [size, table?]
  constructor
  · intro hInside
    exact ⟨_, Array.getElem?_eq_getElem hInside⟩
  · rintro ⟨table, hFound⟩
    exact (Array.getElem?_eq_some_iff.mp hFound).1

end Memory

end TwoLevelPaging
