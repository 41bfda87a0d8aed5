import TwoLevelPaging.Slot
import TwoLevelPaging.Entry

/-!
# Paging structures

A page table and the page directory have the same shape: 1024 words, each read
as an entry.  A structure fills exactly one frame, so a frame of memory, seen
by the memory manager, is a `Table` too.
-/

namespace TwoLevelPaging

/-- The 1024 words of a paging structure. -/
structure Table where
  words : Vector UInt32 1024
  deriving DecidableEq

namespace Table

/-- The structure whose words all have this value. -/
def filled (word : UInt32) : Table :=
  ⟨Vector.replicate 1024 word⟩

/-- The structure without any entry. -/
def zero : Table :=
  filled 0

instance : Inhabited Table where
  default := zero

/-- The word of a slot. -/
def word (table : Table) (slot : Slot) : UInt32 :=
  table.words[slot.val]

/-- The entry of a slot. -/
def get (table : Table) (slot : Slot) : Entry :=
  Entry.ofWord (table.word slot)

/-- The structure with another word in a slot. -/
def setWord : Table → Slot → UInt32 → Table
  | ⟨words⟩, slot, word => ⟨words.set slot.val word⟩

/-- The structure with another entry in a slot. -/
def set (table : Table) (slot : Slot) (entry : Entry) : Table :=
  table.setWord slot entry.toWord

/-- Store an entry into `count` slots from a number on.  A number past the last
slot is a fault. -/
def fill (table : Table) (entry : Entry) (start : Nat) : Nat → Except Fault Table
  | 0 => .ok table
  | count + 1 => do
    let slot ← Slot.ofNat start
    (table.set slot entry).fill entry (start + 1) count

/-- Whether the slot's word is zero. -/
def isFreeAt (table : Table) (slot : Slot) : Bool :=
  table.word slot == 0

/-- The least free slot from `start` on. -/
def firstFree? (table : Table) (start : Slot) : Option Slot :=
  Slot.first? start table.isFreeAt

/-- The number of present entries. -/
def presentCount (table : Table) : Nat :=
  table.words.toList.countP fun word => (Flags.ofWord word).present

@[simp]
theorem word_filled (word : UInt32) (slot : Slot) : (filled word).word slot = word := by
  simp [filled, Table.word]

@[simp]
theorem get_zero (slot : Slot) : zero.get slot = Entry.zero := by
  simp [zero, get, Entry.zero]

theorem word_setWord (table : Table) (slot other : Slot) (word : UInt32) :
    (table.setWord slot word).word other = if slot = other then word else table.word other := by
  cases table
  simp only [setWord, Table.word, Vector.getElem_set, Fin.ext_iff]

@[simp]
theorem get_set_same (table : Table) (slot : Slot) (entry : Entry) :
    (table.set slot entry).get slot = entry := by
  simp [set, get, word_setWord]

theorem get_set_of_ne (table : Table) {slot other : Slot} (entry : Entry)
    (hDifferent : slot ≠ other) : (table.set slot entry).get other = table.get other := by
  simp [set, get, word_setWord, hDifferent]

/-- The search for a free slot does not go back. -/
theorem le_of_firstFree? {table : Table} {start free : Slot}
    (hFree : table.firstFree? start = some free) : start ≤ free :=
  ((Slot.first?_eq_some_iff start free table.isFreeAt).mp hFree).1

theorem isFreeAt_eq (table : Table) (slot : Slot) :
    table.isFreeAt slot = (table.get slot).isFree := by
  simp [isFreeAt, Entry.isFree, get]

@[ext]
theorem ext {first second : Table}
    (hSame : ∀ slot, first.get slot = second.get slot) : first = second := by
  obtain ⟨firstWords⟩ := first
  obtain ⟨secondWords⟩ := second
  congr 1
  ext position hInside
  have hEntries := congrArg Entry.toWord (hSame ⟨position, hInside⟩)
  simp only [get, Entry.toWord_ofWord, Table.word] at hEntries
  simp [hEntries]

end Table

end TwoLevelPaging
