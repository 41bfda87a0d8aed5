import TwoLevelPaging.FrameBitmap.Survey
import TwoLevelPaging.TableEdit

/-!
# Access from outside

Looking at a machine and changing its memory from outside, as a debugger does:
single words by physical address, whole frames, and the paging structures that
memory holds.
-/

namespace TwoLevelPaging

namespace Memory

/-- The directory at a root, and the tables that it links below the self-map as
far as they are installed. -/
def addressSpace? (memory : Memory) (root : Frame) : Option (Table × List (Slot × Table)) :=
  (memory.table? root).map fun directory =>
    (directory, (List.finRange 1024).filterMap fun slot =>
      if slot = Layout.selfMapSlot then
        none
      else
        ((directory.get slot).presentFrame?.bind memory.table?).map fun table => (slot, table))

end Memory

namespace Action

variable {source : Type} {size : Nat}

/-- The slot of the word at a physical address in its frame. -/
def wordSlot (address : Address .physical) : Slot :=
  ⟨address.toNat / 4 % 1024, Nat.mod_lt _ (by decide)⟩

/-- The word at a physical address. -/
def peek (address : Address .physical) : Action source UInt32 := do
  let table ← loadTable (Page.containing address)
  return table.word (wordSlot address)

/-- Store a word at a physical address. -/
def poke (address : Address .physical) (word : UInt32) : Action source Unit :=
  modifyTable (Page.containing address) (fun table => table.setWord (wordSlot address) word)
    (.stored (Page.containing address) (wordSlot address))

/-- Store an arithmetic progression of words from a physical address on. -/
def pokeAll (address : Address .physical) (word step : UInt32) : Nat → Action source Unit
  | 0 => return ()
  | count + 1 => do
    poke address word
    pokeAll (Address.ofNat (address.toNat + 4)) (word + step) step count

/-- Fill a frame with a byte. -/
def fillFrame (frame : Frame) (byte : UInt8) : Action source Unit :=
  modifyTable frame (fun _ => Table.filled (UInt32.ofNat (byte.toNat * 0x01010101)))
    (.replaced frame)

/-- The directory entry and, if its table is reached, the table entry on the way
to a page. -/
def walk (page : VirtualPage) : Action source (Entry × Option Entry) := do
  let link ← directoryEntry page.directorySlot
  let leaf ← entry? page
  return (link, leaf)

/-- Hand out frames until `keep` are left.  The answer is their number and the
last one. -/
def drain (keep : Nat) : Action (FrameBitmap size) (Nat × Option Nat) :=
  onSource fun bitmap =>
    (bitmap.drain keep).map fun (taken, after) =>
      ((taken.length, taken.head?), after, taken.reverse.map .frameAllocated)

end Action

end TwoLevelPaging
