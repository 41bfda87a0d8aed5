import TwoLevelPaging.Window

/-!
# Editing the tables

The tables of one address space, an entry at a time:

* `ensureTable` links a zeroed table to a slot that has none, and admits
  unprivileged code to a slot that needs it;
* `install` writes one mapping and hands back the frame that it displaces;
* `remove` clears one entry and hands it back;
* `findFree` is the forward search for a page without an entry.

Frames that leave an entry are handed back, never freed here, and a table stays
linked for good.  The view is asked to invalidate the page of an entry that was in
use, and the window of a table that is linked.
-/

namespace TwoLevelPaging
namespace Action

variable {source : Type}

/-- The directory entry of a slot. -/
def directoryEntry (slot : Slot) : Action source Entry := do
  let root ← directory
  readEntry root slot

/-- The table entry of a page, if its table is reached. -/
def entry? (page : VirtualPage) : Action source (Option Entry) := do
  match ← table? page.directorySlot with
  | none => return none
  | some table => some <$> readEntry table page.tableSlot

/-- Write a directory entry that links a frame, and have the window that shows the
table invalidated. -/
def linkTable (slot : Slot) (frame : Frame) (flags : Flags) : Action source Unit := do
  let root ← directory
  writeEntry root slot (Entry.link frame flags)
  invalidate (Layout.tableWindow slot)

/-- See that a slot links a table.  The answer tells whether the table is new. -/
def ensureLink [FrameSource source] (slot : Slot) (user : Bool) :
    Action source (Except LinkError Bool) := do
  let link ← directoryEntry slot
  match link.presentFrame? with
  | some frame =>
    onlyIf (user && !link.user) (linkTable slot frame { link.toFlags with user := true })
    return .ok false
  | none =>
    match ← takeFrame with
    | none => return .error .outOfMemory
    | some frame =>
      linkTable slot frame { Flags.kernelReadWrite with user := user }
      report (.tableLinked frame slot)
      return .ok true

/-- The location of the table of a slot, linking a zeroed table first if there
is none.  The self-map slot must not be asked for. -/
def ensureTable [FrameSource source] (slot : Slot) (user : Bool) :
    Action source (Except LinkError Location) := do
  if slot = Layout.selfMapSlot then
    fault .violated
  else
    match ← ensureLink slot user with
    | .error error => return .error error
    | .ok created =>
      match ← table? slot with
      | none => return .error (.tableUnreachable slot.val)
      | some table =>
        onlyIf created (clearTable table)
        return .ok table

/-- Map a page to a frame.  An entry in use is replaced only if `forced`, and
then its frame is the answer. -/
def install [FrameSource source] (page : VirtualPage) (frame : Frame) (flags : UInt32)
    (forced : Bool) : Action source (Except LinkError (Option Frame)) := do
  match ← ensureTable page.directorySlot (Flags.ofWord flags).user with
  | .error error => return .error error
  | .ok table =>
    let previous ← readEntry table page.tableSlot
    if !previous.isFree && !forced then
      return .error .occupied
    else
      writeEntry table page.tableSlot (Entry.leaf frame flags)
      onlyIf (!previous.isFree) (invalidate page)
      return .ok previous.storedFrame?

/-- Clear the entry of a page.  The answer is the entry as it was, if the table
is reached. -/
def remove (page : VirtualPage) : Action source (Option Entry) := do
  match ← table? page.directorySlot with
  | none => return none
  | some table =>
    let previous ← readEntry table page.tableSlot
    writeEntry table page.tableSlot Entry.zero
    invalidate page
    return some previous

/-- The least free table slot of a directory slot, from `start` on.  Without a table
that is `start` itself. -/
def freeSlot? (slot start : Slot) : Action source (Option { free : Slot // start ≤ free }) := do
  match ← table? slot with
  | none => return some ⟨start, Fin.le_refl start⟩
  | some location =>
    let table ← readTable location
    return (table.firstFree? start).attachWith (start ≤ ·) fun _ => Table.le_of_firstFree?

/-- The first free page of a directory slot that is not reserved, from a table
slot on.  Behind a reserved page the table is asked again. -/
def findFreeIn (slot start : Slot) : Action source (Option VirtualPage) := do
  match ← freeSlot? slot start with
  | none => return none
  | some ⟨free, hReached⟩ =>
    if Layout.isReserved (Page.ofSlots slot free) then
      match hNext : free.next? with
      | none => return none
      | some next =>
        have := Slot.distance_lt hReached hNext
        findFreeIn slot next
    else
      return some (Page.ofSlots slot free)
termination_by 1024 - start.val

/-- The first free page that is not reserved, from these slots on and below the
self-map. -/
def findFreeFrom (slot start : Slot) : Action source (Option VirtualPage) := do
  if slot.val < Layout.selfMapSlot.val then
    match ← findFreeIn slot start with
    | some page => return some page
    | none =>
      match hNext : slot.next? with
      | none => return none
      | some next =>
        have := Slot.distance_lt (Fin.le_refl slot) hNext
        findFreeFrom next 0
  else
    return none
termination_by 1024 - slot.val

/-- The first free page that is not reserved, from this page on. -/
def findFree (page : VirtualPage) : Action source (Option VirtualPage) :=
  findFreeFrom page.directorySlot page.tableSlot

end Action
end TwoLevelPaging
