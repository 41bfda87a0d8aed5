import TwoLevelPaging.Text.Explained
import TwoLevelPaging.Text.Record

/-!
# Why a mapping is refused

`LinkError` is the failure of an edit of the tables, `MapError` that of a
request to the memory manager; the latter hides the causes that only the tables
know (`MapError.ofLinkError`).
-/

namespace TwoLevelPaging

/-- Why the tables cannot be edited. -/
inductive LinkError where
  /-- No frame is left for a new table. -/
  | outOfMemory
  /-- The entry is in use and may not be replaced. -/
  | occupied
  /-- The table of the directory slot of this number cannot be reached. -/
  | tableUnreachable (slot : Nat)
  deriving DecidableEq

namespace LinkError

/-- The kind of the error by name. -/
def name : LinkError → String
  | outOfMemory => "OutOfMemory"
  | occupied => "Occupied"
  | tableUnreachable _ => "TableUnreachable"

/-- The error in a sentence. -/
def message : LinkError → String
  | outOfMemory => "out of physical memory while allocating a page table"
  | occupied => "the page is already mapped"
  | tableUnreachable slot =>
      "the table of directory slot " ++ Text.decimal slot ++ " cannot be reached"

/-- The kind of the error with its slot. -/
def debug (error : LinkError) : String :=
  match error with
  | tableUnreachable slot => Text.wrapped error.name (Text.decimal slot)
  | _ => error.name

instance : Explained LinkError where
  name := name
  debug := debug
  message := message

end LinkError

/-- Why the memory manager refuses a request. -/
inductive MapError where
  | outOfMemory
  | invalidAddress
  | conflict
  | protectedRegion
  | exhausted
  | unreachable
  deriving DecidableEq

namespace MapError

/-- All refusals. -/
def all : List MapError :=
  [outOfMemory, invalidAddress, conflict, protectedRegion, exhausted, unreachable]

/-- The kind of the error by name. -/
def name : MapError → String
  | outOfMemory => "OutOfPhysicalMemory"
  | invalidAddress => "InvalidAddress"
  | conflict => "MappingConflict"
  | protectedRegion => "ProtectedRegion"
  | exhausted => "AddressSpaceExhausted"
  | unreachable => "FrameWindowUnavailable"

/-- The error in a sentence. -/
def message : MapError → String
  | outOfMemory => "out of physical memory"
  | invalidAddress => "null or misaligned address"
  | conflict => "the page is already mapped to a different frame"
  | protectedRegion => "the address lies in the self-map window or a reserved kernel page"
  | exhausted => "no free page left below the self-map window"
  | unreachable => "the frame or table cannot be reached through the current view"

/-- What a failed edit of the tables means to the one who asked for it. -/
def ofLinkError : LinkError → MapError
  | .outOfMemory => outOfMemory
  | .occupied => conflict
  | .tableUnreachable _ => unreachable

instance : Explained MapError where
  name := name
  debug := name
  message := message

end MapError

/-- Why memory could not be brought up. -/
inductive BringUpError where
  /-- The address space could not be completed. -/
  | mapping (error : MapError)
  /-- The frame bitmap has an owner already. -/
  | framesTaken
  deriving DecidableEq

namespace BringUpError

/-- The kind of the error by name. -/
def name : BringUpError → String
  | mapping _ => "Vmm"
  | framesTaken => "FramesTaken"

/-- The error in a sentence. -/
def message : BringUpError → String
  | mapping error => "virtual memory: " ++ error.message
  | framesTaken => "the frame allocator was already handed out"

/-- The kind of the error with its cause. -/
def debug (error : BringUpError) : String :=
  match error with
  | mapping cause => Text.wrapped error.name cause.name
  | framesTaken => error.name

instance : Explained BringUpError where
  name := name
  debug := debug
  message := message

end BringUpError

end TwoLevelPaging
