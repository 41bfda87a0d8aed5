import TwoLevelPaging.Entry
import TwoLevelPaging.Text.Record

/-!
# Fields of an entry by name

Access to the flags of an entry one at a time, changes of its other fields, and
the text that lists them all.
-/

namespace TwoLevelPaging

/-- One of the eight flags. -/
inductive Flag where
  | present
  | writable
  | user
  | writeThrough
  | cacheDisabled
  | accessed
  | dirty
  | large
  deriving DecidableEq

namespace Flag

/-- The flags in the order of their bits. -/
def all : List Flag :=
  [present, writable, user, writeThrough, cacheDisabled, accessed, dirty, large]

/-- The name of the flag as it is shown. -/
def name : Flag → String
  | present => "present"
  | writable => "writable"
  | user => "user_access"
  | writeThrough => "write_through"
  | cacheDisabled => "cache_disabled"
  | accessed => "accessed"
  | dirty => "dirty"
  | large => "large_page"

end Flag

namespace Flags

/-- Whether the flag is set. -/
def get (flags : Flags) : Flag → Bool
  | .present => flags.present
  | .writable => flags.writable
  | .user => flags.user
  | .writeThrough => flags.writeThrough
  | .cacheDisabled => flags.cacheDisabled
  | .accessed => flags.accessed
  | .dirty => flags.dirty
  | .large => flags.large

/-- The flags with one of them changed. -/
def set (flags : Flags) (flag : Flag) (value : Bool) : Flags :=
  match flag with
  | .present => { flags with present := value }
  | .writable => { flags with writable := value }
  | .user => { flags with user := value }
  | .writeThrough => { flags with writeThrough := value }
  | .cacheDisabled => { flags with cacheDisabled := value }
  | .accessed => { flags with accessed := value }
  | .dirty => { flags with dirty := value }
  | .large => { flags with large := value }

end Flags

namespace Entry

/-- The entry with one flag changed. -/
def setFlag (entry : Entry) (flag : Flag) (value : Bool) : Entry :=
  { entry with toFlags := entry.toFlags.set flag value }

/-- The entry with another frame. -/
def setFrame (entry : Entry) (frame : Frame) : Entry :=
  { entry with frame := frame }

/-- The entry with another value in the bits left to the system, if the value
fits the four bits. -/
def setAvailable? (entry : Entry) (value : Nat) : Option Entry :=
  if hFits : value < 16 then some { entry with available := ⟨value, hFits⟩ } else none

/-- The entry with another value in the bits left to the system; a value that
does not fit is a fault. -/
def setAvailable (entry : Entry) (value : Nat) : Except Fault Entry :=
  match entry.setAvailable? value with
  | some changed => .ok changed
  | none => .error .violated

/-- The entry with its fields by name. -/
def debug (entry : Entry) : String :=
  Text.record "PageEntryBits"
    ((Flag.all.map fun flag => (flag.name, Text.bool (entry.toFlags.get flag))) ++
      [("os_available", Text.decimal entry.available.val),
        ("frame_bits", Text.decimal entry.frame.number)])

/-- The entry as the content of a directory slot. -/
def directoryDebug (entry : Entry) : String :=
  Text.wrapped "PdEntry" entry.debug

end Entry

end TwoLevelPaging
