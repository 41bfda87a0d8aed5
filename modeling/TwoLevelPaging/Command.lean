import TwoLevelPaging.Mapping

/-!
# Requests as data

A `Command` is a request to the memory manager with its arguments, and a `Reply`
is the answer to one.
-/

namespace TwoLevelPaging

/-- A request with its arguments.  Flags are given by a whole word, of any value. -/
inductive Command where
  | mapPage (address : Address .virtual) (physical : Address .physical) (flags : UInt32)
  | mapForced (address : Address .virtual) (physical : Address .physical) (flags : UInt32)
  | setMapping (address : Address .virtual) (physical : Address .physical) (flags : UInt32)
  | unmapPage (address : Address .virtual)
  | unmapDevice (address : Address .virtual)
  | allocatePage (address : Address .virtual) (flags : UInt32)
  | allocatePages (address : Address .virtual) (bytes : UInt32) (flags : UInt32)
  | lookup (address : Address .virtual)
  | physicalAddress (address : Address .virtual)
  | newDirectory
  deriving DecidableEq

/-- The answer to a request. -/
inductive Reply where
  /-- The page that was mapped. -/
  | mapped (result : Except MapError VirtualPage)
  | settled (result : Except MapError Unit)
  | found (mapping : Mapping)
  | located (physical : Option (Address .physical))
  /-- The frame of a new directory. -/
  | created (result : Except MapError Frame)

namespace Command

variable {source : Type} [FrameSource source]

/-- Do what the request asks for. -/
def perform : Command → Action source Reply
  | mapPage address physical flags => .mapped <$> Action.mapPage address physical flags
  | mapForced address physical flags => .mapped <$> Action.mapForced address physical flags
  | setMapping address physical flags => .settled <$> Action.setMapping address physical flags
  | unmapPage address => .settled <$> Action.unmapPage address
  | unmapDevice address => .settled <$> Action.unmapDevice address
  | allocatePage address flags => .mapped <$> Action.allocatePage address flags
  | allocatePages address bytes flags => .settled <$> Action.allocatePages address bytes flags
  | lookup address => .found <$> Action.lookup address
  | physicalAddress address => .located <$> Action.physicalAddress? address
  | newDirectory => .created <$> Action.newDirectory

end Command

end TwoLevelPaging
