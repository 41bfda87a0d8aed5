import TwoLevelPaging.Entry.Text
import TwoLevelPaging.TableEdit

/-!
# The memory manager

Requests on the pages of one address space.  A page owns the frame that its entry
stores, whether or not the entry is present: `unmapPage` gives the frame back, and
so does `mapForced` with a frame that it displaces.  Memory that belongs to a
device is removed with `unmapDevice`, which gives nothing back.

Reserved pages are refused by every request that could change them, and searches
for a free page pass over them.

The flags of a mapping are named by a word, of which only the flags of `Flags`
count.
-/

namespace TwoLevelPaging

/-- What a look-up finds: the frame of an entry in use and its flags, or frame
zero without flags. -/
structure Mapping where
  frame : Frame := Page.ofNumber 0
  flags : Flags := {}
  deriving DecidableEq

namespace Mapping

/-- The physical address of the frame. -/
def physical (mapping : Mapping) : Address .physical :=
  mapping.frame.base

/-- Whether the page walk uses the mapping. -/
def isPresent (mapping : Mapping) : Bool :=
  mapping.flags.present

/-- What an entry of a reached table says about its page. -/
def ofEntry (entry : Entry) : Mapping :=
  if entry.isFree then {} else ⟨entry.frame, entry.toFlags⟩

/-- The mapping with its fields by name. -/
def debug (mapping : Mapping) : String :=
  Text.record "Mapping" [("frame", Text.decimal mapping.frame.number),
    ("physical", mapping.physical.debug), ("flags", (Entry.ofFlags mapping.flags).debug)]

end Mapping

namespace Action

variable {source : Type}

/-- The page of an address that must be aligned. -/
def alignedPage (address : Address .virtual) : Except MapError VirtualPage :=
  if address.isAligned .small then .ok (Page.containing address) else .error .invalidAddress

/-- The page and the frame of two addresses that must be aligned, and not null
where `rejectNull` is set. -/
def alignedPair (address : Address .virtual) (physical : Address .physical)
    (rejectNull : Bool) : Except MapError (VirtualPage × Frame) :=
  if rejectNull && (address.isNull || physical.isNull) then
    .error .invalidAddress
  else if !physical.isAligned .small then
    .error .invalidAddress
  else
    (alignedPage address).map fun page => (page, Page.containing physical)

/-- Refuse a request on a reserved page. -/
def refuseReserved (request : Request) (address : Address .virtual) :
    Action source (Except MapError Unit) := do
  if Layout.isReserved (Page.containing address) then
    report (.requestRefused request address)
    return .error .protectedRegion
  else
    return .ok ()

/-- Make a frame into a directory without any mapping but the self-map. -/
def prepareDirectory (frame : Frame) (location : Location) : Action source Unit := do
  clearTable location
  writeEntry location Layout.selfMapSlot (Entry.link frame .selfMap)

/-- Take a frame for a new directory and prepare it. -/
def newDirectory [FrameSource source] : Action source (Except MapError Frame) := do
  match ← takeFrame with
  | none => return .error .outOfMemory
  | some frame =>
    match ← withFrame frame (prepareDirectory frame) with
    | none =>
      giveFrame frame
      return .error .unreachable
    | some () =>
      report (.directoryPrepared frame)
      return .ok frame

/-- Map a frame to the first free page from an address on.  The answer is that
page. -/
def mapPage [FrameSource source] (address : Address .virtual) (physical : Address .physical)
    (flags : UInt32) : Action source (Except MapError VirtualPage) := do
  match alignedPair address physical true with
  | .error error => return .error error
  | .ok (page, frame) =>
    match ← refuseReserved .map address with
    | .error error => return .error error
    | .ok () =>
      match ← findFree page with
      | none => return .error .exhausted
      | some free =>
        match ← install free frame flags false with
        | .error error => return .error (.ofLinkError error)
        | .ok _ =>
          report (.pageMapped free frame)
          return .ok free

/-- Give a frame back that a forced mapping displaced. -/
def giveDisplaced [FrameSource source] (page : VirtualPage) (displaced : Frame) :
    Action source Unit := do
  report (.frameDisplaced page displaced)
  giveFrame displaced

/-- Map a frame to the page of an address, whatever is mapped there.  A frame
that is displaced, unless it is the same one, is given back. -/
def mapForced [FrameSource source] (address : Address .virtual) (physical : Address .physical)
    (flags : UInt32) : Action source (Except MapError VirtualPage) := do
  match alignedPair address physical true with
  | .error error => return .error error
  | .ok (page, frame) =>
    match ← refuseReserved .mapForced address with
    | .error error => return .error error
    | .ok () =>
      match ← install page frame flags true with
      | .error error => return .error (.ofLinkError error)
      | .ok none => return .ok page
      | .ok (some displaced) =>
        onlyIf (displaced != frame) (giveDisplaced page displaced)
        return .ok page

/-- Map a frame to the page of an address unless something else is mapped
there. -/
def setMapping [FrameSource source] (address : Address .virtual) (physical : Address .physical)
    (flags : UInt32) : Action source (Except MapError Unit) := do
  match alignedPair address physical false with
  | .error error => return .error error
  | .ok (page, frame) =>
    match ← refuseReserved .setMapping address with
    | .error error => return .error error
    | .ok () =>
      match ← install page frame flags false with
      | .ok _ => return .ok ()
      | .error .occupied =>
        let existing ← entry? page
        if existing.bind Entry.storedFrame? = some frame then
          return .ok ()
        else
          return .error .conflict
      | .error error => return .error (.ofLinkError error)

/-- Clear the entry of a page and give the frame back that it stored. -/
def releasePage [FrameSource source] (page : VirtualPage) : Action source Unit := do
  let previous ← remove page
  match previous.bind Entry.storedFrame? with
  | none => return ()
  | some frame => giveFrame frame

/-- Unmap a page and give its frame back. -/
def unmapPage [FrameSource source] (address : Address .virtual) :
    Action source (Except MapError Unit) := do
  match alignedPage address with
  | .error error => return .error error
  | .ok page =>
    match ← refuseReserved .unmap address with
    | .error error => return .error error
    | .ok () =>
      releasePage page
      return .ok ()

/-- Unmap a page whose frame belongs to a device. -/
def unmapDevice (address : Address .virtual) : Action source (Except MapError Unit) := do
  match alignedPage address with
  | .error error => return .error error
  | .ok page =>
    match ← refuseReserved .unmapDevice address with
    | .error error => return .error error
    | .ok () =>
      let _ ← remove page
      return .ok ()

/-- Back the first free page from an address on with a new frame. -/
def allocatePage [FrameSource source] (address : Address .virtual) (flags : UInt32) :
    Action source (Except MapError VirtualPage) := do
  match ← takeFrame with
  | none => return .error .outOfMemory
  | some frame =>
    match ← mapPage address frame.base flags with
    | .ok used => return .ok used
    | .error error =>
      giveFrame frame
      return .error error

/-- Back one page of a run with a new frame. -/
def backPage [FrameSource source] (page : VirtualPage) (flags : UInt32) :
    Action source (Except MapError Unit) := do
  match ← refuseReserved .allocatePages page.base with
  | .error error => return .error error
  | .ok () =>
    match ← takeFrame with
    | none => return .error .outOfMemory
    | some frame =>
      match ← install page frame flags false with
      | .ok _ => return .ok ()
      | .error error =>
        giveFrame frame
        return .error (.ofLinkError error)

/-- The page at a position behind the first one of a run. -/
def pageAt (first : VirtualPage) (position : Nat) : Action source VirtualPage := do
  let number ← check (Checked.word (first.number + position))
  return Page.ofNumber number

/-- Back `count` pages of a run from a position on.  A failure comes with the
position of the page that could not be backed. -/
def backPages [FrameSource source] (first : VirtualPage) (flags : UInt32) (position : Nat) :
    Nat → Action source (Except (Nat × MapError) Unit)
  | 0 => return .ok ()
  | count + 1 => do
    let page ← pageAt first position
    match ← backPage page flags with
    | .error error => return .error (position, error)
    | .ok () => backPages first flags (position + 1) count

/-- Release `count` pages of a run from a position on. -/
def releasePages [FrameSource source] (first : VirtualPage) (position : Nat) :
    Nat → Action source Unit
  | 0 => return ()
  | count + 1 => do
    let page ← pageAt first position
    releasePage page
    releasePages first (position + 1) count

/-- Back all pages of a byte range with new frames, or none of them. -/
def allocatePages [FrameSource source] (address : Address .virtual) (bytes : UInt32)
    (flags : UInt32) : Action source (Except MapError Unit) := do
  match alignedPage address with
  | .error error => return .error error
  | .ok first =>
    if bytes.toNat % Layout.pageBytes ≠ 0 ∨ 0x100000000 < address.toNat + bytes.toNat then
      return .error .invalidAddress
    else
      let pages := bytes.toNat / Layout.pageBytes
      match ← backPages first flags 0 pages with
      | .ok () => return .ok ()
      | .error (position, error) =>
        report (.backingFailed pages address position error)
        releasePages first 0 position
        return .error error

/-- What is mapped to the page of an address. -/
def lookup (address : Address .virtual) : Action source Mapping := do
  match ← entry? (Page.containing address) with
  | none => return {}
  | some entry => return Mapping.ofEntry entry

/-- The physical address behind an address, if its page is present. -/
def physicalAddress? (address : Address .virtual) : Action source (Option (Address .physical)) := do
  let entry ← entry? (Page.containing address)
  return (entry.bind Entry.presentFrame?).map fun frame => frame.join (Offset.ofAddress address)

end Action

end TwoLevelPaging
