import TwoLevelPaging.Machine

/-!
# Reaching paging structures

A paging structure is reached at a `Location`: a frame of memory, or a page of
the self-map, which every single access looks up anew by the page walk from
the root directory.  The view of the machine decides which of the two it is.

A frame that no table links is edited through `withFrame`.  Under the self-map
it is put into the scratch page for that time, which fails if the scratch page
is in use already.  The view flushes the scratch page when it has put the frame
there and when it has cleared the entry again.
-/

namespace TwoLevelPaging

/-- Where a paging structure is reached. -/
inductive Location where
  | frame (frame : Frame)
  | window (page : VirtualPage)
  deriving DecidableEq

namespace Action

variable {source α : Type}

/-- The frame behind a location.  A window that the page walk does not
reach is a fault. -/
def resolve (location : Location) : Action source Frame :=
  fun machine =>
    match location with
    | .frame frame => .done frame machine
    | .window page =>
      match machine.memory.leaf? machine.root page with
      | some entry => .done entry.frame machine
      | none => .fault .unmapped machine.journal

/-- The structure at a location. -/
def readTable (location : Location) : Action source Table := do
  let frame ← resolve location
  loadTable frame

/-- The entry of a slot of the structure at a location. -/
def readEntry (location : Location) (slot : Slot) : Action source Entry := do
  let table ← readTable location
  return table.get slot

/-- Store an entry into the structure at a location. -/
def writeEntry (location : Location) (slot : Slot) (entry : Entry) : Action source Unit := do
  let frame ← resolve location
  modifyTable frame (fun table => table.set slot entry) (.stored frame slot)

/-- Clear all entries of the structure at a location. -/
def clearTable (location : Location) : Action source Unit := do
  let frame ← resolve location
  modifyTable frame (fun _ => Table.zero) (.replaced frame)

/-- The location of a frame, which must be installed. -/
def locateFrame (frame : Frame) : Action source Location := do
  let _ ← loadTable frame
  return .frame frame

/-- The location of the root directory. -/
def directory : Action source Location := do
  let current ← machine
  match current.view.access with
  | .physical => locateFrame current.root
  | .selfMap => return .window Layout.directoryWindow

/-- The location of the table of a slot, if the slot is present, whatever the
view hides. -/
def linkedTable? (slot : Slot) : Action source (Option Location) := do
  let root ← directory
  let link ← readEntry root slot
  match link.presentFrame? with
  | none => return none
  | some frame =>
    let current ← machine
    match current.view.access with
    | .physical => some <$> locateFrame frame
    | .selfMap => return some (.window (Layout.tableWindow slot))

/-- The location of the table of a slot, if the slot is present and the view
reaches it. -/
def table? (slot : Slot) : Action source (Option Location) := do
  let current ← machine
  if current.view.hiddenSlots.contains slot then
    return none
  else
    linkedTable? slot

/-- Put a frame into the scratch page, whose table this is. -/
def fillScratch (table : Location) (frame : Frame) : Action source Unit := do
  writeEntry table Layout.scratchPage.tableSlot (Entry.leaf frame Flags.kernelReadWrite.word)
  flush Layout.scratchPage

/-- Clear the entry of the scratch page, if the scratch table is present. -/
def clearScratch : Action source Unit := do
  match ← linkedTable? Layout.scratchPage.directorySlot with
  | none => flush Layout.scratchPage
  | some table =>
    writeEntry table Layout.scratchPage.tableSlot Entry.zero
    flush Layout.scratchPage

/-- Edit a frame through the scratch page.  Nothing is done if the scratch table
is missing or the scratch page is in use. -/
def withScratchPage (frame : Frame) (edit : Location → Action source α) :
    Action source (Option α) := do
  match ← linkedTable? Layout.scratchPage.directorySlot with
  | none => return none
  | some table =>
    let entry ← readEntry table Layout.scratchPage.tableSlot
    if entry.isFree then
      fillScratch table frame
      let result ← edit (.window Layout.scratchPage)
      clearScratch
      return some result
    else
      return none

/-- Edit a frame that no table needs to link, if the view lends it. -/
def withFrame (frame : Frame) (edit : Location → Action source α) :
    Action source (Option α) := do
  let current ← machine
  if current.view.lendsFrames then
    match current.view.access with
    | .physical => do
      let location ← locateFrame frame
      some <$> edit location
    | .selfMap => withScratchPage frame edit
  else
    return none

end Action

end TwoLevelPaging
