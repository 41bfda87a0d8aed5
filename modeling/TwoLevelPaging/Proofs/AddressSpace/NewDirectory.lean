import TwoLevelPaging.Mapping
import TwoLevelPaging.Proofs.AddressSpace.WellFormed

/-!
# Making a directory

A new directory is a frame that no table links.  By physical address it is edited in
place; through the self-map it is put into the scratch page for that time.  The
memory is the same afterwards, because the entry of the scratch page was free and is
cleared again (`memory_giveUp`).

The two runs differ in their stores and flushes only: the self-map adds the stores to
the scratch table and the flushes of the scratch page.
-/

namespace TwoLevelPaging

namespace Layout

theorem directorySlot_scratchPage_ne : scratchPage.directorySlot ≠ selfMapSlot := by
  decide

end Layout

namespace Memory

/-- Memory is what its frames hold, counted from zero on. -/
theorem ext_frames {first second : Memory}
    (hFrames : ∀ number : Nat, first.frames[number]? = second.frames[number]?) :
    first = second := by
  obtain ⟨firstFrames⟩ := first
  obtain ⟨secondFrames⟩ := second
  exact congrArg Memory.mk (Array.ext_getElem? hFrames)

theorem frames_modify (memory : Memory) (frame : Frame) (change : Table → Table) (number : Nat) :
    (memory.modify frame change).frames[number]? =
      if frame.number = number then memory.frames[number]?.map change
      else memory.frames[number]? := by
  simp [modify, Array.getElem?_modify]

end Memory

namespace Machine

variable {source : Type} {machine before after last : Machine source} {frame table : Frame}

/-! ## Edits beside the tables -/

/-- Only frames that no slot links have changed. -/
structure Aside (before after : Machine source) : Prop where
  stays : Stays before after
  source_eq : after.source = before.source
  links : ∀ slot, after.linkAt slot = before.linkAt slot
  entries : ∀ page, after.entryAt page = before.entryAt page

theorem Aside.trans (hFirst : Aside before after) (hSecond : Aside after last) :
    Aside before last :=
  ⟨hFirst.stays.trans hSecond.stays, hSecond.source_eq.trans hFirst.source_eq,
    fun slot => (hSecond.links slot).trans (hFirst.links slot),
    fun page => (hSecond.entries page).trans (hFirst.entries page)⟩

theorem Aside.link? (hAside : Aside before after) (slot : Slot) :
    after.link? slot = before.link? slot := by
  rw [Machine.link?, hAside.links, Machine.link?]

theorem Aside.walkable (hAside : Aside before after) (hWalkable : before.Walkable) :
    after.Walkable :=
  hWalkable.congr hAside.stays hAside.link?

theorem Aside.fresh (hAside : Aside before after) (hFresh : before.Fresh frame) :
    after.Fresh frame where
  installed := (hAside.stays.installed frame).mpr hFresh.installed
  ne_root := by
    rw [hAside.stays.root]
    exact hFresh.ne_root
  unlinked slot := by
    rw [hAside.link?]
    exact hFresh.unlinked slot

theorem aside_clear (hFresh : machine.Fresh frame) : Aside machine (machine.clear frame) where
  stays := machine.stays_clear frame
  source_eq := rfl
  links := machine.linkAt_clear_of_ne hFresh.ne_root
  entries page := by
    rw [entryAt_clear hFresh.ne_root hFresh.installed, if_neg (hFresh.unlinked _)]

theorem aside_store (hFresh : machine.Fresh frame) (slot : Slot) (entry : Entry) :
    Aside machine (machine.store frame slot entry) where
  stays := machine.stays_store frame slot entry
  source_eq := rfl
  links other := machine.linkAt_store_of_ne hFresh.ne_root slot other entry
  entries _ := machine.entryAt_store_unlinked slot entry hFresh.ne_root (hFresh.unlinked _)

/-- The machine with a frame made into a directory that maps nothing but itself. -/
def found (machine : Machine source) (frame : Frame) : Machine source :=
  (machine.clear frame).store frame Layout.selfMapSlot (Entry.link frame .selfMap)

theorem aside_found (hFresh : machine.Fresh frame) : Aside machine (machine.found frame) :=
  (aside_clear hFresh).trans (aside_store ((aside_clear hFresh).fresh hFresh) _ _)

theorem content_found (hInstalled : machine.Installed frame) :
    (machine.found frame).memory.content frame =
      Table.zero.set Layout.selfMapSlot (Entry.link frame .selfMap) := by
  unfold found
  rw [content_store_same ((machine.installed_clear frame frame).mpr hInstalled),
    content_clear_same hInstalled]

/-! ## The scratch page -/

/-- The machine with a frame put into the scratch page, which is flushed. -/
def borrow (machine : Machine source) (table frame : Frame) : Machine source :=
  (machine.store table Layout.scratchPage.tableSlot
    (Entry.leaf frame Flags.kernelReadWrite.word)).note (.flushed Layout.scratchPage)

/-- The machine with the scratch page cleared and flushed. -/
def giveUp (machine : Machine source) (table : Frame) : Machine source :=
  (machine.store table Layout.scratchPage.tableSlot Entry.zero).note
    (.flushed Layout.scratchPage)

/-- Editing a frame in the scratch page leaves the memory as editing it in place
does. -/
theorem memory_giveUp (hInstalled : machine.Installed table)
    (hFree : (machine.memory.content table).get Layout.scratchPage.tableSlot = Entry.zero)
    (hDifferent : table ≠ frame) :
    (((machine.borrow table frame).found frame).giveUp table).memory =
      (machine.found frame).memory := by
  have hNumbers : table.number ≠ frame.number := fun hSame => hDifferent (Page.ext hSame)
  have hTable : machine.memory.frames[table.number]? = some (machine.memory.content table) :=
    Memory.table?_eq_content hInstalled
  have hRestored : ((machine.memory.content table).set Layout.scratchPage.tableSlot
      (Entry.leaf frame Flags.kernelReadWrite.word)).set Layout.scratchPage.tableSlot Entry.zero =
        machine.memory.content table := by
    apply Table.ext
    intro slot
    by_cases hSlot : Layout.scratchPage.tableSlot = slot
    · rw [← hSlot, Table.get_set_same, hFree]
    · rw [Table.get_set_of_ne _ _ hSlot, Table.get_set_of_ne _ _ hSlot]
  apply Memory.ext_frames
  intro number
  simp only [giveUp, found, borrow, store, clear, memory_note, Memory.frames_modify]
  by_cases hHere : table.number = number
  · subst hHere
    simp [Ne.symm hNumbers, hTable, hRestored]
  · simp [hHere]

/-- This holds if a fresh frame is edited and the scratch page is free. -/
theorem memory_giveUp_of_fresh (hTraversable : machine.Traversable) (hFresh : machine.Fresh frame)
    (hLink : machine.link? Layout.scratchPage.directorySlot = some table)
    (hFree : machine.entryAt Layout.scratchPage = Entry.zero) :
    (((machine.borrow table frame).found frame).giveUp table).memory =
      (machine.found frame).memory := by
  have hDifferent : table ≠ frame := by
    rintro rfl
    exact hFresh.unlinked _ hLink
  rw [entryAt_of_linked hLink] at hFree
  exact memory_giveUp (hTraversable.linked_installed hLink) hFree hDifferent

/-- So it is an edit beside the tables too. -/
theorem aside_giveUp (hTraversable : machine.Traversable) (hFresh : machine.Fresh frame)
    (hLink : machine.link? Layout.scratchPage.directorySlot = some table)
    (hFree : machine.entryAt Layout.scratchPage = Entry.zero) :
    Aside machine (((machine.borrow table frame).found frame).giveUp table) := by
  have hMemory := memory_giveUp_of_fresh hTraversable hFresh hLink hFree
  have hFound := aside_found hFresh
  have hLinks : ∀ slot, (((machine.borrow table frame).found frame).giveUp table).linkAt slot =
      (machine.found frame).linkAt slot := by
    intro slot
    rw [linkAt, linkAt, hMemory]
    rfl
  refine ⟨⟨rfl, rfl, ?_⟩, rfl, fun slot => (hLinks slot).trans (hFound.links slot), ?_⟩
  · intro other
    rw [Installed, hMemory]
    exact hFound.stays.installed other
  · intro page
    rw [← hFound.entries page, entryAt, entryAt, link?, link?, hLinks, hMemory]

/-- A frame in the scratch page is reached there. -/
theorem reaches_scratchPage (hWalkable : machine.Walkable)
    (hLink : machine.link? Layout.scratchPage.directorySlot = some table)
    (hEntry : machine.entryAt Layout.scratchPage = Entry.leaf frame Flags.kernelReadWrite.word)
    (hInstalled : machine.Installed frame) :
    machine.Reaches (.window Layout.scratchPage) frame := by
  refine reaches_window hWalkable.root_installed (hWalkable.installed hLink) hInstalled hLink ?_
  rw [hEntry]
  rfl

/-- A free entry is overwritten without a request to invalidate its page. -/
theorem borrow_eq_place (hFree : machine.entryAt Layout.scratchPage = Entry.zero) :
    machine.borrow table frame =
      (machine.place Layout.scratchPage table
        (Entry.leaf frame Flags.kernelReadWrite.word)).note (.flushed Layout.scratchPage) := by
  rw [place, if_pos ((Entry.isFree_iff _).mpr hFree), borrow]

end Machine

namespace Action

variable {source : Type} {machine : Machine source} {frame table : Frame}

/-! ## Editing the frame -/

/-- The stores that make a directory, wherever the frame is reached. -/
theorem run_prepareDirectory {location : Location} (hReaches : machine.Reaches location frame)
    (hCleared : (machine.clear frame).Reaches location frame) :
    (prepareDirectory frame location).run machine = .done () (machine.found frame) := by
  simp [prepareDirectory, run_clearTable hReaches, run_writeEntry hCleared, Machine.found]

theorem run_withFrame_physical (hAccess : machine.view.access = .physical)
    (hLends : machine.view.lendsFrames = true) (hInstalled : machine.Installed frame) :
    (withFrame frame (prepareDirectory frame)).run machine =
      .done (some ()) (machine.found frame) := by
  have hPrepare := run_prepareDirectory (Machine.reaches_frame hInstalled)
    (Machine.reaches_frame ((Machine.installed_clear machine frame frame).mpr hInstalled))
  simp [withFrame, hLends, hAccess, run_locateFrame hInstalled, hPrepare]

/-- With the frame in the scratch page, the page walk to it ends at the frame, and goes
on doing so while the frame is edited. -/
theorem run_prepareDirectory_borrowed (hWalkable : machine.Walkable)
    (hLink : machine.link? Layout.scratchPage.directorySlot = some table)
    (hFree : machine.entryAt Layout.scratchPage = Entry.zero) (hFresh : machine.Fresh frame) :
    (prepareDirectory frame (.window Layout.scratchPage)).run (machine.borrow table frame) =
        .done () ((machine.borrow table frame).found frame) ∧
      ((machine.borrow table frame).found frame).Walkable ∧
      ((machine.borrow table frame).found frame).link? Layout.scratchPage.directorySlot =
        some table := by
  have hSlot := Layout.directorySlot_scratchPage_ne
  let borrowed := machine.borrow table frame
  have hRewrites : machine.Rewrites borrowed Layout.scratchPage
      (Entry.leaf frame Flags.kernelReadWrite.word) := by
    show machine.Rewrites (machine.borrow table frame) _ _
    rw [Machine.borrow_eq_place hFree]
    exact (Machine.rewrites_place hWalkable.toSeparated hSlot hLink _).note _
  have hBorrowed : borrowed.Walkable := hRewrites.walkable hWalkable
  have hLinks : ∀ slot, borrowed.link? slot = machine.link? slot := hRewrites.link?_eq
  have hBorrowedLink := (hLinks Layout.scratchPage.directorySlot).trans hLink
  have hBorrowedEntry : borrowed.entryAt Layout.scratchPage =
      Entry.leaf frame Flags.kernelReadWrite.word := by
    rw [hRewrites.entries _ hSlot, if_pos rfl]
  have hBorrowedFresh : borrowed.Fresh frame :=
    ⟨(hRewrites.stays.installed frame).mpr hFresh.installed,
      hRewrites.stays.root ▸ hFresh.ne_root, fun slot => hLinks slot ▸ hFresh.unlinked slot⟩
  have hCleared := Machine.aside_clear hBorrowedFresh
  have hFounded := Machine.aside_found hBorrowedFresh
  refine ⟨?_, hFounded.walkable hBorrowed, (hFounded.link? _).trans hBorrowedLink⟩
  exact run_prepareDirectory
    (Machine.reaches_scratchPage hBorrowed hBorrowedLink hBorrowedEntry
      hBorrowedFresh.installed)
    (Machine.reaches_scratchPage (hCleared.walkable hBorrowed)
      ((hCleared.link? _).trans hBorrowedLink) ((hCleared.entries _).trans hBorrowedEntry)
      (hCleared.fresh hBorrowedFresh).installed)

/-- Through the self-map the frame is put into the scratch page and taken out again. -/
theorem run_withFrame_selfMap (hAccess : machine.view.access = .selfMap)
    (hLends : machine.view.lendsFrames = true) (hWalkable : machine.Walkable)
    (hLink : machine.link? Layout.scratchPage.directorySlot = some table)
    (hFree : machine.entryAt Layout.scratchPage = Entry.zero) (hFresh : machine.Fresh frame) :
    (withFrame frame (prepareDirectory frame)).run machine =
      .done (some ()) (((machine.borrow table frame).found frame).giveUp table) := by
  have hEntry : (machine.memory.content table).get Layout.scratchPage.tableSlot = Entry.zero := by
    rw [← Machine.entryAt_of_linked hLink, hFree]
  obtain ⟨hPrepare, hFounded, hFoundedLink⟩ :=
    run_prepareDirectory_borrowed hWalkable hLink hFree hFresh
  let founded := (machine.borrow table frame).found frame
  -- The scratch table is looked up twice: to lend the frame and to give it up.
  have hTable := run_linkedTable? hWalkable.navigable
    fun _ (hOther : machine.link? Layout.scratchPage.directorySlot = _) =>
      hWalkable.installed hOther
  have hTableAgain := run_linkedTable? hFounded.navigable
    fun _ (hOther : founded.link? Layout.scratchPage.directorySlot = _) =>
      hFounded.installed hOther
  have hReaches := hWalkable.navigable.reaches_tableLocation hLink (hWalkable.installed hLink)
  have hReachesAgain := hFounded.navigable.reaches_tableLocation hFoundedLink
    (hFounded.installed hFoundedLink)
  have hBorrow : (fillScratch (machine.tableLocation Layout.scratchPage.directorySlot table)
      frame).run machine = .done () (machine.borrow table frame) := by
    rw [fillScratch, run_bind, run_writeEntry hReaches]
    rfl
  have hGiveUp : clearScratch.run founded = .done () (founded.giveUp table) := by
    rw [hFoundedLink] at hTableAgain
    rw [clearScratch, run_bind, hTableAgain, Option.map_some, Outcome.andThen_done, run_bind,
      run_writeEntry hReachesAgain]
    rfl
  rw [hLink] at hTable
  simp [withFrame, hLends, hAccess, withScratchPage, hTable, run_readEntry hReaches, hEntry,
    hBorrow, hPrepare, hGiveUp, founded]

/-- Without a free scratch page nothing can be edited through the self-map, and nothing
is done. -/
theorem run_withFrame_unavailable (frame : Frame) (hAccess : machine.view.access = .selfMap)
    (hLends : machine.view.lendsFrames = true) (hWalkable : machine.Walkable)
    (hTaken : ∀ table, machine.link? Layout.scratchPage.directorySlot = some table →
      machine.entryAt Layout.scratchPage ≠ Entry.zero) :
    (withFrame frame (prepareDirectory frame)).run machine = .done none machine := by
  have hTable := run_linkedTable? hWalkable.navigable
    fun _ (hOther : machine.link? Layout.scratchPage.directorySlot = _) =>
      hWalkable.installed hOther
  cases hLink : machine.link? Layout.scratchPage.directorySlot with
  | none =>
      rw [hLink] at hTable
      simp [withFrame, hLends, hAccess, withScratchPage, hTable]
  | some table =>
      have hReaches := hWalkable.navigable.reaches_tableLocation hLink
        (hWalkable.installed hLink)
      have hUsed : ((machine.memory.content table).get Layout.scratchPage.tableSlot).isFree =
          false := by
        rw [← Machine.entryAt_of_linked hLink, ← Bool.not_eq_true, Entry.isFree_iff]
        exact hTaken table hLink
      rw [hLink] at hTable
      simp [withFrame, hLends, hAccess, withScratchPage, hTable, run_readEntry hReaches, hUsed]

/-! ## The request -/

variable [FrameSource source] {drawn edited : Machine source}

theorem run_newDirectory_starved (hTaken : machine.Taken none drawn) :
    newDirectory.run machine = .done (.error .outOfMemory) drawn := by
  obtain ⟨pool, events, hTake, rfl⟩ := hTaken
  simp [newDirectory, run_takeFrame hTake]

/-- A frame that can be edited becomes the new directory. -/
theorem run_newDirectory_founded (hTaken : machine.Taken (some frame) drawn)
    (hEdited : (withFrame frame (prepareDirectory frame)).run drawn = .done (some ()) edited) :
    newDirectory.run machine =
      .done (.ok frame) (edited.note (.reported (.directoryPrepared frame))) := by
  obtain ⟨pool, events, hTake, rfl⟩ := hTaken
  simp [newDirectory, run_takeFrame hTake, hEdited, Machine.note]

/-- A frame that cannot be edited goes back. -/
theorem run_newDirectory_unreachable {after : Machine source}
    (hTaken : machine.Taken (some frame) drawn)
    (hEdited : (withFrame frame (prepareDirectory frame)).run drawn = .done none drawn)
    (hReleased : drawn.Released frame after) :
    newDirectory.run machine = .done (.error .unreachable) after := by
  obtain ⟨pool, events, hTake, rfl⟩ := hTaken
  obtain ⟨last, reports, hGive, rfl⟩ := hReleased
  simp [newDirectory, run_takeFrame hTake, hEdited, run_giveFrame hGive]

end Action

/-! ## Its outcomes -/

/-- The outcomes of making a directory: no frame is left, the frame is edited in place or
in the scratch page, or it cannot be edited and goes back. -/
inductive Machine.Founds {source : Type} [FrameSource source] (machine : Machine source) :
    Except MapError Frame → Machine source → Prop
  | starved {after : Machine source} (hTaken : Taken machine none after) :
      Founds machine (.error .outOfMemory) after
  | inPlace {frame : Frame} {drawn : Machine source} (hTaken : Taken machine (some frame) drawn)
      (hFresh : drawn.Fresh frame) :
      Founds machine (.ok frame) ((drawn.found frame).note (.reported (.directoryPrepared frame)))
  | borrowed {frame table : Frame} {drawn : Machine source}
      (hTaken : Taken machine (some frame) drawn) (hAccess : machine.view.access = .selfMap)
      (hFresh : drawn.Fresh frame)
      (hLink : drawn.link? Layout.scratchPage.directorySlot = some table)
      (hFree : drawn.entryAt Layout.scratchPage = Entry.zero) :
      Founds machine (.ok frame)
        ((((drawn.borrow table frame).found frame).giveUp table).note
          (.reported (.directoryPrepared frame)))
  | unreachable {frame : Frame} {drawn after : Machine source}
      (hTaken : Taken machine (some frame) drawn) (hAccess : machine.view.access = .selfMap)
      (hReleased : Released drawn frame after) : Founds machine (.error .unreachable) after

/-- Whatever the frame has held, the new directory maps nothing but itself. -/
theorem Machine.Founds.content {source : Type} [FrameSource source]
    {machine after : Machine source} {frame : Frame} (hFounds : machine.Founds (.ok frame) after)
    (hTraversable : machine.Traversable) :
    after.memory.content frame =
      Table.zero.set Layout.selfMapSlot (Entry.link frame .selfMap) := by
  cases hFounds with
  | inPlace hTaken hFresh =>
      rw [memory_note]
      exact content_found hFresh.installed
  | borrowed hTaken hAccess hFresh hLink hFree =>
      rw [memory_note, memory_giveUp_of_fresh (hTaken.traversable hTraversable) hFresh hLink hFree]
      exact content_found hFresh.installed

namespace Action

variable {size : Nat} {machine : Machine (FrameBitmap size)}

/-- A new directory always ends as described, through every view that reaches the tables. -/
theorem exists_run_newDirectory (hStocked : machine.Stocked)
    (hSeen : machine.SeenThrough machine.view) :
    ∃ reply after, newDirectory.run machine = .done reply after ∧ machine.Founds reply after := by
  obtain ⟨found, drawn, hTaken⟩ := Machine.exists_taken hStocked.sound
  cases found with
  | none => exact ⟨_, _, run_newDirectory_starved hTaken, .starved hTaken⟩
  | some frame =>
      have hDrawn := hTaken.stocked hStocked
      obtain ⟨hPositive, hFrame, -⟩ := hTaken.marks hStocked
      have hFreshBefore := hStocked.fresh_of_free hPositive hFrame
      have hView : drawn.view = machine.view := by
        obtain ⟨pool, events, -, rfl⟩ := hTaken
        rfl
      have hSeenDrawn : drawn.SeenThrough drawn.view := by
        obtain ⟨pool, events, -, rfl⟩ := hTaken
        exact hSeen
      have hFresh : drawn.Fresh frame := by
        obtain ⟨pool, events, -, rfl⟩ := hTaken
        exact ⟨hFreshBefore.installed, hFreshBefore.ne_root, hFreshBefore.unlinked⟩
      have hLends : drawn.view.lendsFrames = true := hSeenDrawn.1.1
      cases hAccess : drawn.view.access with
      | physical =>
          exact ⟨_, _, run_newDirectory_founded hTaken
            (run_withFrame_physical hAccess hLends hFresh.installed), .inPlace hTaken hFresh⟩
      | selfMap =>
          have hWalkable : drawn.Walkable := ⟨hDrawn.toSeparated, hSeenDrawn.2 hAccess⟩
          by_cases hScratch : ∃ table,
              drawn.link? Layout.scratchPage.directorySlot = some table ∧
                drawn.entryAt Layout.scratchPage = Entry.zero
          · obtain ⟨table, hLink, hFree⟩ := hScratch
            exact ⟨_, _, run_newDirectory_founded hTaken
              (run_withFrame_selfMap hAccess hLends hWalkable hLink hFree hFresh),
              .borrowed hTaken (hView ▸ hAccess) hFresh hLink hFree⟩
          · obtain ⟨after, hReleased⟩ := Machine.exists_released hDrawn.sound frame
            have hUnavailable := run_withFrame_unavailable frame hAccess hLends
              hWalkable fun table hLink hFree => hScratch ⟨table, hLink, hFree⟩
            exact ⟨_, _, run_newDirectory_unreachable hTaken hUnavailable hReleased,
              .unreachable hTaken (hView ▸ hAccess) hReleased⟩

end Action

end TwoLevelPaging
