import TwoLevelPaging.Proofs.BringUp.Booted
import TwoLevelPaging.Proofs.BringUp.KernelPages
import TwoLevelPaging.Proofs.BringUp.Seeding

/-!
# Bringing memory up, from the boot tables to the kernel stack

The bring-up needs 17 frames: one becomes the table of the text buffer, and sixteen back the
kernel stack, whose table the boot tables have already.  `bringUp_completes` says that this
number decides whether it succeeds, and what the address space is then.

The stages hand on to one another what `Ready` lists.  The boot tables provide it, filling
the bitmap keeps it, and completing the address space needs no more.
-/

namespace TwoLevelPaging

namespace Layout

/-- The number of pages of the kernel stack. -/
def stackPages : Nat :=
  stackBytes / pageBytes

/-- The lowest page of the kernel stack. -/
def stackFirst : VirtualPage :=
  Page.containing stackStart

/-- The page is one of the kernel stack. -/
def IsStackPage (page : VirtualPage) : Prop :=
  stackFirst.number ≤ page.number ∧ page.number < stackFirst.number + stackPages

theorem isStackPage_iff (page : VirtualPage) :
    IsStackPage page ↔ 0xFFBF0 ≤ page.number ∧ page.number < 0xFFC00 := by
  have hFirst : stackFirst.number = 0xFFBF0 := by decide
  unfold IsStackPage
  rw [hFirst]
  rfl

/-- The stack lies in the table of the scratch page. -/
theorem IsStackPage.directorySlot_eq {page : VirtualPage} (hPage : IsStackPage page) :
    page.directorySlot = scratchSlot := by
  rw [isStackPage_iff] at hPage
  apply Fin.ext
  show page.number / 1024 = 1022
  omega

/-- Neither the scratch page nor the guard page is a page of the stack. -/
theorem IsStackPage.not_reserved {page : VirtualPage} (hPage : IsStackPage page) :
    isReserved page = false := by
  have hScratch : scratchPage.number = 0xFFBEE := by decide
  have hGuard : stackGuardPage.number = 0xFFBEF := by decide
  have hSelf : isSelfMap page = false := by
    unfold isSelfMap
    rw [hPage.directorySlot_eq]
    decide
  rw [isStackPage_iff] at hPage
  have hScratchPage : page ≠ scratchPage := by
    rintro rfl
    omega
  have hGuardPage : page ≠ stackGuardPage := by
    rintro rfl
    omega
  simp [isReserved, hSelf, hScratchPage, hGuardPage]

theorem isReserved_textPage : isReserved textPage = false := by
  decide

end Layout

namespace Machine

variable {size : Nat} {booted seeded mapped before after : Machine (FrameBitmap size)}

/-- What the stages of the bring-up rely on. -/
structure Ready (machine : Machine (FrameBitmap size)) : Prop where
  wellFormed : machine.WellFormed
  zero_occupied : machine.source.freeAt 0 = false
  text_unlinked : machine.link? Layout.textPage.directorySlot = none
  stack_linked : ∃ table, machine.linkAt Layout.scratchSlot = Entry.link table .kernelReadWrite
  stack_unused : ∀ page : VirtualPage, page.directorySlot = Layout.scratchSlot →
    machine.entryAt page = Entry.zero

/-- The address space of the kernel is complete.  The boot tables were in `booted`, and the
frame bitmap had been filled in `seeded`. -/
structure Completed (booted seeded after : Machine (FrameBitmap size)) : Prop where
  /-- What the boot tables map is mapped as before. -/
  kept : ∀ page : VirtualPage, page.directorySlot ≠ Layout.selfMapSlot →
    booted.entryAt page ≠ Entry.zero → after.entryAt page = booted.entryAt page
  text : after.MapsKernel Layout.textPage Layout.textFrame
  /-- Each page of the stack has a frame of its own, which was free. -/
  stack : ∃ frames : VirtualPage → Frame,
    (∀ page, Layout.IsStackPage page → after.MapsKernel page (frames page) ∧
      seeded.Free (frames page) ∧ ¬ after.Free (frames page)) ∧
    ∀ first second, Layout.IsStackPage first → Layout.IsStackPage second →
      frames first = frames second → first = second
  reserved : after.entryAt Layout.scratchPage = Entry.zero ∧
    after.entryAt Layout.stackGuardPage = Entry.zero
  /-- Nothing else is mapped. -/
  unmapped : ∀ page : VirtualPage, page.directorySlot ≠ Layout.selfMapSlot →
    booted.entryAt page = Entry.zero → page ≠ Layout.textPage → ¬ Layout.IsStackPage page →
    after.entryAt page = Entry.zero
  self_link : after.linkAt Layout.selfMapSlot = booted.linkAt Layout.selfMapSlot
  /-- The tables of the boot block stay where they are, with the same rights. -/
  links : ∀ slot, booted.link? slot ≠ none → after.linkAt slot = booted.linkAt slot
  /-- One frame became a table, and sixteen back the stack. -/
  count : ∃ left, after.source.freeCount = .ok left ∧ left + 17 = seeded.source.freeSet.card

/-! ## The text buffer -/

/-- The text buffer has been mapped. -/
structure TextMapped (before after : Machine (FrameBitmap size)) : Prop
    extends Grown before after Layout.textPage.directorySlot where
  entries : ∀ page : VirtualPage, page.directorySlot ≠ Layout.selfMapSlot →
    after.entryAt page =
      if page = Layout.textPage then Entry.leaf Layout.textFrame Flags.kernelReadWrite.word
      else before.entryAt page

theorem TextMapped.note (hMapped : TextMapped before after) (event : Event) :
    TextMapped before (after.note (.reported event)) where
  stays := hMapped.stays.trans (stays_note after _)
  wellFormed := hMapped.wellFormed.congr (stays_note after _) (fun _ => rfl) (fun _ hFree => hFree)
    hMapped.wellFormed.sound
  card := hMapped.card
  free := hMapped.free
  linked := hMapped.linked
  links := hMapped.links
  entries := hMapped.entries

/-- With the text buffer mapped the stack can still be backed. -/
theorem TextMapped.backable (hReady : before.Ready) (hMapped : TextMapped before after) :
    after.Backable Layout.stackFirst.number (Layout.stackFirst.number + Layout.stackPages) where
  reserved page hStart hStop := Layout.IsStackPage.not_reserved ⟨hStart, hStop⟩
  linked := by
    intro page hStart hStop
    have hSlot := Layout.IsStackPage.directorySlot_eq ⟨hStart, hStop⟩
    obtain ⟨table, hTable⟩ := hReady.stack_linked
    refine ⟨table, ?_⟩
    rw [hSlot, link?, hMapped.links _ (by decide), hTable, Entry.presentFrame?_link]
  unused := by
    intro page hStart hStop
    have hSlot := Layout.IsStackPage.directorySlot_eq ⟨hStart, hStop⟩
    have hText : page ≠ Layout.textPage := by
      rintro rfl
      revert hSlot
      decide
    rw [hMapped.entries page (by rw [hSlot]; decide), if_neg hText, hReady.stack_unused page hSlot]

/-! ## The stack -/

/-- The pages of the stack have been backed, and nothing else has been done. -/
structure StackBacked (before after : Machine (FrameBitmap size)) : Prop where
  backed : Backed before before ∅ after Layout.stackFirst.number
    (Layout.stackFirst.number + Layout.stackPages)
  stacked : Stacked before after Layout.stackFirst.number
    (Layout.stackFirst.number + Layout.stackPages)

theorem StackBacked.walkable (hStack : StackBacked before after) (hBefore : before.WellFormed) :
    after.Walkable :=
  (hStack.backed.wellFormed hBefore).walkable

/-- The frames of the pages of the stack: each page has one of its own, which was free before
the text buffer was mapped. -/
theorem TextMapped.exists_stack_frames (hReady : before.Ready)
    (hMapped : TextMapped before mapped) (hStack : StackBacked mapped after) :
    ∃ frames : VirtualPage → Frame,
      (∀ page, Layout.IsStackPage page → after.MapsKernel page (frames page) ∧
        before.Free (frames page) ∧ ¬ after.Free (frames page)) ∧
      ∀ first second, Layout.IsStackPage first → Layout.IsStackPage second →
        frames first = frames second → first = second := by
  have hBackable := hMapped.backable hReady
  have hWalkable := hStack.walkable hMapped.wellFormed
  have hFrames : ∀ page : VirtualPage, ∃ frame : Frame, Layout.IsStackPage page →
      0 < frame.number ∧ after.entryAt page = Entry.leaf frame Flags.kernelReadWrite.word := by
    intro page
    by_cases hPage : Layout.IsStackPage page
    · obtain ⟨frame, hFrame⟩ := hStack.stacked.pages page hPage.1 hPage.2
      exact ⟨frame, fun _ => hFrame⟩
    · exact ⟨Page.ofNumber 0, fun hInside => absurd hInside hPage⟩
  choose frames hFrames using hFrames
  have hSlot : ∀ page, Layout.IsStackPage page → page.directorySlot ≠ Layout.selfMapSlot := by
    intro page hPage
    rw [hPage.directorySlot_eq]
    decide
  have hStored : ∀ page, Layout.IsStackPage page →
      (after.entryAt page).storedFrame? = some (frames page) := by
    intro page hPage
    obtain ⟨hPositive, hEntry⟩ := hFrames page hPage
    rw [hEntry, Entry.storedFrame?_leaf (by omega)]
  refine ⟨frames, ?_, ?_⟩
  · intro page hPage
    obtain ⟨table, hTable⟩ := hReady.stack_linked
    have hLink : after.linkAt page.directorySlot = Entry.link table .kernelReadWrite := by
      rw [hPage.directorySlot_eq, hStack.stacked.links, hMapped.links _ (by decide), hTable]
    obtain ⟨hFree, hTaken⟩ := hStack.backed.ledger.frame_of_page (hSlot page hPage)
      (hBackable.unused page hPage.1 hPage.2) (hStored page hPage)
    exact ⟨mapsKernel_of_link hWalkable hLink (hFrames page hPage).2, hMapped.free _ hFree, hTaken⟩
  · intro first second hFirst hSecond hSame
    have hBoth := hStored second hSecond
    rw [← hSame] at hBoth
    exact hStack.backed.ledger.page_eq_of_frame (hSlot first hFirst) (hSlot second hSecond)
      (hBackable.unused first hFirst.1 hFirst.2) (hBackable.unused second hSecond.1 hSecond.2)
      (hStored first hFirst) hBoth

/-- Outside the stack only the page of the text buffer has changed. -/
theorem TextMapped.entryAt_outside (hMapped : TextMapped before mapped)
    (hStack : StackBacked mapped after) {page : VirtualPage}
    (hPage : page.directorySlot ≠ Layout.selfMapSlot) (hOutside : ¬ Layout.IsStackPage page) :
    after.entryAt page =
      if page = Layout.textPage then Entry.leaf Layout.textFrame Flags.kernelReadWrite.word
      else before.entryAt page := by
  have hApart : page.number < Layout.stackFirst.number ∨
      Layout.stackFirst.number + Layout.stackPages ≤ page.number := by
    unfold Layout.IsStackPage at hOutside
    omega
  rw [hStack.backed.rest page hPage hApart, hMapped.entries page hPage]

/-- A backed stack completes the address space. -/
theorem TextMapped.completed (hReady : before.Ready) (hMapped : TextMapped before mapped)
    (hStack : StackBacked mapped after) : Completed before before after where
  kept := by
    intro page hPage hUsed
    have hText : page ≠ Layout.textPage := by
      rintro rfl
      exact hUsed (entryAt_of_unlinked hReady.text_unlinked)
    have hOutside : ¬ Layout.IsStackPage page := fun hInside =>
      hUsed (hReady.stack_unused page hInside.directorySlot_eq)
    rw [hMapped.entryAt_outside hStack hPage hOutside, if_neg hText]
  text := by
    obtain ⟨table, hTable⟩ := hMapped.linked
    have hWalkable := hStack.walkable hMapped.wellFormed
    refine mapsKernel_of_link hWalkable ((hStack.stacked.links _).trans hTable) ?_
    rw [hMapped.entryAt_outside hStack (by decide) (by rw [Layout.isStackPage_iff]; decide),
      if_pos rfl]
  stack := hMapped.exists_stack_frames hReady hStack
  reserved := by
    have hUnused : ∀ page : VirtualPage, page.directorySlot = Layout.scratchSlot →
        page ≠ Layout.textPage → ¬ Layout.IsStackPage page → after.entryAt page = Entry.zero := by
      intro page hSlot hText hOutside
      rw [hMapped.entryAt_outside hStack (by rw [hSlot]; decide) hOutside, if_neg hText]
      exact hReady.stack_unused page hSlot
    constructor
    · exact hUnused _ (by decide) (by decide) (by rw [Layout.isStackPage_iff]; decide)
    · exact hUnused _ (by decide) (by decide) (by rw [Layout.isStackPage_iff]; decide)
  unmapped := by
    intro page hPage hZero hText hOutside
    rw [hMapped.entryAt_outside hStack hPage hOutside, if_neg hText, hZero]
  self_link := by
    rw [hStack.stacked.links, hMapped.links _ (by decide)]
  links := by
    intro slot hLinked
    have hOther : Layout.textPage.directorySlot ≠ slot := by
      rintro rfl
      exact hLinked hReady.text_unlinked
    rw [hStack.stacked.links, hMapped.links slot hOther]
  count := by
    have hCard := hStack.stacked.card
    have hGrown := hMapped.card
    have hPages : Layout.stackPages = 16 := rfl
    have hSound := (hStack.backed.wellFormed hMapped.wellFormed).sound
    exact ⟨_, FrameBitmap.freeCount_eq hSound, by omega⟩

/-- Completion is about memory, the root and the bitmap. -/
theorem Completed.congr {last : Machine (FrameBitmap size)}
    (hCompleted : Completed booted seeded after) (hMemory : last.memory = after.memory)
    (hSource : last.source = after.source) (hRoot : last.root = after.root) :
    Completed booted seeded last := by
  obtain ⟨memory, pool, root, view, journal⟩ := last
  obtain rfl : memory = after.memory := hMemory
  obtain rfl : pool = after.source := hSource
  obtain rfl : root = after.root := hRoot
  obtain ⟨frames, hFrames, hApart⟩ := hCompleted.stack
  refine ⟨hCompleted.kept, ⟨hCompleted.text.entry, hCompleted.text.translation⟩,
    ⟨frames, ?_, hApart⟩, hCompleted.reserved, hCompleted.unmapped, hCompleted.self_link,
    hCompleted.links, hCompleted.count⟩
  intro page hStack
  obtain ⟨⟨hEntry, hTranslation⟩, hFree, hTaken⟩ := hFrames page hStack
  exact ⟨⟨hEntry, hTranslation⟩, hFree, hTaken⟩

/-- Filling the bitmap has not changed what the boot tables map. -/
theorem Completed.of_drawn (hDrawn : Drawn booted seeded)
    (hCompleted : Completed seeded seeded after) : Completed booted seeded after := by
  obtain ⟨pool, events, rfl⟩ := hDrawn
  exact ⟨hCompleted.kept, hCompleted.text, hCompleted.stack, hCompleted.reserved,
    hCompleted.unmapped, hCompleted.self_link, hCompleted.links, hCompleted.count⟩

/-- A machine with boot tables is ready once its bitmap has been filled, if the image covers
the block and all frames that are free now are installed. -/
theorem Boots.ready {address : Address .physical} {image : KernelImage} {block : BootBlock}
    {boot : BootInfo} {regions : List MemoryRegion} (hBoots : booted.Boots address block)
    (hFits : BootBlock.Fits address) (hAccepts : BootBlock.Accepts address image)
    (hBuilt : BootBlock.Built address image block)
    (hCovered : ∀ position, position < 6 →
      (Action.blockFrame address position).number < image.frames)
    (hInstalled : ∀ number, FreeAfterSeeding size boot regions image number →
      ∃ frame : Frame, frame.number = number ∧ booted.Installed frame)
    (hSeeded : Seeded booted seeded boot regions image) : seeded.Ready := by
  have hImage : ∀ number, number < image.frames → seeded.source.freeAt number = false := by
    intro number hBelow
    cases hFree : seeded.source.freeAt number with
    | false => rfl
    | true =>
        rw [hSeeded.free_iff] at hFree
        exact absurd hFree.2.2.1 (Nat.not_le.mpr hBelow)
  have hSound := hSeeded.sound
  have hFreeIff := hSeeded.free_iff
  obtain ⟨pool, events, rfl⟩ := hSeeded.drawn
  have hSeededBoots : (booted.draw pool events).Boots address block := hBoots.congr rfl rfl
  refine ⟨hSeededBoots.wellFormed hFits hBuilt hSound ?_ ?_, ?_, ?_, ?_, ?_⟩
  · intro position hPosition hFree
    rw [Free, hImage _ (hCovered position hPosition)] at hFree
    cases hFree
  · intro number hFree
    exact hInstalled number ((hFreeIff number).mp hFree)
  · exact hImage 0 (Nat.lt_of_le_of_lt (Nat.zero_le _) (hCovered 0 (by decide)))
  · exact hSeededBoots.link?_of_low hAccepts hBuilt (by decide) (by decide)
  · exact ⟨_, hSeededBoots.linkAt_scratchSlot hBuilt⟩
  · intro page hPage
    exact hSeededBoots.entryAt_eq_zero hAccepts hBuilt hPage

end Machine

namespace Action

variable {size : Nat} {machine : Machine (FrameBitmap size)}

/-! ## The run -/

/-- What is left to do once the bitmap has been filled. -/
def completeSpace : Action (FrameBitmap size) (Except BringUpError Unit) := do
  match ← setMapping Layout.textBufferVirtual Layout.textBufferPhysical
      Flags.kernelReadWrite.word with
  | .error error => return .error (.mapping error)
  | .ok () =>
    report .textBufferMapped
    match ← allocatePages Layout.stackStart (UInt32.ofNat Layout.stackBytes)
        Flags.kernelReadWrite.word with
    | .error error => return .error (.mapping error)
    | .ok () =>
      report .stackBacked
      return .ok ()

theorem bringUp_eq (boot : BootInfo) (regions : List MemoryRegion) (image : KernelImage) :
    (bringUp boot regions image : Action (FrameBitmap size) _) =
      seedFrames boot regions image >>= fun _ => completeSpace :=
  rfl

theorem leads_mapTextBuffer (hReady : machine.Ready) :
    Leads (setMapping Layout.textBufferVirtual Layout.textBufferPhysical
        Flags.kernelReadWrite.word) machine fun reply after =>
        match reply with
        | .ok () => machine.TextMapped after
        | .error error => error = .outOfMemory ∧ machine.source.freeSet = ∅ := by
  have hPair : alignedPair Layout.textBufferVirtual Layout.textBufferPhysical false =
      .ok (Layout.textPage, Layout.textFrame) := rfl
  have hSlot : Layout.textPage.directorySlot ≠ Layout.selfMapSlot := by decide
  refine (leads_setMapping_of_free hReady.wellFormed.stocked hPair Layout.isReserved_textPage
    (Machine.entryAt_of_unlinked hReady.text_unlinked) _).mono ?_
  intro reply after hReply
  cases reply with
  | error error =>
      obtain ⟨hError, hTaken⟩ := hReply
      exact ⟨hError, hTaken.freeSet_eq_empty hReady.wellFormed.sound hReady.zero_occupied⟩
  | ok value =>
      obtain ⟨displaced, hInstalls⟩ := hReply
      obtain ⟨-, -, hEntries⟩ :=
        hInstalls.entries_of_ok hReady.wellFormed.walkable.navigable hSlot
      exact ⟨hInstalls.grown hReady.wellFormed hSlot hReady.text_unlinked,
        fun page => hEntries page⟩

theorem leads_backStack (hReady : machine.Ready) {mapped : Machine (FrameBitmap size)}
    (hMapped : machine.TextMapped mapped) :
    Leads (allocatePages Layout.stackStart (UInt32.ofNat Layout.stackBytes)
        Flags.kernelReadWrite.word) mapped fun reply after =>
        match reply with
        | .ok () => machine.Completed machine after
        | .error error => error = .outOfMemory ∧
            mapped.source.freeSet.card < Layout.stackPages := by
  have hZero : mapped.source.freeAt 0 = false := by
    cases hFree : mapped.source.freeAt 0 with
    | false => rfl
    | true =>
        rw [← hReady.zero_occupied]
        exact (hMapped.free 0 hFree).symm
  have hCompanion := (hMapped.backable hReady).companion hMapped.wellFormed hZero
  have hRun : IsRun Layout.stackStart (UInt32.ofNat Layout.stackBytes) :=
    ⟨by decide, by decide, by decide⟩
  refine (leads_allocatePages_of_companion hMapped.wellFormed (.start mapped) _ _ hCompanion
    fun _ => .refl mapped _).mono ?_
  intro reply after hReply
  cases reply with
  | error error =>
      rcases hReply with ⟨hNotRun, -⟩ | ⟨⟨hError, hCard⟩, -⟩
      · exact absurd hRun hNotRun
      · exact ⟨hError, by omega⟩
  | ok value => exact hMapped.completed hReady ⟨hReply.2.1, hReply.2.2 rfl⟩

/-- With 17 free frames the address space is completed, with less the bring-up ends for want
of a frame. -/
theorem leads_completeSpace (hReady : machine.Ready) :
    Leads completeSpace machine fun reply after =>
      (17 ≤ machine.source.freeSet.card ∧ reply = .ok () ∧ machine.Completed machine after) ∨
      (machine.source.freeSet.card < 17 ∧ reply = .error (.mapping .outOfMemory)) := by
  have hPages : Layout.stackPages = 16 := rfl
  unfold completeSpace
  refine (leads_mapTextBuffer hReady).bind ?_
  intro reply mapped hMapped
  cases reply with
  | error error =>
      obtain ⟨rfl, hEmpty⟩ := hMapped
      exact .pure (.inr ⟨by rw [hEmpty]; decide, rfl⟩)
  | ok value =>
      refine (leads_record mapped _).bind ?_
      rintro value noted rfl
      have hCard := hMapped.card
      refine (leads_backStack hReady (hMapped.note _)).bind ?_
      intro reply stacked hStacked
      cases reply with
      | error error =>
          obtain ⟨rfl, hFew⟩ := hStacked
          rw [Machine.source_note] at hFew
          exact .pure (.inr ⟨by omega, rfl⟩)
      | ok value =>
          refine (leads_record stacked _).bind ?_
          rintro value last rfl
          obtain ⟨left, -, hLeft⟩ := hStacked.count
          exact .pure (.inl ⟨by omega, rfl, hStacked.congr rfl rfl rfl⟩)

end Action

namespace BootBlock

/-! ## A small machine -/

/-- An image of the seven frames of low memory, the boot block among them. -/
def lowImage : KernelImage :=
  ⟨Address.ofNat 0xC0000000, Address.ofNat 0xC0007000, Address.ofNat 0x7000⟩

/-- One available region, of 32 frames. -/
def lowRegion : MemoryRegion :=
  ⟨0, 0x20000, MemoryRegion.availableKind⟩

/-- A machine with 32 frames, which holds the block in the frames from 1 on. -/
def inMachine (block : BootBlock) : Machine (FrameBitmap 4) where
  memory := ⟨block.inMemory.frames ++ Array.replicate 25 Table.zero⟩
  source := .empty 4
  root := Page.containing (Address.ofNat 0x1000)
  view := {}
  journal := []

theorem placedAt_inMachine (block : BootBlock) (hFits : Fits (Address.ofNat 0x1000)) :
    block.PlacedAt block.inMachine.memory (Address.ofNat 0x1000) := by
  have hKept : ∀ {frame : Frame} {table : Table}, block.inMemory.table? frame = some table →
      block.inMachine.memory.table? frame = some table := by
    intro frame table hTable
    unfold Memory.table? at hTable ⊢
    obtain ⟨hInside, -⟩ := Array.getElem?_eq_some_iff.mp hTable
    rw [← hTable]
    exact Array.getElem?_append_left hInside
  have hPlaced := block.placedAt_inMemory hFits
  exact ⟨hKept hPlaced.directory, fun table => hKept (hPlaced.table table)⟩

theorem freeAfterSeeding_lowImage_iff (boot : BootInfo) (frame : Nat) :
    Machine.FreeAfterSeeding 4 boot [lowRegion] lowImage frame ↔ 7 ≤ frame ∧ frame < 32 := by
  have hAvailable : lowRegion.isAvailable = true := by decide
  have hRange : lowRegion.wholeFrames = ⟨0, 32⟩ := by decide +kernel
  have hFrames : lowImage.frames = 7 := rfl
  have hText : Layout.textFrame.number = 0xB8 := rfl
  have hLimit : 256 ≤ FrameBitmap.framesBelow boot.memoryLimit := by
    unfold FrameBitmap.framesBelow BootInfo.memoryLimit Layout.upperMemoryBase
    simp only [PageSize.bytes]
    omega
  have hMember : frame ∈ FrameRange.mk 0 32 ↔ frame < 32 := by
    show 0 ≤ frame ∧ frame < 0 + 32 ↔ _
    omega
  simp only [Machine.FreeAfterSeeding, MemoryRegion.Offers, List.mem_singleton, exists_eq_left,
    hAvailable, hRange, hMember, hFrames, hText, true_and]
  omega

theorem exists_installed_inMachine (block : BootBlock) {number : Nat} (hNumber : number < 32) :
    ∃ frame : Frame, frame.number = number ∧ block.inMachine.Installed frame := by
  have hSmall : number < PageSize.small.count := by
    simp only [PageSize.count]
    omega
  refine ⟨⟨number, hSmall⟩, rfl, ?_⟩
  simp [Machine.Installed, inMachine, inMemory, Memory.contains, Memory.size]
  omega

/-! ## The bring-up as a whole -/

/-- Bringing memory up over the boot tables of an image.  Whatever the firmware reports, it
ends, and with at least 17 free frames other than frame zero it completes the address space;
with less it ends with the error that memory is used up. -/
theorem bringUp_completes {address : Address .physical} {image : KernelImage}
    {block built : BootBlock} {directory : Frame} {boot : BootInfo}
    {regions : List MemoryRegion} {size : Nat} {machine : Machine (FrameBitmap size)}
    (hSize : size ≤ FrameBitmap.fullSize)
    (hBuild : block.build address image = .ok (.ok directory, built))
    (hPlaced : built.PlacedAt machine.memory address) (hRoot : machine.root = directory)
    (hOpen : machine.view.Unrestricted)
    (hCovered : ∀ position, position < 6 →
      (Action.blockFrame address position).number < image.frames)
    (hInstalled : ∀ number, Machine.FreeAfterSeeding size boot regions image number →
      ∃ frame : Frame, frame.number = number ∧ machine.Installed frame) :
    ∃ free seeded reply after,
      (Action.seedFrames boot regions image).run machine = .done free seeded ∧
      machine.Seeded seeded boot regions image ∧ free = seeded.source.freeSet.card ∧
      (Action.bringUp boot regions image).run machine = .done reply after ∧
      (17 ≤ (seeded.source.freeSet.erase 0).card →
        reply = .ok () ∧ machine.Completed seeded after) ∧
      ((seeded.source.freeSet.erase 0).card < 17 → reply = .error (.mapping .outOfMemory)) := by
  obtain ⟨hFits, hAccepts, rfl, hBuilt⟩ := built_of_build_eq hBuild
  have hWords : size * 8 < 0x100000000 := by
    unfold FrameBitmap.fullSize at hSize
    omega
  have hBoots : machine.Boots address built := ⟨hPlaced, hRoot⟩
  have hSeen : machine.SeenThrough machine.view := ⟨hOpen, fun _ => hBoots.self_linked hBuilt⟩
  obtain ⟨free, seeded, hSeedRun, hSeeded, hFree⟩ :=
    (Action.leads_seedFrames hWords machine boot regions image).run_stays hSeen (by
      rintro free seeded ⟨⟨⟨pool, events, rfl⟩, -, -⟩, -⟩
      rfl)
  have hReady := hBoots.ready hFits hAccepts hBuilt hCovered hInstalled hSeeded
  have hSeenSeeded : seeded.SeenThrough seeded.view := by
    obtain ⟨pool, events, rfl⟩ := hSeeded.drawn
    exact hSeen
  obtain ⟨reply, after, hRun, hReply⟩ := (Action.leads_completeSpace hReady).run hSeenSeeded
  -- Frame zero is below the end of the image, so it is not among the free frames anyway.
  have hErase : seeded.source.freeSet.erase 0 = seeded.source.freeSet := by
    refine Finset.erase_eq_of_notMem ?_
    rw [FrameBitmap.mem_freeSet, hReady.zero_occupied]
    exact Bool.false_ne_true
  refine ⟨free, seeded, reply, after.under seeded.view, hSeedRun, hSeeded, hFree, ?_, ?_, ?_⟩
  · rw [Action.bringUp_eq, Action.run_bind, hSeedRun, Outcome.andThen_done, hRun]
  · rw [hErase]
    intro hEnough
    rcases hReply with ⟨-, hOk, hCompleted⟩ | ⟨hFew, -⟩
    · have hUnder : seeded.Completed seeded (after.under seeded.view) :=
        hCompleted.congr rfl rfl rfl
      exact ⟨hOk, hUnder.of_drawn hSeeded.drawn⟩
    · omega
  · rw [hErase]
    intro hFew
    rcases hReply with ⟨hEnough, -⟩ | ⟨-, hError⟩
    · omega
    · exact hError

/-- On the small machine the bring-up succeeds and leaves eight frames. -/
theorem bringUp_inMachine_completes : ∃ (built : BootBlock) (after : Machine (FrameBitmap 4)),
    zero.build (Address.ofNat 0x1000) lowImage =
      .ok (.ok (Page.containing (Address.ofNat 0x1000)), built) ∧
    (Action.bringUp ⟨640, 0, 0, 0⟩ [lowRegion] lowImage).run built.inMachine =
      .done (.ok ()) after ∧
    after.source.freeCount = .ok 8 := by
  have hFits : Fits (Address.ofNat 0x1000) := by
    show _ ≤ _
    decide
  have hAccepts : Accepts (Address.ofNat 0x1000) lowImage :=
    ⟨by decide, by decide, by decide, by decide⟩
  obtain ⟨built, hBuild, -⟩ := exists_build_eq hFits hAccepts
  have hSize : 4 ≤ FrameBitmap.fullSize := by decide
  have hOpen : built.inMachine.view.Unrestricted := ⟨rfl, rfl⟩
  have hCovered : ∀ position, position < 6 →
      (Action.blockFrame (Address.ofNat 0x1000) position).number < lowImage.frames := by
    intro position hPosition
    rw [hFits.number_blockFrame hPosition, Address.toNat_ofNat]
    show _ < 7
    omega
  have hInstalled : ∀ number,
      Machine.FreeAfterSeeding 4 ⟨640, 0, 0, 0⟩ [lowRegion] lowImage number →
      ∃ frame : Frame, frame.number = number ∧ built.inMachine.Installed frame := by
    intro number hFree
    rw [freeAfterSeeding_lowImage_iff] at hFree
    exact built.exists_installed_inMachine hFree.2
  obtain ⟨free, seeded, reply, after, -, hSeeded, -, hRun, hEnough, -⟩ :=
    bringUp_completes hSize (hBuild zero) (built.placedAt_inMachine hFits) rfl hOpen
      hCovered hInstalled
  have hFreeSet : seeded.source.freeSet =
      (Finset.range 32).filter fun frame => 7 ≤ frame := by
    ext frame
    rw [FrameBitmap.mem_freeSet, hSeeded.free_iff, freeAfterSeeding_lowImage_iff, Finset.mem_filter,
      Finset.mem_range, and_comm]
  have hCard : seeded.source.freeSet.card = 25 := by
    rw [hFreeSet]
    decide
  have hErase : (seeded.source.freeSet.erase 0).card = 25 := by
    rw [hFreeSet]
    decide
  obtain ⟨rfl, hCompleted⟩ := hEnough (by omega)
  obtain ⟨left, hCount, hLeft⟩ := hCompleted.count
  obtain rfl : left = 8 := by omega
  exact ⟨built, after, hBuild zero, hRun, hCount⟩

end BootBlock

end TwoLevelPaging
