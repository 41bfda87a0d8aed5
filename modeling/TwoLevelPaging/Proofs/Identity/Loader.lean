import TwoLevelPaging.Proofs.Identity.Sweep
import TwoLevelPaging.Proofs.Ownership.Requests

/-!
# Dropping the loader stub

The pages from the end of low memory to the end of the loader stub map their own frames when
the kernel starts.  `dropLoader` unmaps those that are present, without a look at the frame
that they map (`exists_run_dropLoader`).  So it drops mappings to own frames only as long as no
other frame has been mapped there.  A page that has been mapped again loses its mapping, and
its frame, which is not given back, belongs to nobody then (`dropLoader_loses_frame`).
-/

namespace TwoLevelPaging

/-- Low memory has no reserved page. -/
theorem Layout.not_reserved_of_low {page : VirtualPage} (hPage : page.directorySlot = 0) :
    isReserved page = false := by
  have hScratch : page ≠ scratchPage := by
    rintro rfl
    exact absurd hPage (by decide)
  have hGuard : page ≠ stackGuardPage := by
    rintro rfl
    exact absurd hPage (by decide)
  simp only [isReserved, isSelfMap, hPage, beq_eq_false_iff_ne.mpr hScratch,
    beq_eq_false_iff_ne.mpr hGuard, Bool.or_false]
  decide

/-- The page lies between the end of low memory and the end of the loader stub, rounded up. -/
def KernelImage.LoaderPage (image : KernelImage) (page : VirtualPage) : Prop :=
  Layout.lowMemoryBytes / Layout.pageBytes ≤ page.number ∧
    page.number < roundUpDiv image.loaderEnd.toNat Layout.pageBytes

instance (image : KernelImage) (page : VirtualPage) : Decidable (image.LoaderPage page) :=
  inferInstanceAs (Decidable (_ ∧ _))

/-- The numbers of the loader pages. -/
def KernelImage.loaderNumbers (image : KernelImage) : List Nat :=
  List.range' (Layout.lowMemoryBytes / Layout.pageBytes)
    (roundUpDiv image.loaderEnd.toNat Layout.pageBytes -
      Layout.lowMemoryBytes / Layout.pageBytes)

namespace KernelImage

variable {image : KernelImage} {page : VirtualPage}

/-- A loader stub below 4 MiB ends in the first table. -/
theorem loaderStop_le (hEnd : image.loaderEnd.toNat ≤ 0x400000) :
    roundUpDiv image.loaderEnd.toNat Layout.pageBytes ≤ 0x400 := by
  simp only [roundUpDiv, Layout.pageBytes]
  omega

theorem LoaderPage.directorySlot_eq (hLoader : image.LoaderPage page)
    (hEnd : image.loaderEnd.toNat ≤ 0x400000) : page.directorySlot = 0 := by
  have hStop := loaderStop_le hEnd
  have hPage := hLoader.2
  apply Fin.ext
  show page.number / 1024 = 0
  omega

theorem mem_loaderPages (hEnd : image.loaderEnd.toNat ≤ 0x400000) :
    page ∈ image.loaderNumbers.map Page.ofNumber ↔ image.LoaderPage page := by
  have hStop := loaderStop_le hEnd
  rw [loaderNumbers, List.mem_map]
  constructor
  · rintro ⟨number, hNumber, rfl⟩
    rw [List.mem_range'_1] at hNumber
    simp only [LoaderPage, Page.number_ofNumber, PageSize.count]
    omega
  · rintro ⟨hFirst, hLast⟩
    exact ⟨page.number, List.mem_range'_1.mpr ⟨hFirst, by omega⟩, page.ofNumber_number⟩

end KernelImage

namespace Action

variable {source : Type} {machine : Machine source} {image : KernelImage}

/-- The loop reaches all pages of the loader stub, and none of them is reserved. -/
theorem clearable_of_loaderPage (hVisible : machine.view.hiddenSlots.contains 0 = false)
    (hEnd : image.loaderEnd.toNat ≤ 0x400000) {page : VirtualPage}
    (hLoader : image.LoaderPage page) : machine.Clearable present page := by
  have hLow := hLoader.directorySlot_eq hEnd
  constructor
  · rw [hLow]
    exact hVisible
  · intro hSlot
    exact absurd (hLow.symm.trans hSlot) (by decide)
  · intro hReserved
    rw [Layout.not_reserved_of_low hLow] at hReserved
    cases hReserved

/-- Dropping the loader stub clears its present pages and counts them. -/
theorem exists_run_dropLoader (hNavigable : machine.Navigable)
    (hVisible : machine.view.hiddenSlots.contains 0 = false)
    (hEnd : image.loaderEnd.toNat ≤ 0x400000) :
    ∃ (cleared : Finset VirtualPage) (after : Machine source),
      (dropLoader image).run machine = .done (.ok cleared.card) after ∧
      (∀ page, page ∈ cleared ↔
        image.LoaderPage page ∧ (machine.entryAt page).present = true) ∧
      machine.Sweeps after cleared := by
  have hStop := KernelImage.loaderStop_le hEnd
  let pages : List VirtualPage := image.loaderNumbers.map Page.ofNumber
  have hLoader : ∀ page, page ∈ pages ↔ image.LoaderPage page :=
    fun _ => KernelImage.mem_loaderPages hEnd
  have hClearable : ∀ page ∈ pages, machine.Clearable present page :=
    fun page hPage => clearable_of_loaderPage hVisible hEnd ((hLoader page).mp hPage)
  obtain ⟨after, hRun, hSweeps⟩ :=
    exists_run_clearPages (fun _ => rfl) hNavigable hClearable
  refine ⟨_, _, ?_, ?_, hSweeps.note
    (.reported (.loaderPagesDropped (machine.selected present pages).card))⟩
  · have hWord : Checked.word (roundUpDiv image.loaderEnd.toNat Layout.pageBytes *
        Layout.pageBytes) =
          .ok (roundUpDiv image.loaderEnd.toNat Layout.pageBytes * Layout.pageBytes) := by
      refine if_pos ?_
      simp only [Layout.pageBytes] at hStop ⊢
      omega
    have hPages : dropPages 0 (List.range' (Layout.lowMemoryBytes / Layout.pageBytes)
        (roundUpDiv image.loaderEnd.toNat Layout.pageBytes * Layout.pageBytes /
          Layout.pageBytes - Layout.lowMemoryBytes / Layout.pageBytes)) =
        (clearPages present 0 pages : Action source (Except MapError Nat)) := by
      rw [Nat.mul_div_cancel _ (by decide : 0 < Layout.pageBytes)]
      exact dropPages_eq 0 image.loaderNumbers
    simp only [dropLoader, run_bind, hWord, run_check_ok, Outcome.andThen_done, hPages, hRun]
    rfl
  · intro page
    rw [Machine.mem_selected, hLoader, present, Mapping.isPresent_ofEntry]

/-- Dropping the loader stub unmaps its present pages, counts them, and changes nothing else.
Exactly if each of them maps its own frame, no other mapping is dropped. -/
theorem dropLoader_drops_present (hNavigable : machine.Navigable)
    (hVisible : machine.view.hiddenSlots.contains 0 = false)
    (hEnd : image.loaderEnd.toNat ≤ 0x400000) :
    ∃ (cleared : Finset VirtualPage) (after : Machine source),
      (dropLoader image).run machine = .done (.ok cleared.card) after ∧
      (∀ page, page ∈ cleared ↔
        image.LoaderPage page ∧ (machine.entryAt page).present = true) ∧
      machine.Sweeps after cleared ∧
      ((∀ page : VirtualPage, page.directorySlot ≠ Layout.selfMapSlot →
          after.entryAt page ≠ machine.entryAt page →
            (machine.entryAt page).frame.number = page.number) ↔
        ∀ page, image.LoaderPage page → (machine.entryAt page).present = true →
          (machine.entryAt page).frame.number = page.number) := by
  obtain ⟨cleared, after, hRun, hCleared, hSweeps⟩ :=
    exists_run_dropLoader hNavigable hVisible hEnd
  refine ⟨cleared, after, hRun, hCleared, hSweeps, ?_⟩
  constructor
  · intro hOwn page hLoader hPresent
    have hSlot : page.directorySlot ≠ Layout.selfMapSlot := by
      rw [hLoader.directorySlot_eq hEnd]
      decide
    refine hOwn page hSlot ?_
    rw [hSweeps.entries page hSlot, if_pos ((hCleared page).mpr ⟨hLoader, hPresent⟩)]
    intro hZero
    rw [← hZero] at hPresent
    exact absurd hPresent (by decide)
  · intro hOwn page hSlot hChanged
    rw [hSweeps.entries page hSlot] at hChanged
    by_cases hPage : page ∈ cleared
    · obtain ⟨hLoader, hPresent⟩ := (hCleared page).mp hPage
      exact hOwn page hLoader hPresent
    · rw [if_neg hPage] at hChanged
      exact absurd rfl hChanged

/-- A loader stub of one page. -/
def shortLoader : KernelImage :=
  ⟨Address.ofNat 0xC0100000, Address.ofNat 0xC0101000, Address.ofNat 0x101000⟩

/-- The page of that loader stub. -/
def loaderPage : VirtualPage :=
  Page.ofNumber 0x100

/-- The tiny machine with a frame allocated for the page of the loader stub. -/
def tinyReused : Machine (FrameBitmap 1) :=
  Machine.tinyWithPage loaderPage

/-- Each frame of that machine has one owner. -/
theorem ledger_tinyReused : Machine.tiny.Ledger tinyReused ∅ :=
  Machine.ledger_tinyWithPage loaderPage

theorem wellFormed_tinyReused : tinyReused.WellFormed :=
  Machine.wellFormed_tinyWithPage loaderPage

/-- The page maps frame 2, which has been taken from the bitmap. -/
theorem entryAt_tinyReused :
    tinyReused.entryAt loaderPage = Entry.leaf (Page.ofNumber 2) Flags.kernelReadWrite.word ∧
      tinyReused.source.freeAt 2 = false := by
  decide +kernel

/-- The page is unmapped. -/
theorem dropLoader_drops_tinyReused :
    ∃ (cleared : Finset VirtualPage) (after : Machine (FrameBitmap 1)),
      (dropLoader shortLoader).run tinyReused = .done (.ok cleared.card) after ∧
        loaderPage ∈ cleared := by
  obtain ⟨cleared, after, hRun, hCleared, -⟩ :=
    dropLoader_drops_present wellFormed_tinyReused.walkable.navigable (by decide +kernel)
      (show shortLoader.loaderEnd.toNat ≤ 0x400000 by decide)
  refine ⟨cleared, after, hRun, (hCleared loaderPage).mpr ⟨by decide, ?_⟩⟩
  rw [entryAt_tinyReused.1]
  rfl

/-- Of that machine the one page of the loader stub is cleared. -/
theorem exists_run_dropLoader_tinyReused :
    ∃ after, (dropLoader shortLoader).run tinyReused = .done (.ok 1) after ∧
      tinyReused.Sweeps after {loaderPage} := by
  obtain ⟨cleared, after, hRun, hCleared, hSweeps⟩ :=
    exists_run_dropLoader wellFormed_tinyReused.walkable.navigable (by decide +kernel)
      (show shortLoader.loaderEnd.toNat ≤ 0x400000 by decide)
  have hOnly : cleared = {loaderPage} := by
    ext page
    rw [hCleared, Finset.mem_singleton]
    constructor
    · rintro ⟨⟨hFirst, hLast⟩, -⟩
      have hStop : roundUpDiv shortLoader.loaderEnd.toNat Layout.pageBytes = 0x101 := by decide
      have hStart : Layout.lowMemoryBytes / Layout.pageBytes = loaderPage.number := by decide
      have hNumber : loaderPage.number = 0x100 := by decide
      exact Page.ext (by omega)
    · rintro rfl
      refine ⟨by decide, ?_⟩
      rw [entryAt_tinyReused.1]
      rfl
  rw [hOnly, Finset.card_singleton] at hRun
  exact ⟨after, hRun, hOnly ▸ hSweeps⟩

/-- No other page maps frame 2: it has one owner. -/
theorem eq_loaderPage_of_frame {page : VirtualPage}
    (hPage : page.directorySlot ≠ Layout.selfMapSlot)
    (hStored : (tinyReused.entryAt page).storedFrame? = some (Page.ofNumber 2)) :
    page = loaderPage := by
  have hBelow : loaderPage.directorySlot ≠ Layout.selfMapSlot := by decide
  have hUnused : ∀ other : VirtualPage, other.directorySlot ≠ Layout.selfMapSlot →
      Machine.tiny.entryAt other = Entry.zero :=
    fun _ => Machine.pristine_tiny.entryAt_eq_zero
  have hOwner : (tinyReused.entryAt loaderPage).storedFrame? = some (Page.ofNumber 2) := by
    rw [entryAt_tinyReused.1]
    exact Entry.storedFrame?_leaf (by decide) _
  exact ledger_tinyReused.page_eq_of_frame hPage hBelow (hUnused page hPage)
    (hUnused loaderPage hBelow) hStored hOwner

/-- The page does not map its own frame, and is unmapped all the same.  Its frame is not free
then, and no page maps it. -/
theorem dropLoader_loses_frame :
    tinyReused.WellFormed ∧ tinyReused.view = {} ∧ shortLoader.loaderEnd.toNat ≤ 0x400000 ∧
    tinyReused.entryAt loaderPage = Entry.leaf (Page.ofNumber 2) Flags.kernelReadWrite.word ∧
    ∃ after, (dropLoader shortLoader).run tinyReused = .done (.ok 1) after ∧
      after.entryAt loaderPage = Entry.zero ∧ ¬ after.Free (Page.ofNumber 2) ∧
      ∀ page : VirtualPage, page.directorySlot ≠ Layout.selfMapSlot →
        (after.entryAt page).storedFrame? ≠ some (Page.ofNumber 2) := by
  obtain ⟨hEntry, hOccupied⟩ := entryAt_tinyReused
  obtain ⟨after, hRun, hSweeps⟩ := exists_run_dropLoader_tinyReused
  refine ⟨wellFormed_tinyReused, by decide +kernel, by decide, hEntry, after, hRun, ?_, ?_, ?_⟩
  · rw [hSweeps.entries loaderPage (by decide), if_pos (Finset.mem_singleton_self _)]
  · rw [Machine.Free, hSweeps.source_eq]
    show ¬ tinyReused.source.freeAt 2 = true
    rw [hOccupied]
    decide
  · intro page hPage hStored
    rw [hSweeps.entries page hPage] at hStored
    by_cases hSame : page = loaderPage
    · rw [if_pos (hSame ▸ Finset.mem_singleton_self _), Entry.storedFrame?_zero] at hStored
      cases hStored
    · rw [if_neg (by simpa using hSame)] at hStored
      exact hSame (eq_loaderPage_of_frame hPage hStored)

end Action

end TwoLevelPaging
