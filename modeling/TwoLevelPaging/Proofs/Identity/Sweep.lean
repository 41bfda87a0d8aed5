import Mathlib.Data.Finset.Card
import TwoLevelPaging.Identity
import TwoLevelPaging.Proofs.Remapping

/-!
# Clearing the pages that pass a test

Two loops look pages up one by one and unmap some of them: giving up the memory that the
firmware keeps, and dropping the loader stub.  `clearPages` is what they have in common, with
the test as its parameter (`unlockFrames_eq`, `dropPages_eq`).

The loop clears the pages that pass the test at its start (`Machine.selected`), and counts each
of them once.  A page that has been cleared does not pass again, and clearing a page changes
the entry of no other one, so the choice among the pages that are left stays the same
(`selected_cons_of_passes`).  Nothing else changes (`Machine.Sweeps`).
-/

namespace TwoLevelPaging

theorem Entry.isFree_eq_false_of_present {entry : Entry} (hPresent : entry.present = true) :
    entry.isFree = false := by
  refine Bool.eq_false_of_not_eq_true ?_
  intro hFree
  rw [(isFree_iff entry).mp hFree] at hPresent
  exact absurd hPresent (by decide)

namespace Mapping

@[simp]
theorem ofEntry_zero : ofEntry Entry.zero = {} := by
  rw [ofEntry, if_pos Entry.isFree_zero]

/-- A look-up says that a page is present if the page walk uses its entry. -/
theorem isPresent_ofEntry (entry : Entry) : (ofEntry entry).isPresent = entry.present := by
  cases hFree : entry.isFree with
  | true =>
      rw [(Entry.isFree_iff entry).mp hFree, ofEntry_zero]
      decide
  | false => simp [ofEntry, hFree, isPresent]

end Mapping

/-- The base of a page is the address of its number, in whatever way the number is written. -/
theorem Page.base_ofNumber {space : Space} (number : Nat) :
    (Page.ofNumber number : Page space .small).base =
      Address.ofNat (number * Layout.pageBytes) := by
  apply Address.toNat_injective
  rw [Page.toNat_base, Page.number_ofNumber, Address.toNat_ofNat]
  simp only [PageSize.count, PageSize.bytes, Layout.pageBytes]
  omega

theorem Page.isAligned_base {space : Space} (page : Page space .small) :
    page.base.isAligned .small = true := by
  rw [Address.isAligned, Page.toNat_base, Nat.mul_mod_left]
  rfl

/-- There are no more pages than numbers of pages. -/
theorem Page.card_le_count (pages : Finset VirtualPage) : pages.card ≤ PageSize.small.count := by
  have hNumbers : ∀ page ∈ pages, page.number ∈ Finset.range PageSize.small.count :=
    fun page _ => Finset.mem_range.mpr page.number_lt
  have hCard := Finset.card_le_card_of_injOn Page.number hNumbers
    fun _ _ _ _ hSame => Page.ext hSame
  rwa [Finset.card_range] at hCard

namespace Action

variable {source : Type}

/-! ## One loop for both -/

/-- Unmap each page that passes the test.  The answer counts them, `cleared` of them so far. -/
def clearPages (test : VirtualPage → Mapping → Bool) (cleared : Nat) :
    List VirtualPage → Action source (Except MapError Nat)
  | [] => return .ok cleared
  | page :: rest => do
    let mapping ← lookup page.base
    if test page mapping then
      match ← unmapDevice page.base with
      | .error error => return .error error
      | .ok () =>
        let cleared ← check (Checked.word (cleared + 1))
        clearPages test cleared rest
    else
      clearPages test cleared rest

/-- The mapping is present. -/
def present (_ : VirtualPage) (mapping : Mapping) : Bool :=
  mapping.isPresent

/-- The mapping is present and is one of the page to its own frame. -/
def ownFrame (page : VirtualPage) (mapping : Mapping) : Bool :=
  mapping.isPresent && mapping.frame.number == page.number

theorem ownFrame_ofEntry_iff (page : VirtualPage) (entry : Entry) :
    ownFrame page (Mapping.ofEntry entry) = true ↔
      entry.presentFrame? = some (Page.ofNumber page.number) := by
  rw [ownFrame, Bool.and_eq_true, Mapping.isPresent_ofEntry, beq_iff_eq,
    Entry.presentFrame?_eq_some_iff]
  refine and_congr_right ?_
  intro hPresent
  have hNumber : (Page.ofNumber page.number : Frame).number = page.number :=
    Nat.mod_eq_of_lt page.number_lt
  rw [Mapping.ofEntry, Entry.isFree_eq_false_of_present hPresent, Page.ext_iff, hNumber]
  rfl

theorem dropPages_eq (released : Nat) (numbers : List Nat) :
    (dropPages released numbers : Action source (Except MapError Nat)) =
      clearPages present released (numbers.map Page.ofNumber) := by
  induction numbers generalizing released with
  | nil => rfl
  | cons number rest ih =>
      simp only [dropPages, ih, ← Page.base_ofNumber]
      rfl

theorem unlockFrames_eq {numbers : List Nat}
    (hNumbers : ∀ number ∈ numbers, number < MemoryRegion.frameLimit) (unmapped : Nat) :
    (unlockFrames unmapped numbers : Action source (Except MapError Nat)) =
      clearPages ownFrame unmapped (numbers.map Page.ofNumber) := by
  induction numbers generalizing unmapped with
  | nil => rfl
  | cons number rest ih =>
      have hRest := ih fun other hOther => hNumbers other (List.mem_cons_of_mem number hOther)
      -- A number below the limit is that of a page, so nothing of it is lost.
      obtain ⟨page, rfl⟩ : ∃ page : VirtualPage, page.number = number :=
        ⟨⟨number, hNumbers number List.mem_cons_self⟩, rfl⟩
      have hBase : (Address.ofNat (page.number * Layout.pageBytes) : Address .virtual) =
          page.base := by
        rw [← Page.base_ofNumber, Page.ofNumber_number]
      rw [List.map_cons, Page.ofNumber_number]
      simp only [unlockFrames, mapsItself, bind_assoc, pure_bind, hRest, hBase]
      rfl

end Action

namespace Machine

variable {source : Type} {machine before middle after : Machine source}
  {page other : VirtualPage} {pages : List VirtualPage} {cleared : Finset VirtualPage}
  {test : VirtualPage → Mapping → Bool}

/-! ## What the loop does -/

/-- In the self-map the directory is seen, so its pages stay as long as the directory does. -/
theorem entryAt_eq_of_links (hSelf : before.link? Layout.selfMapSlot = some before.root)
    (hRoot : after.root = before.root) (hLinks : ∀ slot, after.linkAt slot = before.linkAt slot)
    (hPage : page.directorySlot = Layout.selfMapSlot) :
    after.entryAt page = before.entryAt page := by
  have hSelfAfter : after.link? Layout.selfMapSlot = some after.root := by
    rw [link?, hLinks, ← link?, hRoot, hSelf]
  have hWindow : page = Layout.tableWindow page.tableSlot := by
    rw [Layout.tableWindow, ← hPage, Page.ofSlots_directorySlot_tableSlot]
  rw [hWindow, entryAt_tableWindow hSelf, entryAt_tableWindow hSelfAfter, hLinks]

/-- The pages of the list whose entries pass the test. -/
def selected (machine : Machine source) (test : VirtualPage → Mapping → Bool)
    (pages : List VirtualPage) : Finset VirtualPage :=
  pages.toFinset.filter fun page => test page (Mapping.ofEntry (machine.entryAt page)) = true

theorem mem_selected : page ∈ machine.selected test pages ↔
    page ∈ pages ∧ test page (Mapping.ofEntry (machine.entryAt page)) = true := by
  rw [selected, Finset.mem_filter, List.mem_toFinset]

/-- The entries of some pages have been cleared.  The links, the source of frames, all other
pages below the self-map, and all frames but the tables of these pages stay. -/
structure Sweeps (before after : Machine source) (cleared : Finset VirtualPage) : Prop where
  stays : Stays before after
  source_eq : after.source = before.source
  links : ∀ slot, after.linkAt slot = before.linkAt slot
  entries : ∀ page : VirtualPage, page.directorySlot ≠ Layout.selfMapSlot →
    after.entryAt page = if page ∈ cleared then Entry.zero else before.entryAt page
  contents : ∀ frame, (∀ page ∈ cleared, before.link? page.directorySlot ≠ some frame) →
    after.memory.content frame = before.memory.content frame

theorem Sweeps.refl (machine : Machine source) : Sweeps machine machine ∅ :=
  ⟨Stays.refl machine, rfl, fun _ => rfl, fun _ _ => by simp, fun _ _ => rfl⟩

theorem Sweeps.link?_eq (hSweeps : Sweeps before after cleared) (slot : Slot) :
    after.link? slot = before.link? slot := by
  rw [link?, hSweeps.links, link?]

/-- With the self-map in place this is true of every page, if none of the self-map is cleared. -/
theorem Sweeps.entryAt_eq (hSweeps : Sweeps before after cleared)
    (hSelf : before.link? Layout.selfMapSlot = some before.root)
    (hBelow : ∀ page ∈ cleared, page.directorySlot ≠ Layout.selfMapSlot) (page : VirtualPage) :
    after.entryAt page = if page ∈ cleared then Entry.zero else before.entryAt page := by
  by_cases hSlot : page.directorySlot = Layout.selfMapSlot
  · rw [if_neg fun hCleared => hBelow page hCleared hSlot]
    exact entryAt_eq_of_links hSelf hSweeps.stays.root hSweeps.links hSlot
  · exact hSweeps.entries page hSlot

/-- One page is cleared, and then others. -/
theorem Rewrites.sweeps (hRewrites : Rewrites before middle page Entry.zero)
    (hSweeps : Sweeps middle after cleared) : Sweeps before after (insert page cleared) where
  stays := hRewrites.stays.trans hSweeps.stays
  source_eq := hSweeps.source_eq.trans hRewrites.source_eq
  links slot := (hSweeps.links slot).trans (hRewrites.links slot)
  entries other hOther := by
    rw [hSweeps.entries other hOther, hRewrites.entries other hOther]
    by_cases hCleared : other ∈ cleared
    · rw [if_pos hCleared, if_pos (Finset.mem_insert_of_mem hCleared)]
    · rw [if_neg hCleared]
      by_cases hSame : other = page
      · rw [if_pos hSame, if_pos (hSame ▸ Finset.mem_insert_self page cleared)]
      · rw [if_neg hSame, if_neg (by simp [hSame, hCleared])]
  contents frame hFrame := by
    have hLater := hSweeps.contents frame fun other hOther => by
      rw [hRewrites.link?_eq]
      exact hFrame other (Finset.mem_insert_of_mem hOther)
    rw [hLater, hRewrites.contents frame (hFrame page (Finset.mem_insert_self page cleared))]

/-- To report afterwards changes nothing. -/
theorem Sweeps.note (hSweeps : Sweeps before after cleared) (effect : Effect) :
    Sweeps before (after.note effect) cleared :=
  ⟨hSweeps.stays.trans (after.stays_note effect), hSweeps.source_eq, hSweeps.links,
    hSweeps.entries, hSweeps.contents⟩

/-- A page that the loop can deal with: it is reached, also if it belongs to the self-map, and
does not pass the test if it is reserved. -/
structure Clearable (machine : Machine source) (test : VirtualPage → Mapping → Bool)
    (page : VirtualPage) : Prop where
  visible : machine.view.hiddenSlots.contains page.directorySlot = false
  mirrored : page.directorySlot = Layout.selfMapSlot →
    machine.link? Layout.selfMapSlot = some machine.root
  spared : Layout.isReserved page = true →
    test page (Mapping.ofEntry (machine.entryAt page)) = false

/-- The table of the page is installed; in the self-map it is the directory. -/
theorem Clearable.installed (hClearable : machine.Clearable test page)
    (hNavigable : machine.Navigable) {table : Frame}
    (hLink : machine.link? page.directorySlot = some table) : machine.Installed table := by
  by_cases hSlot : page.directorySlot = Layout.selfMapSlot
  · rw [hSlot, hClearable.mirrored hSlot] at hLink
    rw [← Option.some.inj hLink]
    exact hNavigable.root_installed
  · exact hNavigable.table_installed hSlot hLink

theorem Clearable.not_reserved (hClearable : machine.Clearable test page)
    (hPasses : test page (Mapping.ofEntry (machine.entryAt page)) = true) :
    Layout.isReserved page = false := by
  refine Bool.eq_false_of_not_eq_true ?_
  intro hReserved
  rw [hClearable.spared hReserved] at hPasses
  cases hPasses

/-- Another page keeps its entry, also in the self-map, where the directory is seen. -/
theorem Clearable.entryAt_of_ne (hClearable : before.Clearable test other) {entry : Entry}
    (hRewrites : Rewrites before after page entry) (hOther : other ≠ page) :
    after.entryAt other = before.entryAt other := by
  by_cases hSlot : other.directorySlot = Layout.selfMapSlot
  · exact entryAt_eq_of_links (hClearable.mirrored hSlot) hRewrites.stays.root hRewrites.links hSlot
  · rw [hRewrites.entries other hSlot, if_neg hOther]

theorem Clearable.rewrites (hClearable : before.Clearable test other) {entry : Entry}
    (hRewrites : Rewrites before after page entry) (hPage : Layout.isReserved page = false) :
    after.Clearable test other where
  visible := by
    rw [hRewrites.stays.view]
    exact hClearable.visible
  mirrored hSlot := by
    rw [hRewrites.link?_eq, hRewrites.stays.root, hClearable.mirrored hSlot]
  spared hReserved := by
    have hOther : other ≠ page := by
      rintro rfl
      rw [hPage] at hReserved
      cases hReserved
    rw [hClearable.entryAt_of_ne hRewrites hOther]
    exact hClearable.spared hReserved

/-! ## Which pages are selected later on -/

theorem selected_cons_of_fails
    (hFails : test page (Mapping.ofEntry (machine.entryAt page)) = false) :
    machine.selected test (page :: pages) = machine.selected test pages := by
  rw [selected, List.toFinset_cons, Finset.filter_insert, if_neg (by rw [hFails]; decide),
    selected]

/-- Once a page has been cleared, it is not selected again, and of the others the same are, if
the test says the same about them. -/
theorem selected_cons_of_passes
    (hSame : ∀ other ∈ pages, other ≠ page → test other (Mapping.ofEntry (after.entryAt other)) =
      test other (Mapping.ofEntry (before.entryAt other)))
    (hPasses : test page (Mapping.ofEntry (before.entryAt page)) = true)
    (hPage : page.directorySlot ≠ Layout.selfMapSlot) (hZero : ∀ page, test page {} = false)
    (hRewrites : Rewrites before after page Entry.zero) :
    page ∉ after.selected test pages ∧
      before.selected test (page :: pages) = insert page (after.selected test pages) := by
  have hCleared : after.entryAt page = Entry.zero := by
    rw [hRewrites.entries page hPage, if_pos rfl]
  constructor
  · intro hAgain
    have hTest := (mem_selected.mp hAgain).2
    rw [hCleared, Mapping.ofEntry_zero, hZero] at hTest
    cases hTest
  · ext other
    rw [Finset.mem_insert, mem_selected, mem_selected, List.mem_cons]
    by_cases hOther : other = page
    · simp [hOther, hPasses]
    · simp only [hOther, false_or]
      refine and_congr_right ?_
      intro hListed
      rw [hSame other hListed hOther]

end Machine

namespace Action

variable {source : Type} {machine : Machine source} {page : VirtualPage}
  {test : VirtualPage → Mapping → Bool}

/-! ## The run -/

theorem run_lookup (hNavigable : machine.Navigable)
    (hVisible : machine.view.hiddenSlots.contains page.directorySlot = false)
    (hInstalled : ∀ table, machine.link? page.directorySlot = some table →
      machine.Installed table) :
    (lookup page.base).run machine = .done (Mapping.ofEntry (machine.entryAt page)) machine := by
  have hEntry := run_entry? hNavigable hVisible hInstalled
  rw [lookup, run_bind, Page.containing_base, hEntry, Outcome.andThen_done]
  cases hLink : machine.link? page.directorySlot with
  | none => simp [Machine.entryAt_of_unlinked hLink]
  | some table => rfl

theorem alignedPage_base (page : VirtualPage) :
    (alignedPage page.base : Except MapError VirtualPage) = .ok page := by
  rw [alignedPage, if_pos page.isAligned_base, Page.containing_base]

theorem run_unmapDevice (hNavigable : machine.Navigable)
    (hVisible : machine.view.hiddenSlots.contains page.directorySlot = false)
    (hPage : Layout.isReserved page = false) :
    (unmapDevice page.base).run machine = .done (.ok ()) (machine.vacate page) := by
  have hPassed : (refuseReserved .unmapDevice page.base).run machine = _ :=
    run_refuseReserved_of_not_reserved .unmapDevice ((Page.containing_base page).symm ▸ hPage)
  have hSlot := Layout.directorySlot_ne_of_not_reserved hPage
  simp only [unmapDevice, alignedPage_base, run_bind, hPassed, Outcome.andThen_done,
    run_remove hNavigable hVisible fun _ => hNavigable.table_installed hSlot]
  rfl

/-- The pages that pass the test are cleared and counted, each of them once. -/
theorem run_clearPages (hZero : ∀ page, test page {} = false)
    {pages : List VirtualPage} (cleared : Nat) (hNavigable : machine.Navigable)
    (hClearable : ∀ page ∈ pages, machine.Clearable test page)
    (hCount : cleared + (machine.selected test pages).card < 0x100000000) :
    ∃ after, (clearPages test cleared pages).run machine =
        .done (.ok (cleared + (machine.selected test pages).card)) after ∧
      machine.Sweeps after (machine.selected test pages) := by
  -- Induction on the pages that are left, from whatever machine the earlier ones leave.
  induction pages generalizing machine cleared with
  | nil => exact ⟨machine, rfl, .refl machine⟩
  | cons page rest ih =>
      have hFirst := hClearable page List.mem_cons_self
      have hRest : ∀ other ∈ rest, machine.Clearable test other :=
        fun other hOther => hClearable other (List.mem_cons_of_mem page hOther)
      rw [clearPages]
      have hLookup := run_lookup hNavigable hFirst.visible fun _ => hFirst.installed hNavigable
      simp only [run_bind, hLookup, Outcome.andThen_done]
      cases hTest : test page (Mapping.ofEntry (machine.entryAt page)) with
      | false =>
          rw [Machine.selected_cons_of_fails hTest] at hCount ⊢
          exact ih cleared hNavigable hRest hCount
      | true =>
          have hPage := hFirst.not_reserved hTest
          have hSlot := Layout.directorySlot_ne_of_not_reserved hPage
          have hRewrites := Machine.rewrites_vacate hNavigable.toSeparated hSlot
          have hSame : ∀ other ∈ rest, other ≠ page →
              test other (Mapping.ofEntry ((machine.vacate page).entryAt other)) =
                test other (Mapping.ofEntry (machine.entryAt other)) := by
            intro other hListed hOther
            rw [(hRest other hListed).entryAt_of_ne hRewrites hOther]
          obtain ⟨hNew, hSelected⟩ :=
            Machine.selected_cons_of_passes hSame hTest hSlot hZero hRewrites
          rw [hSelected, Finset.card_insert_of_notMem hNew] at hCount ⊢
          obtain ⟨after, hRun, hSweeps⟩ := ih (cleared + 1)
            (hNavigable.congr hRewrites.stays hRewrites.link?_eq)
            (fun other hOther => (hRest other hOther).rewrites hRewrites hPage) (by omega)
          have hWord : Checked.word (cleared + 1) = .ok (cleared + 1) := if_pos (by omega)
          refine ⟨after, ?_, hRewrites.sweeps hSweeps⟩
          simp only [if_true, run_bind, run_unmapDevice hNavigable hFirst.visible hPage,
            Outcome.andThen_done, hWord, run_check_ok, hRun]
          rw [Nat.add_assoc, Nat.add_comm 1]

/-- The whole loop; there are too few pages for the count to leave its register. -/
theorem exists_run_clearPages (hZero : ∀ page, test page {} = false) {pages : List VirtualPage}
    (hNavigable : machine.Navigable) (hClearable : ∀ page ∈ pages, machine.Clearable test page) :
    ∃ after, (clearPages test 0 pages).run machine =
        .done (.ok (machine.selected test pages).card) after ∧
      machine.Sweeps after (machine.selected test pages) := by
  have hCard := Page.card_le_count (machine.selected test pages)
  rw [PageSize.count] at hCard
  have hRun := run_clearPages hZero 0 hNavigable hClearable (by omega)
  rwa [Nat.zero_add] at hRun

end Action

end TwoLevelPaging
