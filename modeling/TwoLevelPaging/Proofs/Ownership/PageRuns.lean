import TwoLevelPaging.Proofs.Ownership.Moves

/-!
# Backing a run of pages, all or nothing

`allocatePages` backs the pages of a run one after the other and releases them
again when one cannot be backed.  `Backed origin machine start stop` describes a
machine in between: beside the pages with numbers in `[start, stop)` no page has
changed since `origin`, and the frames of these pages and of new tables are the
only ones that have left the pool.  Backing moves the upper end of this interval,
releasing the lower one, and the roll-back ends when they meet.

What is left of a refused request are new tables, all of them empty, and more
rights on directory entries (`RolledBack`).

Other facts about runs of pages need the same two loops.  Such a fact is stated as a
`Companion`: what a single page does to it, going up and coming back.
-/

namespace TwoLevelPaging

namespace Machine

variable {size : Nat} {origin base machine before after : Machine (FrameBitmap size)}
  {held : Finset Frame} {page : VirtualPage} {slot : Slot} {start stop : Nat}

/-! ## Outside the tables -/

/-- No frame but the directory and the tables has changed, and no directory entry
that links nothing. -/
structure Outside (origin machine : Machine (FrameBitmap size)) : Prop where
  contents : ∀ frame, frame ≠ machine.root → (∀ slot, machine.link? slot ≠ some frame) →
    machine.memory.content frame = origin.memory.content frame
  unlinked : ∀ slot, machine.link? slot = none → machine.linkAt slot = origin.linkAt slot

theorem Outside.congr (hOutside : Outside origin before) (hMemory : after.memory = before.memory)
    (hRoot : after.root = before.root) : Outside origin after := by
  obtain ⟨memory, pool, root, view, journal⟩ := after
  obtain rfl : memory = before.memory := hMemory
  obtain rfl : root = before.root := hRoot
  exact ⟨hOutside.contents, hOutside.unlinked⟩

theorem Outside.released (hOutside : Outside origin before) {frame : Frame}
    (hReleased : Released before frame after) : Outside origin after := by
  obtain ⟨pool, events, -, rfl⟩ := hReleased
  exact hOutside.congr rfl rfl

theorem Outside.taken (hOutside : Outside origin before) {found : Option Frame}
    (hTaken : Taken before found after) : Outside origin after := by
  obtain ⟨pool, events, -, rfl⟩ := hTaken
  exact hOutside.congr rfl rfl

theorem Outside.ensured (hOutside : Outside origin before) (hBefore : before.Walkable)
    (hSlot : slot ≠ Layout.selfMapSlot) {user : Bool} {result : Except LinkError Frame}
    (hEnsured : Ensured before slot user result after) : Outside origin after := by
  cases result with
  | error cause =>
      cases hEnsured with
      | starved hLink hTake => exact hOutside.congr rfl rfl
  | ok table =>
      have hPrepared := hEnsured.prepared hBefore.navigable hSlot
      have hKept : ∀ other, after.link? other ≠ some table →
          after.link? other = before.link? other := by
        intro other hOther
        refine hPrepared.link?_of_ne ?_
        rintro rfl
        exact hOther hPrepared.linked
      constructor
      · intro frame hRoot hFrame
        have hTable : frame ≠ table := by
          rintro rfl
          exact hFrame slot hPrepared.linked
        rw [hPrepared.stays.root] at hRoot
        rw [hPrepared.contents frame hRoot fun _ => hTable]
        refine hOutside.contents frame hRoot ?_
        intro other hOther
        -- A slot that linked the frame before has not been linked anew.
        by_cases hSame : slot = other
        · subst hSame
          exact hTable (hEnsured.table_eq_of_linked hOther).symm
        · rw [← hPrepared.link?_of_ne hSame] at hOther
          exact hFrame other hOther
      · intro other hOther
        have hDifferent : slot ≠ other := by
          rintro rfl
          rw [hPrepared.linked] at hOther
          cases hOther
        rw [hPrepared.linkAt_of_ne other hDifferent]
        refine hOutside.unlinked other ?_
        rw [← hPrepared.link?_of_ne hDifferent]
        exact hOther

theorem Outside.rewritten (hOutside : Outside origin before) {entry : Entry}
    (hRewrites : Rewrites before after page entry) : Outside origin after := by
  constructor
  · intro frame hRoot hFrame
    simp only [hRewrites.link?_eq] at hFrame
    rw [hRewrites.stays.root] at hRoot
    rw [hRewrites.contents frame (hFrame _), hOutside.contents frame hRoot hFrame]
  · intro slot hSlot
    rw [hRewrites.link?_eq] at hSlot
    rw [hRewrites.links, hOutside.unlinked slot hSlot]

theorem Outside.installed (hOutside : Outside origin before) (hBefore : before.Walkable)
    (hPage : page.directorySlot ≠ Layout.selfMapSlot) {frame : Frame} {flags : UInt32}
    {forced : Bool} {result : Except LinkError (Option Frame)}
    (hInstalls : Installs before page frame flags forced result after) :
    Outside origin after := by
  cases hInstalls with
  | refused hEnsured => exact hOutside.ensured hBefore hPage hEnsured
  | occupied hEnsured hUsed hForced => exact hOutside.ensured hBefore hPage hEnsured
  | placed hEnsured hAllowed =>
      have hPrepared := hEnsured.prepared hBefore.navigable hPage
      exact (hOutside.ensured hBefore hPage hEnsured).rewritten
        (rewrites_place hPrepared.navigable.toSeparated hPage hPrepared.linked _)

/-! ## Between backing and releasing -/

/-- The pages with numbers in `[start, stop)` are all that has been backed since
`base`.  The ledger goes back to an earlier state, and what the client holds is not
touched. -/
structure Backed (origin base : Machine (FrameBitmap size)) (held : Finset Frame)
    (machine : Machine (FrameBitmap size)) (start stop : Nat) : Prop where
  ledger : Ledger origin machine held
  outside : Outside base machine
  ordered : start ≤ stop
  inside : ∀ page : VirtualPage, start ≤ page.number → page.number < stop →
    Layout.isReserved page = false ∧ origin.entryAt page = Entry.zero ∧
      base.entryAt page = Entry.zero
  rest : ∀ page : VirtualPage, page.directorySlot ≠ Layout.selfMapSlot →
    page.number < start ∨ stop ≤ page.number → machine.entryAt page = base.entryAt page

theorem Backed.refl (hLedger : Ledger origin base held) (number : Nat) :
    Backed origin base held base number number where
  ledger := hLedger
  outside := ⟨fun _ _ _ => rfl, fun _ _ => rfl⟩
  ordered := Nat.le_refl number
  inside page hStart hStop := by omega
  rest _ _ _ := rfl

theorem Backed.wellFormed (hBacked : Backed origin base held machine start stop)
    (hOrigin : origin.WellFormed) : machine.WellFormed :=
  hBacked.ledger.wellFormed hOrigin

/-- What changes no page, moves no frame and leaves the memory outside the tables
alone keeps the interval. -/
theorem Backed.congr (hBacked : Backed origin base held before start stop)
    (hLedger : Ledger origin after held) (hOutside : Outside base after)
    (hEntries : ∀ {page : VirtualPage}, page.directorySlot ≠ Layout.selfMapSlot →
      after.entryAt page = before.entryAt page) : Backed origin base held after start stop where
  ledger := hLedger
  outside := hOutside
  ordered := hBacked.ordered
  inside := hBacked.inside
  rest page hPage hApart := by rw [hEntries hPage, hBacked.rest page hPage hApart]

theorem Backed.unchanged (hBacked : Backed origin base held before start stop)
    (hUnchanged : Unchanged before after) : Backed origin base held after start stop := by
  have hLedger := hBacked.ledger.unchanged hUnchanged
  obtain ⟨events, rfl⟩ := hUnchanged.exists_eq_draw
  exact hBacked.congr hLedger (hBacked.outside.congr rfl rfl) fun _ => rfl

/-- A page that cannot be backed leaves the interval as it is. -/
theorem Backed.refused (hBacked : Backed origin base held before start stop)
    (hOrigin : origin.WellFormed) {flags : UInt32} {error : MapError}
    (hBacks : Backs before page flags (.error error) after) :
    Backed origin base held after start stop := by
  have hBefore := hBacked.wellFormed hOrigin
  cases hBacks with
  | refused hUnchanged => exact hBacked.unchanged hUnchanged
  | starved hTaken => exact hBacked.unchanged (hTaken.unchanged hBefore.sound)
  | failed hPage hTaken hInstalls hReleased =>
      rename_i frame cause drawn installed
      have hSlot := Layout.directorySlot_ne_of_not_reserved hPage
      have hDrawn := hTaken.walkable hBefore.walkable
      have hFresh := hBacked.ledger.not_mem_of_free (hTaken.marks hBefore.stocked).2.1
      -- The frame goes from the pool to the client and back.
      have hLedger := (((hBacked.ledger.taken hOrigin hTaken).not_installed hOrigin hSlot
        hInstalls).released hOrigin (Finset.mem_insert_self frame held) hReleased)
      rw [Finset.erase_insert hFresh] at hLedger
      have hOutside := (((hBacked.outside.taken hTaken).installed hDrawn hSlot
        hInstalls).released hReleased)
      refine hBacked.congr hLedger hOutside ?_
      intro other hOther
      have hInstalled := hInstalls.entries_of_error hDrawn.navigable hSlot hOther
      obtain ⟨_, _, -, rfl⟩ := hTaken
      obtain ⟨_, _, -, rfl⟩ := hReleased
      exact hInstalled

/-- A page that is backed moves the upper end. -/
theorem Backed.extend (hBacked : Backed origin base held before start stop)
    (hOrigin : origin.WellFormed) (hNumber : page.number = stop) {flags : UInt32}
    (hBacks : Backs before page flags (.ok ()) after) :
    Backed origin base held after start (stop + 1) := by
  have hBefore := hBacked.wellFormed hOrigin
  cases hBacks with
  | placed hPage hTaken hInstalls =>
      rename_i frame displaced drawn
      have hSlot := Layout.directorySlot_ne_of_not_reserved hPage
      have hDrawn := hTaken.walkable hBefore.walkable
      have hFresh := hBacked.ledger.not_mem_of_free (hTaken.marks hBefore.stocked).2.1
      have hLedger := hBacked.ledger.taken hOrigin hTaken
      have hOutside := (hBacked.outside.taken hTaken).installed hDrawn hSlot hInstalls
      have hOrdered := hBacked.ordered
      have hDrawnEntries : ∀ other, drawn.entryAt other = before.entryAt other := by
        obtain ⟨_, _, -, rfl⟩ := hTaken
        exact fun _ => rfl
      obtain ⟨hDisplaced, hFree, hEntries⟩ := hInstalls.entries_of_ok hDrawn.navigable hSlot
      -- Without force the page was free, so it was free from the start.
      have hUnused := (Entry.isFree_iff _).mp (hFree rfl)
      have hTracked := hLedger.entryAt_origin hSlot (hFree rfl)
      rw [hUnused, Entry.storedFrame?_zero] at hDisplaced
      have hPlaced := (hLedger.installed hOrigin hSlot hTracked
        (Finset.mem_insert_self frame held) hInstalls).1 hDisplaced
      rw [Finset.erase_insert hFresh] at hPlaced
      rw [hDrawnEntries, hBacked.rest page hSlot (by omega)] at hUnused
      refine ⟨hPlaced, hOutside, by omega, ?_, ?_⟩
      · intro other hStart hStop
        by_cases hSame : other = page
        · rw [hSame]
          exact ⟨hPage, hTracked, hUnused⟩
        · have hBelow : other.number ≠ page.number := fun hEqual => hSame (Page.ext hEqual)
          exact hBacked.inside other hStart (by omega)
      · intro other hOther hApart
        have hDifferent : other ≠ page := by
          rintro rfl
          omega
        rw [hEntries other hOther, if_neg hDifferent, hDrawnEntries]
        exact hBacked.rest other hOther (by omega)

/-- A page that is released moves the lower end. -/
theorem Backed.shrink (hBacked : Backed origin base held before start stop)
    (hOrigin : origin.WellFormed) (hNumber : page.number = start) (hStart : start < stop)
    (hEmpties : Empties before page after) :
    Backed origin base held after (start + 1) stop := by
  obtain ⟨hPage, hTracked, hUnused⟩ := hBacked.inside page (by omega) (by omega)
  have hSlot := Layout.directorySlot_ne_of_not_reserved hPage
  have hVacate := rewrites_vacate (hBacked.wellFormed hOrigin).walkable.toSeparated hSlot
  have hVacated : Outside base (before.vacate page) := hBacked.outside.rewritten hVacate
  have hAfter : Outside base after ∧ ∀ other : VirtualPage,
      other.directorySlot ≠ Layout.selfMapSlot →
        after.entryAt other = if other = page then Entry.zero else before.entryAt other := by
    cases hEmpties with
    | unused hStored => exact ⟨hVacated, hVacate.entries⟩
    | returned hStored hReleased =>
        refine ⟨hVacated.released hReleased, ?_⟩
        obtain ⟨_, _, -, rfl⟩ := hReleased
        exact hVacate.entries
  refine ⟨hBacked.ledger.emptied hOrigin hSlot hTracked hEmpties, hAfter.1, hStart, ?_, ?_⟩
  · intro other hOther hStop
    exact hBacked.inside other (by omega) hStop
  · intro other hOther hApart
    rw [hAfter.2 other hOther]
    split
    · rename_i hSame
      rw [hSame, hUnused]
    · rename_i hDifferent
      have hNumbers : other.number ≠ page.number := fun hEqual => hDifferent (Page.ext hEqual)
      exact hBacked.rest other hOther (by omega)

/-- A property that goes along with `Backed` through both loops over the pages with numbers
in `[first, last)`: backing the page at the upper end keeps it, and so does releasing the
page at the lower end.  A page that cannot be backed fails as `fails` says. -/
structure Companion (origin base : Machine (FrameBitmap size)) (held : Finset Frame)
    (flags : UInt32) (first last : Nat) (fails : MapError → Prop)
    (extra : Nat → Nat → Machine (FrameBitmap size) → Prop) : Prop where
  unchanged : ∀ {start stop before after}, Unchanged before after → extra start stop before →
    extra start stop after
  backed : ∀ {before after} {page : VirtualPage}, first ≤ page.number → page.number < last →
    Backed origin base held before first page.number → Backs before page flags (.ok ()) after →
    extra first page.number before → extra first (page.number + 1) after
  refused : ∀ {before after error} {page : VirtualPage}, first ≤ page.number →
    page.number < last → Backed origin base held before first page.number →
    Backs before page flags (.error error) after →
    extra first page.number before → extra first page.number after ∧ fails error
  released : ∀ {stop before after} {page : VirtualPage}, first ≤ page.number →
    page.number < stop → Backed origin base held before page.number stop →
    Empties before page after → extra page.number stop before → extra (page.number + 1) stop after

end Machine

namespace Action

variable {size : Nat} {origin base machine : Machine (FrameBitmap size)} {held : Finset Frame}
  {first : VirtualPage} {flags : UInt32} {last : Nat} {fails : MapError → Prop}
  {extra : Nat → Nat → Machine (FrameBitmap size) → Prop}

/-! ## The two loops -/

/-- A position of a run below the top of the address space is a page. -/
theorem leads_pageAt {position : Nat} (machine : Machine (FrameBitmap size))
    (hTop : first.number + position < PageSize.small.count) :
    Leads (pageAt first position) machine fun page after =>
      after = machine ∧ page.number = first.number + position := by
  have hWord : Checked.word (first.number + position) = .ok (first.number + position) := by
    rw [Checked.word_eq_ok_iff]
    simp only [PageSize.count] at hTop
    exact ⟨by omega, rfl⟩
  refine leads_of_run (Page.ofNumber (first.number + position)) machine
    ⟨rfl, Nat.mod_eq_of_lt hTop⟩ rfl rfl ?_
  intro view _
  simp [pageAt, hWord]

theorem leads_backPages (hOrigin : origin.WellFormed)
    (hExtra : Machine.Companion origin base held flags first.number last fails extra)
    (hTop : last ≤ PageSize.small.count) (count : Nat) :
    ∀ (position : Nat) (machine : Machine (FrameBitmap size)),
      first.number + position + count = last →
      origin.Backed base held machine first.number (first.number + position) →
      extra first.number (first.number + position) machine →
      Leads (backPages first flags position count) machine fun reply after =>
        match reply with
        | .ok () => origin.Backed base held after first.number last ∧ extra first.number last after
        | .error (failed, error) => fails error ∧ first.number + failed < last ∧
            origin.Backed base held after first.number (first.number + failed) ∧
            extra first.number (first.number + failed) after := by
  -- Induction on the pages that are left; `Backed` and `extra` hold of those that are done.
  induction count with
  | zero =>
      intro position machine hLast hBacked hHolds
      obtain rfl : first.number + position = last := hLast
      exact .pure ⟨hBacked, hHolds⟩
  | succ count ih =>
      intro position machine hLast hBacked hHolds
      refine (leads_pageAt machine (by omega)).bind ?_
      rintro page same ⟨rfl, hNumber⟩
      have hReached : first.number ≤ page.number := by omega
      have hBelow : page.number < last := by omega
      rw [← hNumber] at hBacked hHolds
      refine (leads_backPage (hBacked.wellFormed hOrigin).stocked page flags).bind ?_
      intro reply after hBacks
      cases reply with
      | error error =>
          obtain ⟨hStill, hFails⟩ := hExtra.refused hReached hBelow hBacked hBacks hHolds
          have hRefused := hBacked.refused hOrigin hBacks
          rw [hNumber] at hBelow hRefused hStill
          exact .pure ⟨hFails, hBelow, hRefused, hStill⟩
      | ok value =>
          have hExtended := hBacked.extend hOrigin rfl hBacks
          have hNext := hExtra.backed hReached hBelow hBacked hBacks hHolds
          rw [hNumber] at hExtended hNext
          exact ih (position + 1) after (by omega) hExtended hNext

theorem leads_releasePages (hOrigin : origin.WellFormed)
    (hExtra : Machine.Companion origin base held flags first.number last fails extra) {stop : Nat}
    (hTop : stop ≤ PageSize.small.count) (count : Nat) :
    ∀ (position : Nat) (machine : Machine (FrameBitmap size)),
      first.number + position + count = stop →
      origin.Backed base held machine (first.number + position) stop →
      extra (first.number + position) stop machine →
      Leads (releasePages first position count) machine fun _ after =>
        origin.Backed base held after stop stop ∧ extra stop stop after := by
  induction count with
  | zero =>
      intro position machine hStop hBacked hHolds
      obtain rfl : first.number + position = stop := hStop
      exact .pure ⟨hBacked, hHolds⟩
  | succ count ih =>
      intro position machine hStop hBacked hHolds
      have hMachine := hBacked.wellFormed hOrigin
      refine (leads_pageAt machine (by omega)).bind ?_
      rintro page same ⟨rfl, hNumber⟩
      have hReached : first.number ≤ page.number := by omega
      have hBelow : page.number < stop := by omega
      rw [← hNumber] at hBacked hHolds
      have hSlot := Layout.directorySlot_ne_of_not_reserved
        (hBacked.inside page (Nat.le_refl _) hBelow).1
      refine (leads_releasePage hMachine.stocked.toTraversable hMachine.sound hSlot).bind ?_
      intro value after hEmpties
      have hShrunk := hBacked.shrink hOrigin rfl hBelow hEmpties
      have hNext := hExtra.released hReached hBelow hBacked hEmpties hHolds
      rw [hNumber] at hShrunk hNext
      exact ih (position + 1) after (by omega) hShrunk hNext

/-- The arguments of a request for a run of pages that can be a run. -/
def IsRun (address : Address .virtual) (bytes : UInt32) : Prop :=
  address.isAligned .small = true ∧ bytes.toNat % Layout.pageBytes = 0 ∧
    address.toNat + bytes.toNat ≤ 0x100000000

/-- A request for a run of pages is refused at once, or it is the loop that backs pages and,
after a failure, the one that releases those in front of the failing page. -/
theorem leads_allocatePages_of_loops {machine : Machine (FrameBitmap size)}
    {address : Address .virtual} {bytes : UInt32}
    {backed : Except (Nat × MapError) Unit → Machine (FrameBitmap size) → Prop}
    {post : Except MapError Unit → Machine (FrameBitmap size) → Prop}
    (hRefused : ¬ IsRun address bytes → post (.error .invalidAddress) machine)
    (hBack : IsRun address bytes →
      (Page.containing address : VirtualPage).number + bytes.toNat / Layout.pageBytes ≤
        PageSize.small.count →
      Leads (backPages (Page.containing address) flags 0 (bytes.toNat / Layout.pageBytes)) machine
        backed)
    (hDone : ∀ after, IsRun address bytes → backed (.ok ()) after → post (.ok ()) after)
    (hUndo : ∀ failed error after reported,
      (Page.containing address : VirtualPage).number + bytes.toNat / Layout.pageBytes ≤
        PageSize.small.count →
      backed (.error (failed, error)) after → Machine.Unchanged after reported →
      Leads (releasePages (Page.containing address) 0 failed) reported
        fun _ last => post (.error error) last) :
    Leads (allocatePages address bytes flags) machine post := by
  unfold allocatePages
  cases hSmall : address.isAligned .small with
  | false =>
      have hAligned : alignedPage address = .error .invalidAddress := by
        rw [alignedPage, hSmall, if_neg Bool.false_ne_true]
      rw [hAligned]
      refine .pure (hRefused ?_)
      rintro ⟨hRun, -⟩
      rw [hSmall] at hRun
      cases hRun
  | true =>
      have hAligned : alignedPage address = .ok (Page.containing address) := by
        rw [alignedPage, hSmall, if_pos rfl]
      rw [hAligned]
      by_cases hRange : bytes.toNat % Layout.pageBytes ≠ 0 ∨
          0x100000000 < address.toNat + bytes.toNat
      · simp only [if_pos hRange]
        refine .pure (hRefused ?_)
        rintro ⟨-, hWhole, hTop⟩
        exact hRange.elim (fun hPart => hPart hWhole) (Nat.not_lt.mpr hTop)
      · simp only [if_neg hRange]
        simp only [not_or, not_not, Nat.not_lt] at hRange
        have hRun : IsRun address bytes := ⟨hSmall, hRange⟩
        have hTop : (Page.containing address : VirtualPage).number +
            bytes.toNat / Layout.pageBytes ≤ PageSize.small.count := by
          simp only [Layout.pageBytes, Page.number_containing, PageSize.bytes,
            PageSize.count] at hRange ⊢
          omega
        refine (hBack hRun hTop).bind ?_
        intro reply after hReply
        cases reply with
        | ok value => exact .pure (hDone after hRun hReply)
        | error failure =>
            obtain ⟨failed, error⟩ := failure
            refine (leads_record after _).bind ?_
            rintro value reported rfl
            refine (hUndo failed error after _ hTop hReply (after.unchanged_note _)).bind ?_
            intro value last hLast
            exact .pure hLast

/-- A run of pages is backed as a whole, or released again up to the last page, and what
goes along with the loops holds at the end. -/
theorem leads_allocatePages_of_companion (hOrigin : origin.WellFormed)
    (hLedger : origin.Ledger base held) (address : Address .virtual) (bytes : UInt32)
    (hExtra : Machine.Companion origin base held flags
      (Page.containing address : VirtualPage).number
      ((Page.containing address : VirtualPage).number + bytes.toNat / Layout.pageBytes) fails extra)
    (hBase : extra (Page.containing address : VirtualPage).number
      (Page.containing address : VirtualPage).number base) :
    Leads (allocatePages address bytes flags) base fun reply after =>
      match reply with
      | .ok () => IsRun address bytes ∧
          origin.Backed base held after (Page.containing address : VirtualPage).number
            ((Page.containing address : VirtualPage).number + bytes.toNat / Layout.pageBytes) ∧
          extra (Page.containing address : VirtualPage).number
            ((Page.containing address : VirtualPage).number + bytes.toNat / Layout.pageBytes) after
      | .error error => (¬ IsRun address bytes ∧ error = .invalidAddress ∧ after = base) ∨
          (fails error ∧ ∃ number, origin.Backed base held after number number ∧
            extra number number after) := by
  refine leads_allocatePages_of_loops (fun hNot => .inl ⟨hNot, rfl, rfl⟩)
    (fun _ hTop => leads_backPages hOrigin hExtra hTop _ 0 base rfl (.refl hLedger _) hBase)
    (fun after hRun hReply => ⟨hRun, hReply⟩) ?_
  -- The pages in front of the failing one are released from the first one on.
  rintro failed error after reported hTop ⟨hFails, hFailed, hBacked, hHolds⟩ hReported
  refine (leads_releasePages hOrigin hExtra (by omega) failed 0 reported rfl
    (hBacked.unchanged hReported) (hExtra.unchanged hReported hHolds)).mono ?_
  intro value last hLast
  exact .inr ⟨hFails, _, hLast⟩

/-- A run of pages is backed, or released again up to the last page. -/
theorem leads_allocatePages (hOrigin : origin.WellFormed) (hLedger : origin.Ledger base held)
    (address : Address .virtual) (bytes : UInt32) (flags : UInt32) :
    Leads (allocatePages address bytes flags) base fun reply after =>
      match reply with
      | .ok () => ∃ start stop, origin.Backed base held after start stop
      | .error _ => ∃ number, origin.Backed base held after number number := by
  have hNothing : ∀ first last, Machine.Companion origin base held flags first last
      (fun _ => True) fun _ _ _ => True := fun first last =>
    ⟨fun _ _ => trivial, fun _ _ _ _ _ => trivial, fun _ _ _ _ _ => ⟨trivial, trivial⟩,
      fun _ _ _ _ _ => trivial⟩
  refine (leads_allocatePages_of_companion hOrigin hLedger address bytes (hNothing _ _)
    trivial).mono ?_
  intro reply after hReply
  cases reply with
  | ok value => exact ⟨_, _, hReply.2.1⟩
  | error error =>
      rcases hReply with ⟨-, -, rfl⟩ | ⟨-, number, hBacked, -⟩
      · exact ⟨0, .refl hLedger 0⟩
      · exact ⟨number, hBacked⟩

end Action

end TwoLevelPaging
