import TwoLevelPaging.Proofs.AddressSpace.Translation
import TwoLevelPaging.Proofs.Ownership.Demand

/-!
# Mapping pages for the kernel

How many frames a mapping for the kernel uses up, and what it does to the directory.  A page
of a slot without a table takes one frame for the table (`Grown`); a run of pages below
slots with tables takes one frame for each page and leaves the directory alone (`Stacked`).
In both cases the request fails only for want of frames, so whether it succeeds can be told
from the number of free frames.

`MapsKernel` is what comes out of it for the processor: the walk to the page ends in the
frame, and grants stores to the kernel only.
-/

namespace TwoLevelPaging

namespace Machine

variable {size : Nat} {base machine before after : Machine (FrameBitmap size)}
  {page : VirtualPage} {frame table : Frame} {slot : Slot}

/-! ## The walk to a kernel page -/

/-- The page leads to the frame.  The kernel may load and store there, and nobody else may. -/
structure MapsKernel (machine : Machine (FrameBitmap size)) (page : VirtualPage)
    (frame : Frame) : Prop where
  entry : machine.entryAt page = Entry.leaf frame Flags.kernelReadWrite.word
  translation : ∀ address : Address .virtual, Page.containing address = page →
    machine.memory.translate? machine.root address =
      some ⟨frame.join (Offset.ofAddress address), true, false⟩

/-- Both entries on the walk grant stores to the kernel. -/
theorem mapsKernel_of_link (hWalkable : machine.Walkable)
    (hLink : machine.linkAt page.directorySlot = Entry.link table .kernelReadWrite)
    (hEntry : machine.entryAt page = Entry.leaf frame Flags.kernelReadWrite.word) :
    machine.MapsKernel page frame := by
  refine ⟨hEntry, ?_⟩
  rintro address rfl
  have hTable : machine.link? (Page.containing address : VirtualPage).directorySlot =
      some table := by
    rw [link?, hLink, Entry.presentFrame?_link]
  have hRoot := Memory.table?_eq_content hWalkable.root_installed
  have hContent := Memory.table?_eq_content (hWalkable.installed hTable)
  rw [entryAt_of_linked hTable] at hEntry
  rw [linkAt] at hLink
  rw [Memory.translate?_of_linked hRoot (by rw [hLink]; rfl) (by rw [hLink]; exact hContent),
    hLink, hEntry]
  rfl

/-! ## Free frames that are left -/

theorem Taken.card_freeSet (hBefore : before.WellFormed)
    (hTaken : before.Taken (some frame) after) :
    after.source.freeSet.card + 1 = before.source.freeSet.card := by
  obtain ⟨-, hFree, hMarks⟩ := hTaken.marks hBefore.stocked
  exact hMarks.card_freeSet hFree

/-- No frame is left but frame zero, which is never dealt out. -/
theorem Taken.freeSet_eq_empty (hSound : before.source.Sound)
    (hZero : before.source.freeAt 0 = false) (hTaken : before.Taken none after) :
    before.source.freeSet = ∅ := by
  rw [Finset.eq_empty_iff_forall_notMem]
  intro number hFree
  rw [FrameBitmap.mem_freeSet] at hFree
  cases number with
  | zero =>
      rw [hZero] at hFree
      cases hFree
  | succ number => exact hTaken.not_hasSpare hSound ⟨_, Nat.succ_pos number, hFree⟩

/-! ## A page of a slot without a table -/

/-- A free frame has become the table of a slot, and nobody but the kernel may use it. -/
structure Grown (before after : Machine (FrameBitmap size)) (slot : Slot) : Prop where
  stays : Stays before after
  wellFormed : after.WellFormed
  card : after.source.freeSet.card + 1 = before.source.freeSet.card
  free : ∀ number, after.source.freeAt number = true → before.source.freeAt number = true
  linked : ∃ table, after.linkAt slot = Entry.link table .kernelReadWrite
  links : ∀ other, slot ≠ other → after.linkAt other = before.linkAt other

theorem Installs.grown (hBefore : before.WellFormed)
    (hPage : page.directorySlot ≠ Layout.selfMapSlot)
    (hLink : before.link? page.directorySlot = none) {displaced : Option Frame}
    (hInstalls : before.Installs page frame Flags.kernelReadWrite.word false (.ok displaced)
      after) :
    before.Grown after page.directorySlot := by
  have hPlaced := hInstalls.placed_of_ok hBefore hPage
  obtain ⟨_, -, -, hFree, hMarks⟩ := hPlaced.added hLink
  refine ⟨hPlaced.stays, hInstalls.wellFormed hBefore hPage, hMarks.card_freeSet hFree,
    fun _ => hPlaced.freeAt_before, ?_, hPlaced.links⟩
  obtain ⟨table, prepared, hEnsured, -, -, rfl⟩ := hInstalls.exists_place
  have hPrepared := hEnsured.prepared hBefore.walkable.navigable hPage
  have hRewrites := rewrites_place hPrepared.navigable.toSeparated hPage hPrepared.linked
    (Entry.leaf frame Flags.kernelReadWrite.word)
  refine ⟨table, ?_⟩
  cases hEnsured with
  | present hOld =>
      rw [hLink] at hOld
      cases hOld
  | fresh hNone hTake hFresh =>
      rename_i pool events
      have hDrawnRoot : (before.draw pool events).Installed (before.draw pool events).root :=
        hBefore.walkable.root_installed
      rw [hRewrites.links, linkAt_grow hDrawnRoot hFresh.ne_root, if_pos rfl, Flags.ofWord_word]

/-! ## A run of pages below slots with tables -/

/-- Where the table is there already, only the entry of the page is stored, unless unprivileged
code is to reach the page. -/
theorem Installs.kept_of_linked (hBefore : before.Walkable)
    (hPage : page.directorySlot ≠ Layout.selfMapSlot)
    (hLink : before.link? page.directorySlot = some table) {flags : UInt32}
    (hUser : (Flags.ofWord flags).user = false) {displaced : Option Frame}
    (hInstalls : before.Installs page frame flags false (.ok displaced) after) :
    after.source = before.source ∧ ∀ slot, after.linkAt slot = before.linkAt slot := by
  obtain ⟨other, prepared, hEnsured, -, -, rfl⟩ := hInstalls.exists_place
  rw [hUser] at hEnsured
  cases hEnsured with
  | present hOld =>
      have hRewrites := rewrites_place hBefore.toSeparated hPage hOld (Entry.leaf frame flags)
      exact ⟨hRewrites.source_eq, hRewrites.links⟩
  | fresh hNone hTake hFresh =>
      rw [hLink] at hNone
      cases hNone

/-- The pages with numbers in `[start, stop)` have been backed for the kernel since `base`,
with one frame each. -/
structure Stacked (base machine : Machine (FrameBitmap size)) (start stop : Nat) : Prop where
  links : ∀ slot, machine.linkAt slot = base.linkAt slot
  card : machine.source.freeSet.card + (stop - start) = base.source.freeSet.card
  pages : ∀ page : VirtualPage, start ≤ page.number → page.number < stop →
    ∃ frame : Frame, 0 < frame.number ∧
      machine.entryAt page = Entry.leaf frame Flags.kernelReadWrite.word

/-- The pages with numbers in `[start, stop)` can be backed without a new table. -/
structure Backable (base : Machine (FrameBitmap size)) (start stop : Nat) : Prop where
  reserved : ∀ page : VirtualPage, start ≤ page.number → page.number < stop →
    Layout.isReserved page = false
  linked : ∀ page : VirtualPage, start ≤ page.number → page.number < stop →
    ∃ table, base.link? page.directorySlot = some table
  unused : ∀ page : VirtualPage, start ≤ page.number → page.number < stop →
    base.entryAt page = Entry.zero

theorem Stacked.refl (machine : Machine (FrameBitmap size)) (number : Nat) :
    Stacked machine machine number number :=
  ⟨fun _ => rfl, by omega, fun _ _ _ => by omega⟩

theorem Stacked.link?_eq {start stop : Nat} (hStacked : Stacked base machine start stop)
    (slot : Slot) : machine.link? slot = base.link? slot := by
  rw [link?, hStacked.links, link?]

theorem Stacked.unchanged {start stop : Nat} (hStacked : Stacked base before start stop)
    (hUnchanged : Unchanged before after) : Stacked base after start stop :=
  hUnchanged.transfer (fun machine => Stacked base machine start stop)
    (fun _ hBefore => ⟨hBefore.links, hBefore.card, hBefore.pages⟩) hStacked

/-- Backing one more page uses up one more frame: its table is there already. -/
theorem Stacked.extend {start : Nat} (hStacked : Stacked base before start page.number)
    (hBefore : before.WellFormed) (hStart : start ≤ page.number)
    (hRun : ∀ other : VirtualPage, start ≤ other.number → other.number < page.number →
      other.directorySlot ≠ Layout.selfMapSlot)
    (hLink : base.link? page.directorySlot = some table)
    (hBacks : Backs before page Flags.kernelReadWrite.word (.ok ()) after) :
    Stacked base after start (page.number + 1) := by
  have hPages := hBacks.extends_run hBefore fun other hReached hBelow =>
    ⟨hRun other hReached hBelow, hStacked.pages other hReached hBelow⟩
  cases hBacks with
  | placed hPage hTaken hInstalls =>
      rename_i frame displaced drawn
      have hSlot := Layout.directorySlot_ne_of_not_reserved hPage
      have hCard := hTaken.card_freeSet hBefore
      have hDrawn := hTaken.walkable hBefore.walkable
      rw [← hStacked.link?_eq, ← hTaken.link?_eq] at hLink
      obtain ⟨hSource, hLinks⟩ :=
        hInstalls.kept_of_linked hDrawn hSlot hLink (by rw [Flags.ofWord_word]; rfl)
      obtain ⟨pool, events, -, rfl⟩ := hTaken
      have hStackedCard := hStacked.card
      refine ⟨fun slot => (hLinks slot).trans (hStacked.links slot), ?_, hPages⟩
      rw [hSource]
      omega

/-- A page of the run that cannot be backed fails for want of a frame. -/
theorem Stacked.refused {start stop : Nat} (hStacked : Stacked base before start page.number)
    (hBackable : Backable base start stop) (hBefore : before.WellFormed)
    (hZero : before.source.freeAt 0 = false) (hStart : start ≤ page.number)
    (hStop : page.number < stop) (hUnused : before.entryAt page = Entry.zero)
    {error : MapError}
    (hBacks : Backs before page Flags.kernelReadWrite.word (.error error) after) :
    Stacked base after start page.number ∧ error = .outOfMemory ∧
      base.source.freeSet.card < stop - start := by
  cases hBacks with
  | refused hUnchanged hPage =>
      rw [hBackable.reserved page hStart hStop] at hPage
      cases hPage
  | starved hTaken =>
      have hEmpty := hTaken.freeSet_eq_empty hBefore.sound hZero
      have hCard := hStacked.card
      rw [hEmpty, Finset.card_empty] at hCard
      exact ⟨hStacked.unchanged (hTaken.unchanged hBefore.sound), rfl, by omega⟩
  | failed hPage hTaken hInstalls hReleased =>
      have hFree : (before.entryAt page).isFree = true := by
        rw [hUnused]
        exact Entry.isFree_zero
      rw [← hTaken.entryAt_eq] at hFree
      obtain ⟨-, hNoTable⟩ := hInstalls.unchanged_of_error (hTaken.sound hBefore.sound) (.inl hFree)
      obtain ⟨table, hTable⟩ := hBackable.linked page hStart hStop
      rw [← hStacked.link?_eq, ← hTaken.link?_eq] at hTable
      exact absurd (.inl ⟨table, hTable⟩) hNoTable

/-- The loop over such a run. -/
theorem Backable.companion {start stop : Nat} (hBackable : Backable base start stop)
    (hBase : base.WellFormed) (hZero : base.source.freeAt 0 = false) :
    Companion base base ∅ Flags.kernelReadWrite.word start stop
      (fun error => error = .outOfMemory ∧ base.source.freeSet.card < stop - start)
      fun first last machine => first = start → Stacked base machine start last where
  unchanged hUnchanged hHolds hFirst := (hHolds hFirst).unchanged hUnchanged
  backed := by
    intro before after page hStart hStop hBacked hBacks hHolds _
    obtain ⟨table, hTable⟩ := hBackable.linked page hStart hStop
    refine (hHolds rfl).extend (hBacked.wellFormed hBase) hStart ?_ hTable hBacks
    intro other hReached hBelow
    exact Layout.directorySlot_ne_of_not_reserved
      (hBackable.reserved other hReached (by omega))
  refused := by
    intro before after error page hStart hStop hBacked hBacks hHolds
    have hStillZero : before.source.freeAt 0 = false := by
      cases hFree : before.source.freeAt 0 with
      | false => rfl
      | true =>
          rw [hBacked.ledger.freeAt_origin hFree] at hZero
          cases hZero
    have hUnused : before.entryAt page = Entry.zero := by
      rw [hBacked.rest page (Layout.directorySlot_ne_of_not_reserved
        (hBackable.reserved page hStart hStop)) (.inr (Nat.le_refl _)),
        hBackable.unused page hStart hStop]
    obtain ⟨hStill, hFails⟩ := (hHolds rfl).refused hBackable (hBacked.wellFormed hBase)
      hStillZero hStart hStop hUnused hBacks
    exact ⟨fun _ => hStill, hFails⟩
  released := by
    intro stop before after page hStart hStop hBacked hEmpties hHolds hFirst
    omega

end Machine

namespace Action

variable {size : Nat} {machine : Machine (FrameBitmap size)}

/-- Setting the mapping of a free page that is not reserved fails only for want of a frame. -/
theorem leads_setMapping_of_free (hStocked : machine.Stocked)
    {address : Address .virtual} {physical : Address .physical} {page : VirtualPage}
    {frame : Frame} (hPair : alignedPair address physical false = .ok (page, frame))
    (hReserved : Layout.isReserved page = false) (hUnused : machine.entryAt page = Entry.zero)
    (flags : UInt32) :
    Leads (setMapping address physical flags) machine fun reply after =>
      match reply with
      | .ok () => ∃ displaced, machine.Installs page frame flags false (.ok displaced) after
      | .error error => error = .outOfMemory ∧ machine.Taken none after := by
  unfold setMapping
  rw [hPair]
  obtain ⟨rfl, rfl⟩ := alignedPair_eq hPair
  have hSlot := Layout.directorySlot_ne_of_not_reserved hReserved
  refine (leads_refuseReserved machine .setMapping address).bind ?_
  intro checked same hChecked
  cases checked with
  | error error =>
      rw [hReserved] at hChecked
      exact absurd hChecked.2.2 (by simp)
  | ok value =>
      obtain ⟨rfl, -⟩ := hChecked
      refine (leads_install_of_stocked hStocked hSlot _ flags false).bind ?_
      intro result after hInstalls
      cases hInstalls with
      | refused hEnsured =>
          cases hEnsured with
          | starved hLink hTake => exact .pure ⟨rfl, _, _, hTake, rfl⟩
      | occupied hEnsured hUsed hForced =>
          rw [hUnused, Entry.isFree_zero] at hUsed
          cases hUsed
      | placed hEnsured hAllowed => exact .pure ⟨_, .placed hEnsured hAllowed⟩

end Action

end TwoLevelPaging
