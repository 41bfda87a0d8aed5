import Mathlib.Data.Set.Insert
import TwoLevelPaging.Proofs.BringUp.KernelPages
import TwoLevelPaging.Proofs.Displacement
import TwoLevelPaging.Proofs.Identity.Regions
import TwoLevelPaging.Proofs.Identity.Sweep

/-!
# Which pages are locked and unlocked

`Machine.Locks` says what locking can do at most, also if it ends early.  Here is all that it
does if it succeeds: every listed page that was available maps its own frame, every other page
has its entry, and of the free frames only those of new tables are gone (`Machine.LocksAll`).
A page is reserved, in use or available, and locking meets one case after the other
(`SetsOwn`, and `LocksPage` on well-formed machines); the loop is an induction on the list
(`exists_run_lockFrames`).  A page that is listed twice is in use the second time, and is
counted again.

Unlocking clears the pages of the list that map their own frames, whoever has mapped them.  It
fails where such a page is reserved, and this is all that can go wrong
(`exists_run_unlockReserved`).
-/

namespace TwoLevelPaging

namespace MemoryRegion

/-- A region that the firmware keeps covers the frame. -/
def Reserved (regions : List MemoryRegion) (frame : Nat) : Prop :=
  ∃ region ∈ regions, region.isAvailable = false ∧ region.Covers frame

/-- The pages of these numbers. -/
def pagesOf (numbers : List Nat) : List VirtualPage :=
  numbers.map Page.ofNumber

theorem setOf_mem_pagesOf_cons (number : Nat) (rest : List Nat) :
    {page | page ∈ pagesOf (number :: rest)} =
      {Page.ofNumber number} ∪ {page | page ∈ pagesOf rest} := by
  ext page
  simp [pagesOf]

/-- The pages that locking and unlocking go through. -/
theorem setOf_mem_pagesOf {regions : List MemoryRegion} {frames : List Nat}
    (hFrames : reservedFrames regions = .ok frames) :
    {page | page ∈ pagesOf frames} = {page : VirtualPage | Reserved regions page.number} := by
  obtain ⟨listed, hListed, hMember⟩ := exists_reservedFrames_eq regions
  obtain rfl := Except.ok.inj (hFrames.symm.trans hListed)
  ext page
  show page ∈ List.map Page.ofNumber frames ↔ Reserved regions page.number
  rw [List.mem_map]
  constructor
  · rintro ⟨number, hNumber, rfl⟩
    obtain ⟨hBelow, hReserved⟩ := (hMember number).mp hNumber
    have hNumber : (Page.ofNumber number : VirtualPage).number = number := Nat.mod_eq_of_lt hBelow
    rwa [hNumber]
  · intro hReserved
    exact ⟨page.number, (hMember _).mpr ⟨page.number_lt, hReserved⟩, page.ofNumber_number⟩

end MemoryRegion

/-- The entry of a page that is locked: its own frame, read-only. -/
def Entry.locked (page : VirtualPage) : Entry :=
  leaf (Page.ofNumber page.number) Flags.kernelReadOnly.word

theorem Entry.isFree_locked (page : VirtualPage) : (locked page).isFree = false :=
  isFree_eq_false_of_present rfl

theorem Entry.storedFrame?_locked (page : VirtualPage) :
    (locked page).storedFrame? = some (Page.ofNumber page.number) := by
  rw [storedFrame?, isFree_locked]
  rfl

theorem Entry.presentFrame?_locked (page : VirtualPage) :
    (locked page).presentFrame? = some (Page.ofNumber page.number) :=
  (presentFrame?_eq_some_iff _ _).mpr ⟨rfl, rfl⟩

namespace Machine

variable {size : Nat} {machine before middle after last : Machine (FrameBitmap size)}
  {page : VirtualPage} {first second pages : Set VirtualPage} {table : Frame}

/-! ## What locking does -/

/-- Locking the page succeeds: it is not reserved, and it is free or stores its own frame
already. -/
def Lockable (machine : Machine (FrameBitmap size)) (page : VirtualPage) : Prop :=
  Layout.isReserved page = false ∧ ((machine.entryAt page).isFree = true ∨
    (machine.entryAt page).storedFrame? = some (Page.ofNumber page.number))

instance (machine : Machine (FrameBitmap size)) (page : VirtualPage) :
    Decidable (machine.Lockable page) :=
  inferInstanceAs (Decidable (_ ∧ _))

/-- The page is present and maps its own frame. -/
def MapsOwn (machine : Machine (FrameBitmap size)) (page : VirtualPage) : Prop :=
  (machine.entryAt page).presentFrame? = some (Page.ofNumber page.number)

/-- The available pages of a set are mapped to their own frames, read-only, and every other
page below the self-map has its entry.  The frames that are not free any more are those of new
tables, each for a page that has been mapped, and no other directory entry has changed. -/
structure LocksAll (before after : Machine (FrameBitmap size)) (pages : Set VirtualPage) :
    Prop where
  wellFormed : after.WellFormed
  stays : Stays before after
  mapped : ∀ {page}, page ∈ pages → before.Available page → after.entryAt page = Entry.locked page
  kept : ∀ {page : VirtualPage}, page.directorySlot ≠ Layout.selfMapSlot →
    ¬ (page ∈ pages ∧ before.Available page) → after.entryAt page = before.entryAt page
  links : ∀ slot, after.linkAt slot = before.linkAt slot ∨
    before.link? slot = none ∧ (∃ table, after.link? slot = some table) ∧
      ∃ page ∈ pages, before.Available page ∧ page.directorySlot = slot
  added : ∀ {table}, NewTable before after table → before.Free table
  free_iff : ∀ number, after.source.freeAt number = true ↔
    before.source.freeAt number = true ∧
      ¬ ∃ table, NewTable before after table ∧ table.number = number

namespace LocksAll

/-- A table stays where it is. -/
theorem link?_eq (hLocks : LocksAll before after pages) {slot : Slot}
    (hLink : before.link? slot = some table) : after.link? slot = some table := by
  rcases hLocks.links slot with hSame | ⟨hNone, -⟩
  · rw [link?, hSame]
    exact hLink
  · rw [hLink] at hNone
    cases hNone

/-- What is available afterwards was so before, and not in the set. -/
theorem available_iff (hLocks : LocksAll before after pages) :
    after.Available page ↔ before.Available page ∧ page ∉ pages := by
  constructor
  · intro hAfter
    by_cases hMapped : page ∈ pages ∧ before.Available page
    · have hFree := hAfter.1
      rw [hLocks.mapped hMapped.1 hMapped.2, Entry.isFree_locked] at hFree
      cases hFree
    · have hEntry := hLocks.kept hAfter.directorySlot_ne hMapped
      have hBefore : before.Available page := ⟨hEntry ▸ hAfter.1, hAfter.2⟩
      exact ⟨hBefore, fun hPage => hMapped ⟨hPage, hBefore⟩⟩
  · rintro ⟨hBefore, hPage⟩
    have hEntry := hLocks.kept hBefore.directorySlot_ne fun hMapped => hPage hMapped.1
    exact ⟨hEntry ▸ hBefore.1, hBefore.2⟩

/-- A page can be locked afterwards exactly if it could be before. -/
theorem lockable_iff (hLocks : LocksAll before after pages) :
    after.Lockable page ↔ before.Lockable page := by
  refine and_congr_right ?_
  intro hReserved
  by_cases hMapped : page ∈ pages ∧ before.Available page
  · rw [hLocks.mapped hMapped.1 hMapped.2]
    exact iff_of_true (.inr (Entry.storedFrame?_locked page)) (.inl hMapped.2.1)
  · rw [hLocks.kept (Layout.directorySlot_ne_of_not_reserved hReserved) hMapped]

theorem newTable_iff (hFirst : LocksAll before middle first)
    (hSecond : LocksAll middle after second) :
    NewTable before after table ↔ NewTable before middle table ∨ NewTable middle after table := by
  constructor
  · rintro ⟨slot, hNone, hLink⟩
    cases hMiddle : middle.link? slot with
    | none => exact .inr ⟨slot, hMiddle, hLink⟩
    | some linked =>
        rw [hSecond.link?_eq hMiddle] at hLink
        exact .inl ⟨slot, hNone, hMiddle.trans hLink⟩
  · rintro (⟨slot, hNone, hLink⟩ | ⟨slot, hNone, hLink⟩)
    · exact ⟨slot, hNone, hSecond.link?_eq hLink⟩
    · refine ⟨slot, ?_, hLink⟩
      cases hBefore : before.link? slot with
      | none => rfl
      | some linked =>
          rw [hFirst.link?_eq hBefore] at hNone
          cases hNone

theorem trans (hFirst : LocksAll before middle first) (hSecond : LocksAll middle after second) :
    LocksAll before after (first ∪ second) where
  wellFormed := hSecond.wellFormed
  stays := hFirst.stays.trans hSecond.stays
  mapped {page} hPage hAvailable := by
    by_cases hEarly : page ∈ first
    · have hTaken : ¬ (page ∈ second ∧ middle.Available page) := fun hLate =>
        (hFirst.available_iff.mp hLate.2).2 hEarly
      rw [hSecond.kept hAvailable.directorySlot_ne hTaken, hFirst.mapped hEarly hAvailable]
    · exact hSecond.mapped (hPage.resolve_left hEarly)
        (hFirst.available_iff.mpr ⟨hAvailable, hEarly⟩)
  kept {page} hPage hMapped := by
    have hEarly : ¬ (page ∈ first ∧ before.Available page) := fun hBoth =>
      hMapped ⟨.inl hBoth.1, hBoth.2⟩
    have hLate : ¬ (page ∈ second ∧ middle.Available page) := fun hBoth =>
      hMapped ⟨.inr hBoth.1, (hFirst.available_iff.mp hBoth.2).1⟩
    rw [hSecond.kept hPage hLate, hFirst.kept hPage hEarly]
  links slot := by
    rcases hFirst.links slot with hSame | ⟨hNone, ⟨linked, hLink⟩, page, hPage, hAvailable⟩
    · rcases hSecond.links slot with hKept | ⟨hNone, hLink, page, hPage, hAvailable, hSlot⟩
      · exact .inl (hKept.trans hSame)
      · have hBefore : before.link? slot = none := by rw [link?, ← hSame, ← link?, hNone]
        exact .inr ⟨hBefore, hLink, page, .inr hPage, (hFirst.available_iff.mp hAvailable).1, hSlot⟩
    · exact .inr ⟨hNone, ⟨linked, hSecond.link?_eq hLink⟩, page, .inl hPage, hAvailable⟩
  added hNew := by
    rcases (hFirst.newTable_iff hSecond).mp hNew with hEarly | hLate
    · exact hFirst.added hEarly
    · exact ((hFirst.free_iff _).mp (hSecond.added hLate)).1
  free_iff number := by
    simp only [hSecond.free_iff, hFirst.free_iff, hFirst.newTable_iff hSecond, or_and_right,
      exists_or, not_or, and_assoc]

/-- Nothing is done for pages that are not available, apart from reports. -/
theorem of_unchanged (hWellFormed : before.WellFormed) (hUnchanged : Unchanged before after)
    (hPages : ∀ page ∈ pages, ¬ before.Available page) : LocksAll before after pages := by
  have hAfter := hUnchanged.wellFormed hWellFormed
  obtain ⟨events, rfl⟩ := hUnchanged.exists_eq_draw
  have hNew : ∀ table, ¬ NewTable before (before.draw before.source events) table :=
    not_newTable_of_link?_eq fun _ => rfl
  refine ⟨hAfter, before.stays_draw _ events, ?_, fun _ _ => rfl, fun _ => .inl rfl, ?_, ?_⟩
  · intro page hPage hAvailable
    exact absurd hAvailable (hPages page hPage)
  · intro table hTable
    exact absurd hTable (hNew table)
  · intro number
    simp [hNew]

/-- To report afterwards changes nothing. -/
theorem note (hLocks : LocksAll before after pages) (event : Event) :
    LocksAll before (after.note (.reported event)) pages := by
  have hNone : LocksAll after (after.note (.reported event)) ∅ :=
    .of_unchanged hLocks.wellFormed (after.unchanged_note event) (by simp)
  have hBoth := hLocks.trans hNone
  rwa [Set.union_empty] at hBoth

end LocksAll

/-! ## What unlocking does -/

/-- The kept pages that map their own frames are cleared, and nothing else has changed. -/
structure Unlocks (before after : Machine (FrameBitmap size)) (regions : List MemoryRegion)
    (cleared : Finset VirtualPage) : Prop where
  mem_iff : ∀ page, page ∈ cleared ↔
    MemoryRegion.Reserved regions page.number ∧ before.MapsOwn page
  sweeps : Sweeps before after cleared
  entryAt_eq : ∀ page,
    after.entryAt page = if page ∈ cleared then Entry.zero else before.entryAt page

/-- A page that has been locked is free again after it has been unlocked. -/
theorem LocksAll.unlocked {regions : List MemoryRegion} {cleared : Finset VirtualPage}
    (hLocks : LocksAll before middle {page | MemoryRegion.Reserved regions page.number})
    (hUnlocks : Unlocks middle after regions cleared)
    (hPage : MemoryRegion.Reserved regions page.number) (hAvailable : before.Available page) :
    page ∈ cleared ∧ after.entryAt page = before.entryAt page := by
  have hLocked := hLocks.mapped hPage hAvailable
  have hCleared : page ∈ cleared := by
    rw [hUnlocks.mem_iff, MapsOwn, hLocked]
    exact ⟨hPage, Entry.presentFrame?_locked page⟩
  rw [hUnlocks.entryAt_eq, if_pos hCleared, (Entry.isFree_iff _).mp hAvailable.1]
  exact ⟨hCleared, rfl⟩

/-! ## Locking one page -/

/-- The ways in which setting the mapping of a page to its own frame ends: no frame is left for
a table, the page is mapped, it stores its own frame already, it is reserved, or it is in use
for something else. -/
inductive SetsOwn (machine : Machine (FrameBitmap size)) (page : VirtualPage) :
    Except MapError Unit → Machine (FrameBitmap size) → Prop
  | starved {after : Machine (FrameBitmap size)} (hTaken : Taken machine none after) :
      SetsOwn machine page (.error .outOfMemory) after
  | placed {displaced : Option Frame} {after : Machine (FrameBitmap size)}
      (hAvailable : machine.Available page)
      (hInstalls : Installs machine page (Page.ofNumber page.number) Flags.kernelReadOnly.word false
        (.ok displaced) after) : SetsOwn machine page (.ok ()) after
  | stored (hReserved : Layout.isReserved page = false)
      (hUsed : (machine.entryAt page).isFree = false)
      (hStored : (machine.entryAt page).storedFrame? = some (Page.ofNumber page.number)) :
      SetsOwn machine page (.ok ()) machine
  | guarded {after : Machine (FrameBitmap size)} (hReserved : Layout.isReserved page = true)
      (hUnchanged : Unchanged machine after) :
      SetsOwn machine page (.error .protectedRegion) after
  | taken (hUsed : (machine.entryAt page).isFree = false)
      (hOther : (machine.entryAt page).storedFrame? ≠ some (Page.ofNumber page.number)) :
      SetsOwn machine page (.error .conflict) machine

/-- A mapping that is placed changes neither the directory nor the view. -/
theorem Installs.stays_of_ok (hNavigable : machine.Navigable)
    (hPage : page.directorySlot ≠ Layout.selfMapSlot) {frame : Frame} {flags : UInt32}
    {forced : Bool} {displaced : Option Frame}
    (hInstalls : Installs machine page frame flags forced (.ok displaced) after) :
    Stays machine after := by
  obtain ⟨table, prepared, hEnsured, -, -, rfl⟩ := hInstalls.exists_place
  have hPrepared := hEnsured.prepared hNavigable hPage
  exact hPrepared.stays.trans (rewrites_place hPrepared.navigable.toSeparated hPage
    hPrepared.linked (Entry.leaf frame flags)).stays

/-- A mapping of an available page to its own frame. -/
theorem Installs.locksAll (hWellFormed : machine.WellFormed) (hAvailable : machine.Available page)
    {displaced : Option Frame}
    (hInstalls : Installs machine page (Page.ofNumber page.number) Flags.kernelReadOnly.word false
      (.ok displaced) after) : LocksAll machine after {page} := by
  have hSlot := hAvailable.directorySlot_ne
  have hPlaced := hInstalls.placed_of_ok hWellFormed hSlot
  have hDisplaces := hPlaced.displaces
  refine ⟨hInstalls.wellFormed hWellFormed hSlot, hDisplaces.stays, ?_, ?_, ?_, ?_, ?_⟩
  · rintro other rfl -
    exact hDisplaces.entry
  · intro other hOther hMapped
    refine hDisplaces.entries other hOther ?_
    rintro rfl
    exact hMapped ⟨rfl, hAvailable⟩
  · intro slot
    by_cases hSame : page.directorySlot = slot
    · subst hSame
      cases hLink : machine.link? page.directorySlot with
      | some linked =>
          exact .inl ((hInstalls.kept_of_linked hWellFormed.walkable hSlot hLink rfl).2 _)
      | none =>
          obtain ⟨linked, hLinked, -⟩ := hPlaced.added hLink
          exact .inr ⟨rfl, ⟨linked, hLinked⟩, page, rfl, hAvailable, rfl⟩
    · exact .inl (hDisplaces.links slot hSame)
  · intro table hNew
    exact (hDisplaces.added hNew).2
  · intro number
    rw [FrameBitmap.freeAt_eq_true_iff, FrameBitmap.freeAt_eq_true_iff, hDisplaces.limit,
      and_assoc, ← Bool.not_eq_true, ← Bool.not_eq_true, hDisplaces.bits]
    simp only [not_frees_none, not_false_eq_true, and_true, not_or]

/-- The ways in which locking one page ends: no frame is left for its table, or the page is
locked, or it is passed over because it is reserved or maps something else. -/
inductive LocksPage (machine : Machine (FrameBitmap size)) (page : VirtualPage) :
    Except MapError Unit → Machine (FrameBitmap size) → Prop
  | starved {after : Machine (FrameBitmap size)} (hUnchanged : Unchanged machine after) :
      LocksPage machine page (.error .outOfMemory) after
  | locked {after : Machine (FrameBitmap size)} (hLockable : machine.Lockable page)
      (hLocks : LocksAll machine after {page}) : LocksPage machine page (.ok ()) after
  | guarded {after : Machine (FrameBitmap size)} (hLockable : ¬ machine.Lockable page)
      (hLocks : LocksAll machine after {page}) :
      LocksPage machine page (.error .protectedRegion) after
  | taken {after : Machine (FrameBitmap size)} (hLockable : ¬ machine.Lockable page)
      (hLocks : LocksAll machine after {page}) : LocksPage machine page (.error .conflict) after

/-- On a well-formed machine, locking a page ends in one of these ways. -/
theorem SetsOwn.locksPage (hWellFormed : machine.WellFormed) {reply : Except MapError Unit}
    (hSets : machine.SetsOwn page reply after) : machine.LocksPage page reply after := by
  cases hSets with
  | starved hTaken => exact .starved (hTaken.unchanged hWellFormed.sound)
  | placed hAvailable hInstalls =>
      exact .locked ⟨hAvailable.2, .inl hAvailable.1⟩ (hInstalls.locksAll hWellFormed hAvailable)
  | stored hReserved hUsed hStored =>
      refine .locked ⟨hReserved, .inr hStored⟩ (.of_unchanged hWellFormed (.refl _) ?_)
      rintro other rfl hAvailable
      exact absurd (hUsed.symm.trans hAvailable.1) (by decide)
  | guarded hReserved hUnchanged =>
      refine .guarded ?_ (.of_unchanged hWellFormed hUnchanged ?_)
      · intro hLockable
        exact absurd (hReserved.symm.trans hLockable.1) (by decide)
      · rintro other rfl hAvailable
        exact absurd (hReserved.symm.trans hAvailable.2) (by decide)
  | taken hUsed hOther =>
      refine .taken ?_ (.of_unchanged hWellFormed (.refl _) ?_)
      · rintro ⟨-, hUnused | hOwn⟩
        · exact absurd (hUsed.symm.trans hUnused) (by decide)
        · exact hOther hOwn
      · rintro other rfl hAvailable
        exact absurd (hUsed.symm.trans hAvailable.1) (by decide)

/-- The ways in which locking a list of frames ends, `mapped` frames having been counted
before: no frame is left for a table, or all available pages of the list are locked. -/
def LocksList (machine : Machine (FrameBitmap size)) (mapped : Nat) (numbers : List Nat)
    (result : Except MapError Nat) (after : Machine (FrameBitmap size)) : Prop :=
  result = .error .outOfMemory ∨
    result = .ok (mapped +
        (MemoryRegion.pagesOf numbers).countP fun page => machine.Lockable page) ∧
      machine.LocksAll after {page | page ∈ MemoryRegion.pagesOf numbers}

/-- Whatever has been done for the first page, the rest of the list completes it. -/
theorem LocksList.cons {number count mapped : Nat} {rest : List Nat}
    {result : Except MapError Nat} (hEnd : LocksList middle count rest result after)
    (hLocks : LocksAll before middle {Page.ofNumber number})
    (hTotal : count = mapped + if before.Lockable (Page.ofNumber number) then 1 else 0) :
    LocksList before mapped (number :: rest) result after := by
  refine hEnd.imp_right ?_
  rintro ⟨rfl, hLater⟩
  rw [MemoryRegion.setOf_mem_pagesOf_cons]
  refine ⟨?_, hLocks.trans hLater⟩
  simp only [hLocks.lockable_iff, MemoryRegion.pagesOf, List.map_cons, List.countP_cons,
    decide_eq_true_eq, hTotal]
  congr 1
  omega

end Machine

namespace Action

open MemoryRegion (pagesOf)

variable {size : Nat} {machine : Machine (FrameBitmap size)} {regions : List MemoryRegion}

/-! ## Locking -/

theorem run_refuseReserved_of_reserved (request : Request) {address : Address .virtual}
    (hPage : Layout.isReserved (Page.containing address) = true) :
    (refuseReserved request address).run machine =
      .done (.error .protectedRegion)
        (machine.note (.reported (.requestRefused request address))) := by
  simp [refuseReserved, hPage, Machine.note]

/-- The request that locks a page is about the page and its own frame. -/
theorem alignedPair_own (page : VirtualPage) :
    alignedPair page.base (Page.ofNumber page.number : Frame).base false =
      .ok (page, Page.ofNumber page.number) := by
  rw [alignedPair_of_aligned page.isAligned_base (Page.isAligned_base _), Page.containing_base,
    Page.containing_base]

/-- A reserved page is refused. -/
theorem exists_run_setOwn_reserved {page : VirtualPage}
    (hReserved : Layout.isReserved page = true) :
    ∃ reply after, (setMapping page.base (Page.ofNumber page.number : Frame).base
        Flags.kernelReadOnly.word).run machine = .done reply after ∧
      machine.SetsOwn page reply after := by
  have hRefused : (refuseReserved .setMapping page.base).run machine = _ :=
    run_refuseReserved_of_reserved .setMapping ((Page.containing_base page).symm ▸ hReserved)
  refine ⟨_, _, ?_, .guarded hReserved
    (machine.unchanged_note (.requestRefused .setMapping page.base))⟩
  simp only [setMapping, alignedPair_own, run_bind, hRefused, Outcome.andThen_done]
  rfl

/-- An available page is mapped, if there is a frame for its table. -/
theorem exists_run_setOwn_available (hStocked : machine.Stocked)
    (hSeen : machine.SeenThrough machine.view) {page : VirtualPage}
    (hAvailable : machine.Available page) :
    ∃ reply after, (setMapping page.base (Page.ofNumber page.number : Frame).base
        Flags.kernelReadOnly.word).run machine = .done reply after ∧
      machine.SetsOwn page reply after := by
  obtain ⟨reply, after, hRun, hReply⟩ :=
    (leads_setMapping_of_free hStocked (alignedPair_own page) hAvailable.2
      ((Entry.isFree_iff _).mp hAvailable.1) Flags.kernelReadOnly.word).run_stays hSeen (by
        intro reply after hReply
        cases reply with
        | ok value =>
            obtain ⟨displaced, hInstalls⟩ := hReply
            exact (hInstalls.stays_of_ok (hStocked.navigable_under hSeen)
              hAvailable.directorySlot_ne).view
        | error error => exact (hReply.2.unchanged hStocked.sound).view)
  refine ⟨reply, after, hRun, ?_⟩
  cases reply with
  | ok value =>
      obtain ⟨displaced, hInstalls⟩ := hReply
      exact .placed hAvailable hInstalls
  | error error =>
      obtain ⟨rfl, hTaken⟩ := hReply
      exact .starved hTaken

/-- A page in use keeps its entry.  The flags do not admit unprivileged code, so the link of
its slot stays as well. -/
theorem exists_run_setOwn_used (hNavigable : machine.Navigable)
    (hOpen : machine.view.Unrestricted) {page : VirtualPage}
    (hReserved : Layout.isReserved page = false) (hUsed : (machine.entryAt page).isFree = false) :
    ∃ reply after, (setMapping page.base (Page.ofNumber page.number : Frame).base
        Flags.kernelReadOnly.word).run machine = .done reply after ∧
      machine.SetsOwn page reply after := by
  obtain ⟨table, hLink⟩ := Machine.exists_link_of_used hUsed
  have hSame : (Page.containing page.base : VirtualPage) = page := Page.containing_base page
  have hRun := run_setMapping_of_used hNavigable hOpen
    page.isAligned_base (Page.isAligned_base (Page.ofNumber page.number : Frame))
    (hSame.symm ▸ hReserved) (hSame.symm ▸ hLink) (hSame.symm ▸ hUsed) Flags.kernelReadOnly.word
  rw [hSame, Page.containing_base] at hRun
  by_cases hStored : (machine.entryAt page).storedFrame? = some (Page.ofNumber page.number)
  · rw [if_pos hStored] at hRun
    exact ⟨_, _, hRun, .stored hReserved hUsed hStored⟩
  · rw [if_neg hStored] at hRun
    exact ⟨_, _, hRun, .taken hUsed hStored⟩

/-- Mapping a page to its own frame ends in one of these ways, through every view that reaches
the tables. -/
theorem exists_run_setOwn (hStocked : machine.Stocked) (hSeen : machine.SeenThrough machine.view)
    (page : VirtualPage) :
    ∃ reply after, (setMapping page.base (Page.ofNumber page.number : Frame).base
        Flags.kernelReadOnly.word).run machine = .done reply after ∧
      machine.SetsOwn page reply after := by
  cases hReserved : Layout.isReserved page with
  | true => exact exists_run_setOwn_reserved hReserved
  | false =>
      cases hFree : (machine.entryAt page).isFree with
      | true => exact exists_run_setOwn_available hStocked hSeen ⟨hFree, hReserved⟩
      | false =>
          exact exists_run_setOwn_used (hStocked.navigable_under hSeen) hSeen.1 hReserved hFree

/-- The loop asks for the page and the frame of a number. -/
theorem exists_run_setOwn_number (hStocked : machine.Stocked)
    (hSeen : machine.SeenThrough machine.view) (number : Nat) :
    ∃ reply after, (setMapping (Address.ofNat (number * Layout.pageBytes))
        (Address.ofNat (number * Layout.pageBytes)) Flags.kernelReadOnly.word).run machine =
          .done reply after ∧ machine.SetsOwn (Page.ofNumber number) reply after := by
  obtain ⟨reply, after, hRun, hSets⟩ := exists_run_setOwn hStocked hSeen (Page.ofNumber number)
  have hFrame : (Page.ofNumber number : Frame) =
      Page.ofNumber (Page.ofNumber number : VirtualPage).number :=
    Page.ext (Nat.mod_mod number _).symm
  refine ⟨reply, after, ?_, hSets⟩
  rw [← Page.base_ofNumber, ← Page.base_ofNumber, hFrame]
  exact hRun

/-- Locking a list of frames is cut short for want of a frame, or locks them all.  It counts
the pages that are locked, as often as they are listed. -/
theorem exists_run_lockFrames (numbers : List Nat) (mapped : Nat)
    (hWellFormed : machine.WellFormed) (hOpen : machine.view.Unrestricted)
    (hCount : mapped + numbers.length < 0x100000000) :
    ∃ result after, (lockFrames mapped numbers).run machine = .done result after ∧
      machine.LocksList mapped numbers result after := by
  -- Induction on the frames that are left; each step starts from a well-formed machine.
  induction numbers generalizing machine mapped with
  | nil =>
      exact ⟨_, machine, rfl, .inr ⟨rfl, .of_unchanged hWellFormed (.refl machine)
        fun page hPage => nomatch hPage⟩⟩
  | cons number rest ih =>
      rw [List.length_cons] at hCount
      obtain ⟨reply, next, hStep, hSets⟩ := exists_run_setOwn_number hWellFormed.stocked
        (hWellFormed.walkable.seenThrough hOpen) number
      have hPage := hSets.locksPage hWellFormed
      have hRest : ∀ (count : Nat) (reached : Machine (FrameBitmap size)),
          machine.LocksAll reached {Page.ofNumber number} → count + rest.length < 0x100000000 →
          ∃ result after, (lockFrames count rest).run reached = .done result after ∧
            reached.LocksList count rest result after := by
        intro count reached hLocks hFits
        exact ih count hLocks.wellFormed (hLocks.stays.view.symm ▸ hOpen) hFits
      rw [lockFrames]
      simp only [run_bind, hStep, Outcome.andThen_done]
      cases hPage with
      | starved hUnchanged => exact ⟨_, next, rfl, .inl rfl⟩
      | locked hLockable hLocks =>
          have hWord : Checked.word (mapped + 1) = .ok (mapped + 1) := if_pos (by omega)
          simp only [hWord, run_bind, run_check_ok, Outcome.andThen_done]
          obtain ⟨result, after, hLast, hEnd⟩ := hRest (mapped + 1) next hLocks (by omega)
          exact ⟨result, after, hLast, hEnd.cons hLocks (by rw [if_pos hLockable])⟩
      | guarded hLockable hLocks =>
          obtain ⟨result, after, hLast, hEnd⟩ := hRest mapped _ (hLocks.note _) (by omega)
          exact ⟨result, after, hLast,
            hEnd.cons (hLocks.note _) (by rw [if_neg hLockable, Nat.add_zero])⟩
      | taken hLockable hLocks =>
          obtain ⟨result, after, hLast, hEnd⟩ := hRest mapped _ (hLocks.note _) (by omega)
          exact ⟨result, after, hLast,
            hEnd.cons (hLocks.note _) (by rw [if_neg hLockable, Nat.add_zero])⟩

/-- Locking the memory that the firmware keeps is cut short for want of a frame, or locks all
available pages of it. -/
theorem exists_run_lockReserved (hWellFormed : machine.WellFormed)
    (hOpen : machine.view.Unrestricted) {frames : List Nat}
    (hFrames : MemoryRegion.reservedFrames regions = .ok frames)
    (hCount : frames.length < 0x100000000) :
    ∃ result after, (lockReserved regions).run machine = .done result after ∧
      (result = .error .outOfMemory ∨
        result = .ok ((pagesOf frames).countP fun page => machine.Lockable page) ∧
          machine.LocksAll after {page | MemoryRegion.Reserved regions page.number}) := by
  obtain ⟨result, after, hRun, hEnd⟩ :=
    exists_run_lockFrames frames 0 hWellFormed hOpen (by rwa [Nat.zero_add])
  rw [Machine.LocksList, MemoryRegion.setOf_mem_pagesOf hFrames, Nat.zero_add] at hEnd
  simp only [lockReserved, hFrames, run_bind, run_check_ok, Outcome.andThen_done, hRun]
  rcases hEnd with rfl | ⟨rfl, hLocks⟩
  · exact ⟨_, after, rfl, .inl rfl⟩
  · exact ⟨_, _, rfl, .inr ⟨rfl, hLocks.note (.reservedPagesMapped _)⟩⟩

/-! ## Unlocking -/

/-- Unlocking clears the kept pages that map their own frames, and nothing else, if none of
them is reserved. -/
theorem exists_run_unlockReserved (hWellFormed : machine.WellFormed)
    (hOpen : machine.view.Unrestricted)
    (hSpared : ∀ page, Layout.isReserved page = true →
      MemoryRegion.Reserved regions page.number → ¬ machine.MapsOwn page) :
    ∃ (cleared : Finset VirtualPage) (last : Machine (FrameBitmap size)),
      (unlockReserved regions).run machine = .done (.ok cleared.card) last ∧
        machine.Unlocks last regions cleared := by
  obtain ⟨frames, hFrames, hMember⟩ := MemoryRegion.exists_reservedFrames_eq regions
  have hPages : ∀ page, page ∈ pagesOf frames ↔ MemoryRegion.Reserved regions page.number :=
    fun page => Set.ext_iff.mp (MemoryRegion.setOf_mem_pagesOf hFrames) page
  have hOwn : ∀ page, ownFrame page (Mapping.ofEntry (machine.entryAt page)) = true ↔
      machine.MapsOwn page := fun page => ownFrame_ofEntry_iff page (machine.entryAt page)
  have hClearable : ∀ page ∈ pagesOf frames, machine.Clearable ownFrame page := by
    intro page hPage
    refine ⟨hOpen.visible _, fun _ => hWellFormed.self_linked, ?_⟩
    intro hReserved
    refine Bool.eq_false_of_not_eq_true ?_
    intro hPasses
    exact hSpared page hReserved ((hPages page).mp hPage) ((hOwn page).mp hPasses)
  obtain ⟨last, hRun, hSweeps⟩ :=
    exists_run_clearPages (fun _ => rfl) hWellFormed.walkable.navigable hClearable
  have hCleared : ∀ page, page ∈ machine.selected ownFrame (pagesOf frames) ↔
      MemoryRegion.Reserved regions page.number ∧ machine.MapsOwn page := by
    intro page
    rw [Machine.mem_selected, hPages, hOwn]
  have hBelow : ∀ page ∈ machine.selected ownFrame (pagesOf frames),
      page.directorySlot ≠ Layout.selfMapSlot := by
    intro page hPage
    obtain ⟨hListed, hPasses⟩ := Machine.mem_selected.mp hPage
    exact Layout.directorySlot_ne_of_not_reserved ((hClearable page hListed).not_reserved hPasses)
  have hNoted := hSweeps.note (.reported (.reservedPagesUnmapped
    (machine.selected ownFrame (pagesOf frames)).card))
  refine ⟨_, _, ?_, hCleared, hNoted, hNoted.entryAt_eq hWellFormed.self_linked hBelow⟩
  have hLoop : unlockFrames 0 frames =
      (clearPages ownFrame 0 (pagesOf frames) : Action (FrameBitmap size) _) :=
    unlockFrames_eq (fun number hNumber => ((hMember number).mp hNumber).1) 0
  simp only [unlockReserved, hFrames, run_bind, run_check_ok, Outcome.andThen_done, hLoop, hRun]
  rfl

/-- Locking ends for want of a frame, or it maps the available pages of the kept memory to their
own frames and changes no other page.  Unlocking after that clears the kept pages that map
their own frames, and counts them. -/
theorem lockReserved_unlockReserved (hWellFormed : machine.WellFormed)
    (hOpen : machine.view.Unrestricted) (regions : List MemoryRegion) :
    ∃ frames, MemoryRegion.reservedFrames regions = .ok frames ∧
      (∀ frame, frame ∈ frames ↔
        frame < MemoryRegion.frameLimit ∧ MemoryRegion.Reserved regions frame) ∧
      (frames.length < 0x100000000 →
        ∃ result after, (lockReserved regions).run machine = .done result after ∧
          (result = .error .outOfMemory ∨
            result = .ok ((pagesOf frames).countP fun page => machine.Lockable page) ∧
            machine.LocksAll after {page | MemoryRegion.Reserved regions page.number} ∧
            ((∀ page, Layout.isReserved page = true →
                MemoryRegion.Reserved regions page.number → ¬ after.MapsOwn page) →
              ∃ (cleared : Finset VirtualPage) (last : Machine (FrameBitmap size)),
                (unlockReserved regions).run after = .done (.ok cleared.card) last ∧
                  after.Unlocks last regions cleared))) := by
  obtain ⟨frames, hFrames, hMember⟩ := MemoryRegion.exists_reservedFrames_eq regions
  refine ⟨frames, hFrames, hMember, ?_⟩
  intro hCount
  obtain ⟨result, after, hRun, hEnd⟩ :=
    exists_run_lockReserved hWellFormed hOpen hFrames hCount
  refine ⟨result, after, hRun, hEnd.imp_right ?_⟩
  rintro ⟨hResult, hLocks⟩
  refine ⟨hResult, hLocks, ?_⟩
  intro hSpared
  have hStillOpen : after.view.Unrestricted := by
    rw [hLocks.stays.view]
    exact hOpen
  exact exists_run_unlockReserved hLocks.wellFormed hStillOpen hSpared

/-- One frame that the firmware keeps. -/
def keptFrame : MemoryRegion :=
  ⟨0x5000, 0x1000, MemoryRegion.reservedKind⟩

theorem reserved_keptFrame_iff (frame : Nat) :
    MemoryRegion.Reserved [keptFrame] frame ↔ frame = 5 := by
  have hStop : keptFrame.stop = 0x6000 := by decide
  have hBase : keptFrame.base.toNat = 0x5000 := by decide
  simp only [MemoryRegion.Reserved, List.mem_singleton, exists_eq_left, MemoryRegion.Covers,
    hStop, hBase, Layout.pageBytes]
  constructor
  · rintro ⟨-, hFirst, hLast⟩
    omega
  · rintro rfl
    exact ⟨rfl, by omega, by omega⟩

/-- Page 5 is mapped to its own frame and is free again after it has been unlocked. -/
theorem lockReserved_unlockReserved_keptFrame :
    ∃ (after last : Machine (FrameBitmap 1)) (page : VirtualPage), page.number = 5 ∧
      (lockReserved [keptFrame]).run Machine.tiny = .done (.ok 1) after ∧
      after.entryAt page = Entry.locked page ∧
      (unlockReserved [keptFrame]).run after = .done (.ok 1) last ∧
      last.entryAt page = Entry.zero := by
  let page : VirtualPage := Page.ofNumber 5
  have hKept : MemoryRegion.Reserved [keptFrame] page.number := (reserved_keptFrame_iff _).mpr rfl
  obtain ⟨frames, hFrames, -, hRest⟩ :=
    lockReserved_unlockReserved Machine.pristine_tiny.wellFormed ⟨rfl, rfl⟩ [keptFrame]
  have hListed : frames = [5] := by
    have hComputed : MemoryRegion.reservedFrames [keptFrame] = .ok [5] := by decide +kernel
    exact Except.ok.inj (hFrames.symm.trans hComputed)
  obtain ⟨result, after, hLock, hEnd⟩ := hRest (by rw [hListed]; decide)
  -- There are frames enough, so the page has been locked.
  have hAnswer : ((lockReserved [keptFrame]).run Machine.tiny).value? = some (.ok 1) := by
    decide +kernel
  rw [hLock] at hAnswer
  have hResult : result = .ok 1 := Option.some.inj hAnswer
  rcases hEnd with hStarved | ⟨-, hLocks, hUnlock⟩
  · rw [hResult] at hStarved
    cases hStarved
  have hUnused : Machine.tiny.Available page :=
    ⟨by rw [Machine.pristine_tiny.entryAt_eq_zero (by decide), Entry.isFree_zero], by decide⟩
  obtain ⟨cleared, last, hRun, hUnlocks⟩ := hUnlock fun other hReserved hOther => by
    have hSame : other = page := Page.ext ((reserved_keptFrame_iff _).mp hOther)
    rw [hSame] at hReserved
    exact absurd hReserved (by decide)
  obtain ⟨hCleared, hFree⟩ := hLocks.unlocked hUnlocks hKept hUnused
  have hOne : cleared = {page} := by
    refine Finset.eq_singleton_iff_unique_mem.mpr ⟨hCleared, ?_⟩
    intro other hOther
    exact Page.ext ((reserved_keptFrame_iff _).mp ((hUnlocks.mem_iff other).mp hOther).1)
  rw [hOne, Finset.card_singleton] at hRun
  rw [Machine.pristine_tiny.entryAt_eq_zero (by decide)] at hFree
  exact ⟨after, last, page, rfl, hResult ▸ hLock, hLocks.mapped hKept hUnused, hRun, hFree⟩

end Action
end TwoLevelPaging
