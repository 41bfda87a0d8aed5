import TwoLevelPaging.Proofs.LowestPage
import TwoLevelPaging.Proofs.Ownership.Demand
import TwoLevelPaging.Proofs.Protection

/-!
# Backing pages succeeds exactly if it can

A run of pages can be backed if all its pages are available and the frames that are left cover
its demand (`Machine.CanBack`).  While `allocatePages` goes through the run, the frames that
are left and the demand of the pages still to come fall together (`Machine.Spends`).  So the
run never stops for want of a frame that it could have had, and at its end exactly the demand
has been spent (`Machine.Populated`).

`allocatePage` takes its frame before it looks for a page.  This makes no difference to which
page it finds, and in the end it has spent the demand of this one page.
-/

namespace TwoLevelPaging

namespace Machine

variable {size : Nat} {base machine before after drawn last : Machine (FrameBitmap size)}
  {slot : Slot} {page : VirtualPage} {frame : Frame} {flags : UInt32}
  {address : Address .virtual} {start stop first final : Nat} {reply : Except MapError VirtualPage}

/-- The pages with numbers in `[start, stop)` can be backed: they are available, and there are
frames for them and for the tables that they lack. -/
structure CanBack (machine : Machine (FrameBitmap size)) (start stop : Nat) : Prop where
  available : ∀ page : VirtualPage, start ≤ page.number → page.number < stop →
    machine.Available page
  enough : machine.demand start stop ≤ machine.spare

/-- The pages with numbers in `[start, stop)` have been backed: each holds a frame of its own,
which was free, no other page has changed, and the number of free frames has fallen by the
demand. -/
structure Populated (before after : Machine (FrameBitmap size)) (flags : UInt32)
    (start stop : Nat) : Prop where
  stays : Stays before after
  filled : ∀ page : VirtualPage, start ≤ page.number → page.number < stop → ∃ frame,
    after.entryAt page = Entry.leaf frame flags ∧ before.Free frame ∧ ¬ after.Free frame
  apart : ∀ page other : VirtualPage, start ≤ page.number → page.number < stop →
    start ≤ other.number → other.number < stop →
    (after.entryAt page).frame = (after.entryAt other).frame → page = other
  rest : ∀ page : VirtualPage, page.directorySlot ≠ Layout.selfMapSlot →
    page.number < start ∨ stop ≤ page.number → after.entryAt page = before.entryAt page
  count : ∃ left, after.source.freeCount = .ok left ∧
    before.source.freeCount = .ok (left + before.demand start stop)

/-- The reported numbers differ by the frames that have been handed out, since frame zero is
never among them. -/
theorem exists_freeCount_eq (hBefore : before.source.Sound) (hAfter : after.source.Sound)
    (hZero : after.source.freeAt 0 = before.source.freeAt 0) {spent : Nat}
    (hSpent : before.spare = after.spare + spent) :
    ∃ left, after.source.freeCount = .ok left ∧ before.source.freeCount = .ok (left + spent) := by
  refine ⟨_, FrameBitmap.freeCount_eq hAfter, ?_⟩
  rw [FrameBitmap.freeCount_eq hBefore, card_freeSet_eq, card_freeSet_eq, hZero, hSpent]
  congr 1
  omega

/-! ## A run of pages -/

/-- The demand looks at the links only. -/
theorem demand_congr (hLinks : ∀ slot, after.link? slot = before.link? slot) (start stop : Nat) :
    after.demand start stop = before.demand start stop := by
  simp only [demand, unlinkedBetween, hLinks]

/-- The pages with numbers in `[first, stop)` have been backed, and what this has cost is what
the demand of the pages up to `final` has fallen by. -/
structure Spends (base machine : Machine (FrameBitmap size)) (flags : UInt32)
    (first final stop : Nat) : Prop where
  balance : base.spare + machine.demand stop final = machine.spare + base.demand first final
  filled : ∀ page : VirtualPage, first ≤ page.number → page.number < stop →
    ∃ frame : Frame, 0 < frame.number ∧ machine.entryAt page = Entry.leaf frame flags

theorem Spends.refl (base : Machine (FrameBitmap size)) (flags : UInt32) (first final : Nat) :
    Spends base base flags first final first :=
  ⟨rfl, fun _ hFirst hStop => absurd hStop (Nat.not_lt.mpr hFirst)⟩

theorem Spends.backed (hBase : base.WellFormed)
    (hSpends : Spends base before flags first final page.number)
    (hBacked : Backed base base ∅ before first page.number) (hFinal : page.number < final)
    (hBacks : Backs before page flags (.ok ()) after) :
    Spends base after flags first final (page.number + 1) := by
  have hBefore := hBacked.wellFormed hBase
  obtain ⟨hSpare, hLinked, hLinks⟩ := hBacks.spare_eq hBefore
  have hDemand := demand_eq_add_price hFinal hLinked hLinks
  have hBalance := hSpends.balance
  refine ⟨by omega, hBacks.extends_run hBefore ?_⟩
  intro other hFirst hBelow
  have hReserved := (hBacked.inside other hFirst hBelow).1
  exact ⟨Layout.directorySlot_ne_of_not_reserved hReserved, hSpends.filled other hFirst hBelow⟩

/-- A page that is not backed spends nothing. -/
theorem Spends.refused (hBase : base.WellFormed)
    (hSpends : Spends base before flags first final page.number)
    (hBacked : Backed base base ∅ before first page.number) {error : MapError}
    (hBacks : Backs before page flags (.error error) after) :
    Spends base after flags first final page.number := by
  obtain ⟨hFree, hLinks, hEntries⟩ := hBacks.keeps_of_error (hBacked.wellFormed hBase)
  have hSpare : after.spare = before.spare := by rw [spare, spare, hFree]
  constructor
  · rw [demand_congr hLinks, hSpare]
    exact hSpends.balance
  · intro other hFirst hStop
    have hReserved := (hBacked.inside other hFirst hStop).1
    rw [hEntries other (Layout.directorySlot_ne_of_not_reserved hReserved)]
    exact hSpends.filled other hFirst hStop

/-- If a page is not backed, its run cannot be. -/
theorem Spends.not_canBack (hBase : base.WellFormed)
    (hSpends : Spends base before flags first final page.number)
    (hBacked : Backed base base ∅ before first page.number) (hFirst : first ≤ page.number)
    (hFinal : page.number < final) {error : MapError}
    (hBacks : Backs before page flags (.error error) after) : ¬ base.CanBack first final := by
  intro hCan
  refine hBacks.not_payable (hBacked.wellFormed hBase) ⟨?_, ?_⟩
  · obtain ⟨hFree, hReserved⟩ := hCan.available page hFirst hFinal
    have hSame := hBacked.rest page (Layout.directorySlot_ne_of_not_reserved hReserved)
      (.inr (Nat.le_refl _))
    exact ⟨by rw [hSame]; exact hFree, hReserved⟩
  · have hPrice : before.price page.directorySlot ≤ before.demand page.number final :=
      price_le_demand hFinal
    have hEnough := hCan.enough
    have hBalance := hSpends.balance
    omega

/-- Nothing is said any more once pages are released. -/
theorem companion_spends (hBase : base.WellFormed) (flags : UInt32) (first final : Nat) :
    Companion base base ∅ flags first final (fun _ => ¬ base.CanBack first final)
      fun start stop machine => start = first → base.Spends machine flags first final stop where
  unchanged hUnchanged hExtra := by
    intro hStart
    have hSpends := hExtra hStart
    obtain ⟨events, rfl⟩ := hUnchanged.exists_eq_draw
    exact ⟨hSpends.balance, hSpends.filled⟩
  backed _ hFinal hBacked hBacks hExtra := fun hStart =>
    (hExtra hStart).backed hBase hBacked hFinal hBacks
  refused hFirst hFinal hBacked hBacks hExtra :=
    ⟨fun hStart => (hExtra hStart).refused hBase hBacked hBacks,
      (hExtra rfl).not_canBack hBase hBacked hFirst hFinal hBacks⟩
  released hFirst _ _ _ _ := by
    intro hStart
    omega

/-- At the end of the run its demand has been met, and spent. -/
theorem Spends.populated (hBase : base.WellFormed)
    (hSpends : Spends base after flags first final final)
    (hBacked : Backed base base ∅ after first final) :
    base.CanBack first final ∧ Populated base after flags first final := by
  have hLedger := hBacked.ledger
  have hBalance := hSpends.balance
  rw [demand_self] at hBalance
  have hUnused : ∀ page : VirtualPage, first ≤ page.number → page.number < final →
      page.directorySlot ≠ Layout.selfMapSlot ∧ base.entryAt page = Entry.zero := by
    intro page hFirst hFinal
    obtain ⟨hReserved, hZero, -⟩ := hBacked.inside page hFirst hFinal
    exact ⟨Layout.directorySlot_ne_of_not_reserved hReserved, hZero⟩
  have hStored : ∀ page : VirtualPage, first ≤ page.number → page.number < final →
      ∃ frame, after.entryAt page = Entry.leaf frame flags ∧
        (after.entryAt page).storedFrame? = some frame := by
    intro page hFirst hFinal
    obtain ⟨frame, hPositive, hEntry⟩ := hSpends.filled page hFirst hFinal
    refine ⟨frame, hEntry, ?_⟩
    rw [hEntry, Entry.storedFrame?_leaf (Nat.ne_of_gt hPositive)]
  refine ⟨⟨?_, by omega⟩, hLedger.stays, ?_, ?_, hBacked.rest, ?_⟩
  · intro page hFirst hFinal
    obtain ⟨hReserved, hZero, -⟩ := hBacked.inside page hFirst hFinal
    exact ⟨by rw [hZero]; exact Entry.isFree_zero, hReserved⟩
  · intro page hFirst hFinal
    obtain ⟨hSlot, hZero⟩ := hUnused page hFirst hFinal
    obtain ⟨frame, hEntry, hFrame⟩ := hStored page hFirst hFinal
    exact ⟨frame, hEntry, hLedger.frame_of_page hSlot hZero hFrame⟩
  · intro page other hFirst hFinal hOtherFirst hOtherFinal hSame
    obtain ⟨hSlot, hZero⟩ := hUnused page hFirst hFinal
    obtain ⟨hOtherSlot, hOtherZero⟩ := hUnused other hOtherFirst hOtherFinal
    obtain ⟨frame, hEntry, hFrame⟩ := hStored page hFirst hFinal
    obtain ⟨another, hOtherEntry, hOtherFrame⟩ := hStored other hOtherFirst hOtherFinal
    rw [hEntry, hOtherEntry] at hSame
    obtain rfl : frame = another := hSame
    exact hLedger.page_eq_of_frame hSlot hOtherSlot hZero hOtherZero hFrame hOtherFrame
  · refine exists_freeCount_eq hBase.sound (hBacked.wellFormed hBase).sound ?_ (by omega)
    rw [FrameBitmap.freeAt, FrameBitmap.freeAt, hLedger.limit, hLedger.bits 0 (.inl rfl)]

/-! ## The first free page -/

/-- The request to back the first free page from this address on can be granted, and its page
is this one. -/
structure Allocatable (machine : Machine (FrameBitmap size)) (address : Address .virtual)
    (page : VirtualPage) : Prop where
  address_set : address.isNull = false
  address_aligned : address.isAligned .small = true
  not_reserved : Layout.isReserved (Page.containing address) = false
  first : machine.FirstAvailable (Page.containing address : VirtualPage).number (some page)
  enough : machine.demand page.number (page.number + 1) ≤ machine.spare

/-- A request to back a page can be granted exactly if the frame that has been taken for it can
be mapped. -/
theorem Taken.mappable_iff (hBefore : before.WellFormed)
    (hTaken : Taken before (some frame) drawn) (page : VirtualPage) :
    drawn.Mappable address frame.base page ↔ before.Allocatable address page := by
  obtain ⟨hPositive, -, -⟩ := hTaken.marks hBefore.stocked
  have hSpare := hTaken.spare_eq hBefore.stocked
  have hLinks := hTaken.link?_eq
  have hFirst : drawn.FirstAvailable (Page.containing address : VirtualPage).number (some page) ↔
      before.FirstAvailable (Page.containing address : VirtualPage).number (some page) := by
    obtain ⟨_, _, -, rfl⟩ := hTaken
    rfl
  constructor
  · intro hMappable
    refine ⟨hMappable.bases.address_set, hMappable.bases.address_aligned, hMappable.not_reserved,
      hFirst.mp hMappable.first, ?_⟩
    rw [demand_single, price, ← hLinks]
    rcases hMappable.table with ⟨table, hTable⟩ | hLeft
    · rw [if_neg (by simp [hTable])]
      omega
    · have hPositiveSpare := hasSpare_iff.mp hLeft
      split <;> omega
  · intro hAllocatable
    have hBase : frame.base.isNull = false := by
      simp only [Address.isNull, Page.toNat_base, PageSize.bytes, beq_eq_false_iff_ne, ne_eq]
      omega
    have hAligned : frame.base.isAligned .small = true := by
      simp [Address.isAligned]
    have hEnough := hAllocatable.enough
    rw [demand_single] at hEnough
    exact ⟨⟨hAllocatable.address_set, hBase, hAllocatable.address_aligned, hAligned⟩,
      hAllocatable.not_reserved, hFirst.mpr hAllocatable.first,
      canTable_of_price_le hSpare hLinks hEnough⟩

/-- A frame that has been taken and mapped backs one page. -/
theorem Placed.populated (hBefore : before.WellFormed)
    (hTaken : Taken before (some frame) drawn) (hAfter : after.WellFormed)
    (hPlaced : Placed drawn after page (Entry.leaf frame flags)) :
    Populated before after flags page.number (page.number + 1) := by
  obtain ⟨hPositive, hFree, hMarks⟩ := hTaken.marks hBefore.stocked
  have hSpare := hTaken.spare_eq hBefore.stocked
  have hTable := hPlaced.spare_eq
  have hOnly : ∀ other : VirtualPage, page.number ≤ other.number →
      other.number < page.number + 1 → other = page := fun other hReached hBelow =>
    Page.ext (Nat.le_antisymm (Nat.le_of_lt_succ hBelow) hReached)
  refine ⟨?_, ?_, ?_, ?_, ?_⟩
  · obtain ⟨pool, events, -, rfl⟩ := hTaken
    exact (before.stays_draw pool events).trans hPlaced.stays
  · intro other hReached hBelow
    obtain rfl := hOnly other hReached hBelow
    refine ⟨frame, hPlaced.entry, hFree, ?_⟩
    intro hStill
    have hOccupied := hMarks.freeAt_same (FrameBitmap.lt_limit_of_freeAt hFree)
    rw [hPlaced.freeAt_before hStill] at hOccupied
    cases hOccupied
  · intro first second hFirst hFirstBelow hSecond hSecondBelow _
    rw [hOnly first hFirst hFirstBelow, hOnly second hSecond hSecondBelow]
  · intro other hOther hApart
    have hDifferent : other ≠ page := by
      rintro rfl
      omega
    rw [hPlaced.entries other hOther hDifferent, hTaken.entryAt_eq]
  · refine exists_freeCount_eq hBefore.sound hAfter.sound ?_ ?_
    · rw [hPlaced.freeAt_zero, hMarks.freeAt_of_ne (Nat.ne_of_lt hPositive)]
    · rw [demand_single, price, ← hTaken.link?_eq, ← price]
      omega

namespace AllocatesFirst

/-- The page of a request that is granted is the one that can be backed. -/
theorem eq_ok_iff (hBefore : before.WellFormed)
    (hAllocates : before.AllocatesFirst address flags reply after) (page : VirtualPage) :
    reply = .ok page ↔ before.Allocatable address page := by
  cases hAllocates with
  | starved hTaken =>
      refine iff_of_false (fun hReply => by cases hReply) ?_
      intro hAllocatable
      have hEnough := hAllocatable.enough
      have hPositive := before.price_pos page.directorySlot
      rw [demand_single, hTaken.spare_eq_zero hBefore.sound] at hEnough
      omega
  | mapped hTaken hMaps =>
      rw [hMaps.eq_ok_iff (hTaken.wellFormed hBefore), hTaken.mappable_iff hBefore]
  | failed hTaken hMaps hReleased =>
      rw [← hTaken.mappable_iff hBefore, ← hMaps.eq_ok_iff (hTaken.wellFormed hBefore)]

theorem populated (hBefore : before.WellFormed)
    (hAllocates : before.AllocatesFirst address flags (.ok page) after) :
    Populated before after flags page.number (page.number + 1) := by
  cases hAllocates with
  | mapped hTaken hMaps =>
      obtain ⟨-, hPlaced, hAfter⟩ := hMaps.granted (hTaken.wellFormed hBefore)
      rw [Page.containing_base] at hPlaced
      exact hPlaced.populated hBefore hTaken hAfter

theorem restored (hBefore : before.WellFormed) {error : MapError}
    (hAllocates : before.AllocatesFirst address flags (.error error) after) :
    Restored before after ∧ after.view = before.view := by
  cases hAllocates with
  | starved hTaken =>
      obtain ⟨events, rfl⟩ := (hTaken.unchanged hBefore.sound).exists_eq_draw
      exact ⟨⟨rfl, rfl, rfl, fun _ => rfl⟩, rfl⟩
  | failed hTaken hMaps hReleased =>
      have hUnchanged := (hMaps.refused (hTaken.wellFormed hBefore).sound).2
      refine ⟨restored_of_released hBefore hTaken hUnchanged hReleased, ?_⟩
      obtain ⟨_, _, -, rfl⟩ := hTaken
      obtain ⟨_, _, -, rfl⟩ := hReleased
      exact hUnchanged.view

end AllocatesFirst

end Machine

namespace Action

variable {size : Nat} {machine : Machine (FrameBitmap size)}

/-- A run of pages is backed exactly if its arguments are a run and it can be backed. -/
theorem leads_allocatePages_spends (hWellFormed : machine.WellFormed)
    (address : Address .virtual) (bytes : UInt32) (flags : UInt32) :
    Leads (allocatePages address bytes flags) machine fun reply after =>
      (reply = .ok () ↔ IsRun address bytes ∧
        machine.CanBack (Page.containing address : VirtualPage).number
          ((Page.containing address : VirtualPage).number + bytes.toNat / Layout.pageBytes)) ∧
      (reply = .ok () → machine.Populated after flags
        (Page.containing address : VirtualPage).number
        ((Page.containing address : VirtualPage).number + bytes.toNat / Layout.pageBytes)) ∧
      ∀ error, reply = .error error → machine.RolledBack after := by
  have hLedger := Machine.Ledger.start machine
  refine (leads_allocatePages_of_companion hWellFormed hLedger address bytes
    (Machine.companion_spends hWellFormed flags _ _) fun _ => .refl machine flags _ _).mono ?_
  intro reply after hReply
  cases reply with
  | ok value =>
      obtain ⟨hRun, hBacked, hSpends⟩ := hReply
      obtain ⟨hCan, hPopulated⟩ := (hSpends rfl).populated hWellFormed hBacked
      exact ⟨iff_of_true rfl ⟨hRun, hCan⟩, fun _ => hPopulated, fun _ hError => by cases hError⟩
  | error error =>
      refine ⟨iff_of_false (fun hOk => by cases hOk) ?_, ?_, ?_⟩
      · rintro ⟨hRun, hCan⟩
        rcases hReply with ⟨hNot, -, -⟩ | ⟨hCannot, -⟩
        · exact hNot hRun
        · exact hCannot hCan
      · intro hOk
        cases hOk
      · intro _ _
        rcases hReply with ⟨-, -, rfl⟩ | ⟨-, number, hBacked, -⟩
        · exact (Machine.Backed.refl hLedger 0).rolledBack hWellFormed
        · exact hBacked.rolledBack hWellFormed

/-- A run of pages, and the first free page from an address on, are backed exactly if they can
be: the arguments are right, every page is available, and there is a frame for each page and
for each table that is missing.  Then each page holds a frame of its own that was free, and
just these frames have been spent; otherwise no frame has been lost to a page. -/
theorem allocation_succeeds_iff (hWellFormed : machine.WellFormed)
    (hOpen : machine.view.Unrestricted) (address : Address .virtual) (bytes : UInt32)
    (flags : UInt32) :
    (∃ reply after, (allocatePages address bytes flags).run machine = .done reply after ∧
      (reply = .ok () ↔ IsRun address bytes ∧
        machine.CanBack (Page.containing address : VirtualPage).number
          ((Page.containing address : VirtualPage).number + bytes.toNat / Layout.pageBytes)) ∧
      (reply = .ok () → machine.Populated after flags
        (Page.containing address : VirtualPage).number
        ((Page.containing address : VirtualPage).number + bytes.toNat / Layout.pageBytes)) ∧
      ∀ error, reply = .error error → machine.RolledBack after) ∧
    (∃ reply after, (allocatePage address flags).run machine = .done reply after ∧
      (∀ page, reply = .ok page ↔ machine.Allocatable address page) ∧
      (∀ page, reply = .ok page →
        machine.Populated after flags page.number (page.number + 1)) ∧
      ∀ error, reply = .error error → machine.Restored after) := by
  have hSeen := hWellFormed.walkable.seenThrough hOpen
  constructor
  · refine (leads_allocatePages_spends hWellFormed address bytes flags).run_stays hSeen ?_
    rintro reply after ⟨-, hPopulated, hRolledBack⟩
    cases reply with
    | ok value => exact (hPopulated rfl).stays.view
    | error error => exact (hRolledBack error rfl).stays.view
  · obtain ⟨reply, after, hRun, hAllocates⟩ :=
      (leads_allocatePage_first hWellFormed.stocked address flags).run_stays hSeen (by
        intro reply after hAllocates
        cases reply with
        | ok page => exact (hAllocates.populated hWellFormed).stays.view
        | error error => exact (hAllocates.restored hWellFormed).2)
    refine ⟨reply, after, hRun, hAllocates.eq_ok_iff hWellFormed, ?_, ?_⟩
    · rintro page rfl
      exact hAllocates.populated hWellFormed
    · rintro error rfl
      exact (hAllocates.restored hWellFormed).1

/-- Two pages on either side of a slot boundary take four of the six frames that are free: both
slots lack a table. -/
theorem allocatePages_tiny_spends :
    ∃ after left, (allocatePages (Address.ofNat 0x3FF000) 0x2000 Flags.kernelReadWrite.word).run
        Machine.tiny = .done (.ok ()) after ∧
      Machine.tiny.Populated after Flags.kernelReadWrite.word 0x3FF 0x401 ∧
      after.source.freeCount = .ok left ∧ Machine.tiny.source.freeCount = .ok (left + 4) := by
  have hGranted : refuses ((allocatePages (Address.ofNat 0x3FF000) 0x2000
      Flags.kernelReadWrite.word).run Machine.tiny) = false := by decide +kernel
  have hFirst : (Page.containing (Address.ofNat 0x3FF000) : VirtualPage).number = 0x3FF := by
    decide +kernel
  have hPages : (0x2000 : UInt32).toNat / Layout.pageBytes = 2 := by decide +kernel
  have hDemand : Machine.tiny.demand 0x3FF 0x401 = 4 := by decide +kernel
  obtain ⟨⟨reply, after, hRun, -, hPopulated, -⟩, -⟩ :=
    allocation_succeeds_iff Machine.pristine_tiny.wellFormed ⟨rfl, rfl⟩ (Address.ofNat 0x3FF000)
      0x2000 Flags.kernelReadWrite.word
  rw [hRun] at hGranted
  rw [hFirst, hPages] at hPopulated
  cases reply with
  | error error => cases hGranted
  | ok value =>
      have hHere := hPopulated rfl
      obtain ⟨left, hAfter, hBefore⟩ := hHere.count
      rw [hDemand] at hBefore
      exact ⟨after, left, hRun, hHere, hAfter, hBefore⟩

end Action

end TwoLevelPaging
