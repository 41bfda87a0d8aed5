import TwoLevelPaging.Proofs.LowestPage
import TwoLevelPaging.Proofs.Ownership.Requests
import TwoLevelPaging.Proofs.Ownership.Rollback

/-!
# Which frame a page gives back

A page owns the frame that its entry stores, present or not.  `mapForced` gives it back unless
the new entry stores it again, `unmapPage` always does, and `unmapDevice` never.  In each case
this is the one frame that comes free, if the bitmap manages it and it is not frame zero, and
only the frame of a new table is taken (`Machine.Displaces`).

A frame that is free already, or that is none of the bitmap's, is handed over like any other;
the bitmap ignores it.

Nothing but the arguments decides whether a page is unmapped, and for a forced mapping there
must be a table as well.  `Machine.Settles` says this of each request, beside what it leaves
when it is granted and that it changes nothing when it is refused.
-/

namespace TwoLevelPaging

namespace Machine

variable {size : Nat} {machine before after last : Machine (FrameBitmap size)}
  {page : VirtualPage} {frame table : Frame} {entry : Entry} {returned : Option Frame}

/-- The number of a frame that is free once this one has been given back: it is that frame's,
the bitmap manages it, and it is not zero. -/
def Frees (machine : Machine (FrameBitmap size)) (returned : Option Frame) (number : Nat) : Prop :=
  0 < number ∧ number < machine.source.limit ∧
    ∃ frame, returned = some frame ∧ frame.number = number

/-- One page has got an entry, and a frame has been given back for it.  No other page and no
other link has changed; one frame may have become free, and one a table. -/
structure Displaces (before after : Machine (FrameBitmap size)) (page : VirtualPage)
    (entry : Entry) (returned : Option Frame) : Prop where
  stays : Stays before after
  entry : after.entryAt page = entry
  entries : ∀ other : VirtualPage, other.directorySlot ≠ Layout.selfMapSlot → other ≠ page →
    after.entryAt other = before.entryAt other
  links : ∀ slot, page.directorySlot ≠ slot → after.linkAt slot = before.linkAt slot
  /-- A table stays where it is, and a new one was a free frame. -/
  kept : ∀ {table}, before.link? page.directorySlot = some table →
    after.link? page.directorySlot = some table
  added : ∀ {table}, NewTable before after table → 0 < table.number ∧ before.Free table
  contents : ∀ frame, frame ≠ before.root → after.link? page.directorySlot ≠ some frame →
    after.memory.content frame = before.memory.content frame
  limit : after.source.limit = before.source.limit
  bits : ∀ number, after.source.isOccupied number = true ↔
    (before.source.isOccupied number = true ∧ ¬ before.Frees returned number) ∨
      ∃ table, NewTable before after table ∧ table.number = number

theorem frees_some_iff {number : Nat} : machine.Frees (some frame) number ↔
    number = frame.number ∧ 0 < frame.number ∧ frame.number < machine.source.limit := by
  constructor
  · rintro ⟨hPositive, hManaged, other, hOther, rfl⟩
    rw [Option.some.inj hOther]
    exact ⟨rfl, hPositive, hManaged⟩
  · rintro ⟨rfl, hPositive, hManaged⟩
    exact ⟨hPositive, hManaged, frame, rfl, rfl⟩

/-- No frame comes free if none is given back. -/
theorem not_frees_none (number : Nat) : ¬ machine.Frees none number := by
  rintro ⟨-, -, frame, hFrame, -⟩
  cases hFrame

/-- The bits after a frame has been given back. -/
theorem Released.bits (hSound : before.source.Sound) (hReleased : Released before frame after) :
    after.source.limit = before.source.limit ∧ after.source.cursor = before.source.cursor ∧
      ∀ number, after.source.isOccupied number = true ↔
        before.source.isOccupied number = true ∧ ¬ before.Frees (some frame) number := by
  obtain ⟨pool, events, hGive, rfl⟩ := hReleased
  obtain ⟨result, hRelease⟩ := FrameBitmap.exists_release_of_give hGive
  obtain ⟨other, next, hNext, hLimit, hCursor, -, hBits⟩ :=
    FrameBitmap.exists_release_eq hSound frame.number
  obtain ⟨-, rfl⟩ := Prod.mk.inj (Except.ok.inj (hRelease.symm.trans hNext))
  refine ⟨hLimit, hCursor, ?_⟩
  intro number
  rw [source_draw, hBits, frees_some_iff, Bool.and_eq_true, Bool.not_eq_true',
    Bool.and_eq_false_imp, beq_iff_eq]
  simp

/-- No table is new if the links are the same. -/
theorem not_newTable_of_link?_eq (hLinks : ∀ slot, after.link? slot = before.link? slot)
    (table : Frame) : ¬ NewTable before after table := by
  rintro ⟨slot, hNone, hLink⟩
  rw [hLinks, hNone] at hLink
  cases hLink

namespace Placed

/-- Only the page's own slot can have got a table. -/
theorem slot_eq (hPlaced : Placed before after page entry) {slot : Slot}
    (hNone : before.link? slot = none) (hLink : after.link? slot = some table) :
    page.directorySlot = slot := by
  by_contra hOther
  rw [link?, hPlaced.links slot hOther] at hLink
  rw [link?, hLink] at hNone
  cases hNone

/-- If the page's slot had a table, no link is new and the bitmap is the same. -/
theorem of_linked (hPlaced : Placed before after page entry)
    (hLink : before.link? page.directorySlot = some table) :
    (∀ slot, after.link? slot = before.link? slot) ∧ after.source = before.source := by
  obtain ⟨hKept, hSource⟩ := hPlaced.kept hLink
  refine ⟨?_, hSource⟩
  intro slot
  by_cases hSlot : page.directorySlot = slot
  · rw [← hSlot, hKept, hLink]
  · rw [link?, hPlaced.links slot hSlot, link?]

/-- A placed mapping that gives no frame back. -/
theorem displaces (hPlaced : Placed before after page entry) :
    Displaces before after page entry none := by
  cases hLink : before.link? page.directorySlot with
  | some table =>
      obtain ⟨hLinks, hSource⟩ := hPlaced.of_linked hLink
      have hNew := not_newTable_of_link?_eq hLinks
      refine ⟨hPlaced.stays, hPlaced.entry, hPlaced.entries, hPlaced.links, ?_, ?_,
        hPlaced.contents,
        by rw [hSource], ?_⟩
      · intro other hOther
        rw [hLinks, hOther]
      · intro other hOther
        exact absurd hOther (hNew other)
      · intro number
        simp [hSource, not_frees_none, hNew]
  | none =>
      obtain ⟨table, hTable, hPositive, hFree, hMarks⟩ := hPlaced.added hLink
      have hNew : ∀ other, NewTable before after other ↔ other = table := by
        intro other
        constructor
        · rintro ⟨slot, hNone, hOther⟩
          rw [← hPlaced.slot_eq hNone hOther, hTable] at hOther
          exact (Option.some.inj hOther).symm
        · rintro rfl
          exact ⟨_, hLink, hTable⟩
      refine ⟨hPlaced.stays, hPlaced.entry, hPlaced.entries, hPlaced.links, ?_, ?_,
        hPlaced.contents,
        hMarks.limit, ?_⟩
      · intro other hOther
        rw [hLink] at hOther
        cases hOther
      · intro other hOther
        rw [(hNew other).mp hOther]
        exact ⟨hPositive, hFree⟩
      · intro number
        simp only [not_frees_none, not_false_eq_true, and_true, hNew, exists_eq_left]
        by_cases hNumber : number = table.number
        · simp [hNumber, hMarks.same]
        · simp [hMarks.others number hNumber, Ne.symm hNumber]

end Placed

/-- A change of one page that gives no frame back. -/
theorem Rewrites.displaces (hRewrites : Rewrites before after page entry)
    (hPage : page.directorySlot ≠ Layout.selfMapSlot) :
    Displaces before after page entry none := by
  have hNew := not_newTable_of_link?_eq hRewrites.link?_eq
  refine ⟨hRewrites.stays, ?_, ?_, fun slot _ => hRewrites.links slot, ?_, ?_, ?_,
    by rw [hRewrites.source_eq], ?_⟩
  · rw [hRewrites.entries page hPage, if_pos rfl]
  · intro other hOther hDifferent
    rw [hRewrites.entries other hOther, if_neg hDifferent]
  · intro table hTable
    rw [hRewrites.link?_eq, hTable]
  · intro table hTable
    exact absurd hTable (hNew table)
  · intro other _ hOther
    exact hRewrites.contents other fun hLink => hOther ((hRewrites.link?_eq _).trans hLink)
  · intro number
    simp [hRewrites.source_eq, not_frees_none, hNew]

/-- Where the bitmap has not changed there is no new table. -/
theorem Displaces.not_newTable (hDisplaces : Displaces before after page entry none)
    (hSource : after.source = before.source) (table : Frame) : ¬ NewTable before after table := by
  intro hTable
  have hOccupied := (hDisplaces.bits table.number).mpr (.inr ⟨table, hTable, rfl⟩)
  obtain ⟨-, hFree⟩ := (FrameBitmap.freeAt_eq_true_iff _ _).mp (hDisplaces.added hTable).2
  rw [hSource, hFree] at hOccupied
  cases hOccupied

/-- A page whose slot has a table does not get a new one. -/
theorem Displaces.not_newTable_of_linked (hDisplaces : Displaces before after page entry returned)
    (hLink : before.link? page.directorySlot = some table) (other : Frame) :
    ¬ NewTable before after other := by
  rintro ⟨slot, hNone, hOther⟩
  by_cases hSlot : page.directorySlot = slot
  · rw [← hSlot, hLink] at hNone
    cases hNone
  · rw [link?, hDisplaces.links slot hSlot] at hOther
    rw [link?, hOther] at hNone
    cases hNone

/-- A frame is given back after a page has changed, for which no frame was taken. -/
theorem Displaces.released (hDisplaces : Displaces before after page entry none)
    (hSource : after.source = before.source) (hSound : before.source.Sound)
    (hReleased : Released after frame last) : Displaces before last page entry (some frame) := by
  have hNew := hDisplaces.not_newTable hSource
  obtain ⟨hLimit, -, hBits⟩ := hReleased.bits (hSource ▸ hSound)
  obtain ⟨pool, events, -, rfl⟩ := hReleased
  refine ⟨hDisplaces.stays.trans (after.stays_draw pool events), hDisplaces.entry,
    hDisplaces.entries, hDisplaces.links, hDisplaces.kept, hDisplaces.added, hDisplaces.contents,
    ?_, ?_⟩
  · rw [hLimit, hSource]
  · intro number
    have hNone : ¬ ∃ table, NewTable before (after.draw pool events) table ∧
        table.number = number := by
      rintro ⟨table, hTable, -⟩
      exact hNew table hTable
    rw [hBits, or_iff_left hNone, hSource, frees_some_iff, frees_some_iff, hSource]

/-- Where the page's slot had a table, the frames that are free in the end are those that were,
and the one that has been given back. -/
theorem Displaces.free_iff (hDisplaces : Displaces before after page entry returned)
    (hLink : before.link? page.directorySlot = some table) :
    after.Free frame ↔ before.Free frame ∨ before.Frees returned frame.number := by
  have hNew := hDisplaces.not_newTable_of_linked hLink
  have hBits : after.source.isOccupied frame.number = true ↔
      before.source.isOccupied frame.number = true ∧ ¬ before.Frees returned frame.number := by
    rw [hDisplaces.bits]
    simp [hNew]
  simp only [Free, FrameBitmap.freeAt_eq_true_iff, hDisplaces.limit]
  rw [← Bool.not_eq_true, hBits]
  constructor
  · rintro ⟨hManaged, hFree⟩
    by_cases hReturned : before.Frees returned frame.number
    · exact .inr hReturned
    · exact .inl ⟨hManaged, Bool.eq_false_iff.mpr fun hOccupied => hFree ⟨hOccupied, hReturned⟩⟩
  · rintro (⟨hManaged, hFree⟩ | hReturned)
    · exact ⟨hManaged, fun hOccupied => by simp [hFree] at hOccupied⟩
    · exact ⟨hReturned.2.1, fun hOccupied => hOccupied.2 hReturned⟩

/-! ## The requests -/

/-- A request is granted exactly if it is possible, and then this holds of its answer and the
machine after it.  Otherwise it names the obstacle and changes nothing. -/
structure Settles {α : Type} (before : Machine (FrameBitmap size)) (possible : Prop)
    (obstacle : MapError → Prop) (granted : α → Machine (FrameBitmap size) → Prop)
    (reply : Except MapError α) (after : Machine (FrameBitmap size)) : Prop where
  isOk_iff : reply.isOk = true ↔ possible
  granted : ∀ {value}, reply = .ok value → granted value after
  refused : ∀ {error}, reply = .error error → obstacle error ∧ Unchanged before after

section Settles

variable {α : Type} {possible : Prop} {obstacle : MapError → Prop}
  {granted : α → Machine (FrameBitmap size) → Prop}

theorem Settles.of_ok {value : α} (hPossible : possible) (hGranted : granted value after) :
    before.Settles possible obstacle granted (.ok value) after where
  isOk_iff := iff_of_true rfl hPossible
  granted hReply := Except.ok.inj hReply ▸ hGranted
  refused hReply := by cases hReply

theorem Settles.of_error {error : MapError} (hImpossible : ¬ possible) (hObstacle : obstacle error)
    (hUnchanged : Unchanged before after) :
    before.Settles possible obstacle granted (.error error) after where
  isOk_iff := iff_of_false Bool.false_ne_true hImpossible
  granted hReply := by cases hReply
  refused hReply := Except.error.inj hReply ▸ ⟨hObstacle, hUnchanged⟩

/-- What is possible is granted. -/
theorem Settles.exists_granted {reply : Except MapError α}
    (hSettles : before.Settles possible obstacle granted reply after) (hPossible : possible) :
    ∃ value, reply = .ok value ∧ granted value after := by
  have hOk := hSettles.isOk_iff.mpr hPossible
  cases reply with
  | error error => cases hOk
  | ok value => exact ⟨value, rfl, hSettles.granted rfl⟩

theorem Settles.view_eq {reply : Except MapError α}
    (hSettles : before.Settles possible obstacle granted reply after)
    (hView : ∀ value, granted value after → after.view = before.view) :
    after.view = before.view := by
  cases reply with
  | ok value => exact hView value (hSettles.granted rfl)
  | error error => exact (hSettles.refused rfl).2.view

end Settles

/-- The frame can be mapped to the page of the address, whatever is there. -/
structure Forceable (machine : Machine (FrameBitmap size)) (address : Address .virtual)
    (physical : Address .physical) : Prop where
  bases : Action.AreBases address physical
  not_reserved : Layout.isReserved (Page.containing address) = false
  table : machine.CanTable (Page.containing address : VirtualPage).directorySlot

/-- Why the frame cannot be mapped to the page of the address. -/
inductive Unforceable (machine : Machine (FrameBitmap size)) (address : Address .virtual)
    (physical : Address .physical) : MapError → Prop
  | invalid (hBases : ¬ Action.AreBases address physical) :
      Unforceable machine address physical .invalidAddress
  | guarded (hBases : Action.AreBases address physical)
      (hReserved : Layout.isReserved (Page.containing address) = true) :
      Unforceable machine address physical .protectedRegion
  | starved (hBases : Action.AreBases address physical)
      (hPage : Layout.isReserved (Page.containing address) = false)
      (hTable : ¬ machine.CanTable (Page.containing address : VirtualPage).directorySlot) :
      Unforceable machine address physical .outOfMemory

/-- A frame that has been mapped by force could be. -/
theorem Installs.forceable (hWellFormed : machine.WellFormed) {address : Address .virtual}
    {physical : Address .physical} {flags : UInt32} {displaced : Option Frame}
    (hInstalls : Installs machine (Page.containing address) (Page.containing physical) flags true
      (.ok displaced) after) (hAdmits : Admits address physical) :
    machine.Forceable address physical where
  bases := Action.areBases_iff.mp hAdmits.pair
  not_reserved := hAdmits.not_reserved
  table := hInstalls.canTable hWellFormed.stocked

theorem Unforceable.not_forceable {address : Address .virtual} {physical : Address .physical}
    {error : MapError} (hUnforceable : machine.Unforceable address physical error) :
    ¬ machine.Forceable address physical := by
  intro hForceable
  cases hUnforceable with
  | invalid hBases => exact hBases hForceable.bases
  | guarded hBases hReserved =>
      rw [hForceable.not_reserved] at hReserved
      cases hReserved
  | starved hBases hPage hTable => exact hTable hForceable.table

theorem Unforceable.settles {address : Address .virtual} {physical : Address .physical}
    {error : MapError} {granted : VirtualPage → Machine (FrameBitmap size) → Prop}
    (hUnforceable : machine.Unforceable address physical error)
    (hUnchanged : Unchanged machine after) :
    machine.Settles (machine.Forceable address physical) (machine.Unforceable address physical)
      granted (.error error) after :=
  .of_error hUnforceable.not_forceable hUnforceable hUnchanged

theorem Irremovable.not_removable {address : Address .virtual} {error : MapError}
    (hIrremovable : Irremovable address error) : ¬ Removable address := by
  intro hRemovable
  cases hIrremovable with
  | invalid hAligned =>
      rw [hRemovable.aligned] at hAligned
      cases hAligned
  | guarded hAligned hReserved =>
      rw [hRemovable.not_reserved] at hReserved
      cases hReserved

/-- The frame that a new mapping of a page gives back: the stored one, unless it is mapped
again. -/
def displacedBy (machine : Machine (FrameBitmap size)) (page : VirtualPage) (frame : Frame) :
    Option Frame :=
  (machine.entryAt page).storedFrame?.filter (· ≠ frame)

/-- What a forced mapping gives back is what it has displaced, unless it is the same frame. -/
theorem Installs.displacedBy_eq {flags : UInt32} {displaced : Option Frame}
    (hNavigable : machine.Navigable) (hPage : page.directorySlot ≠ Layout.selfMapSlot)
    (hInstalls : Installs machine page frame flags true (.ok displaced) after) :
    machine.displacedBy page frame = displaced.filter (· ≠ frame) := by
  rw [displacedBy, (hInstalls.entries_of_ok hNavigable hPage).1]

/-- An entry that stores a frame has its table already. -/
theorem exists_link_of_stored (hStored : (machine.entryAt page).storedFrame? = some frame) :
    ∃ table, machine.link? page.directorySlot = some table := by
  refine exists_link_of_used (Bool.eq_false_iff.mpr ?_)
  intro hFree
  rw [(Entry.isFree_iff _).mp hFree, Entry.storedFrame?_zero] at hStored
  cases hStored

theorem Forces.settles (hWellFormed : machine.WellFormed) {address : Address .virtual}
    {physical : Address .physical} {flags : UInt32} {reply : Except MapError VirtualPage}
    (hForces : Forces machine address physical flags reply after) :
    machine.Settles (machine.Forceable address physical) (machine.Unforceable address physical)
      (fun page after => page = Page.containing address ∧
        machine.Displaces after (Page.containing address)
          (Entry.leaf (Page.containing physical) flags)
          (machine.displacedBy (Page.containing address) (Page.containing physical)))
      reply after := by
  have hNavigable := hWellFormed.walkable.navigable
  cases hForces with
  | invalid hPair =>
      obtain rfl := Action.eq_invalidAddress_of_alignedPair hPair
      refine (Unforceable.invalid ?_).settles (.refl machine)
      intro hBases
      rw [Action.areBases_iff.mpr hBases] at hPair
      cases hPair
  | guarded hPair hReserved hUnchanged =>
      exact (Unforceable.guarded (Action.areBases_iff.mp hPair) hReserved).settles hUnchanged
  | failed hAdmits hInstalls =>
      -- The entry is not in the way, so it is a table that could not be had.
      rcases hInstalls.error_cases hWellFormed.sound with
        ⟨rfl, hUnchanged, hTable⟩ | ⟨-, -, hForced⟩
      · exact (Unforceable.starved (Action.areBases_iff.mp hAdmits.pair) hAdmits.not_reserved
          hTable).settles hUnchanged
      · cases hForced
  | kept hAdmits hInstalls hKept =>
      have hSlot := Layout.directorySlot_ne_of_not_reserved hAdmits.not_reserved
      have hNone := hInstalls.displacedBy_eq hNavigable hSlot
      rw [Option.filter_eq_none_iff.mpr fun other hOther => by simp [hKept other hOther]] at hNone
      rw [hNone]
      exact .of_ok (hInstalls.forceable hWellFormed hAdmits)
        ⟨rfl, (hInstalls.placed_of_ok hWellFormed hSlot).displaces⟩
  | displaced hAdmits hInstalls hOther hReported hReleased =>
      rename_i other installed reported
      have hSlot := Layout.directorySlot_ne_of_not_reserved hAdmits.not_reserved
      have hSome := hInstalls.displacedBy_eq hNavigable hSlot
      rw [Option.filter_some, if_pos (decide_eq_true hOther)] at hSome
      -- The entry has its table already, so no frame is taken for a new one.
      obtain ⟨hStored, -, -⟩ := hInstalls.entries_of_ok hNavigable hSlot
      obtain ⟨table, hLink⟩ := exists_link_of_stored hStored.symm
      have hPlaced := (hInstalls.placed_of_ok hWellFormed hSlot).unchanged hReported
      rw [hSome]
      exact .of_ok (hInstalls.forceable hWellFormed hAdmits)
        ⟨rfl, hPlaced.displaces.released (hPlaced.of_linked hLink).2 hWellFormed.sound hReleased⟩

theorem Empties.displaces (hWellFormed : machine.WellFormed)
    (hPage : page.directorySlot ≠ Layout.selfMapSlot) (hEmpties : Empties machine page after) :
    machine.Displaces after page Entry.zero (machine.entryAt page).storedFrame? ∧
      (∀ slot, after.linkAt slot = machine.linkAt slot) ∧
      after.source.cursor = machine.source.cursor := by
  have hRewrites := rewrites_vacate hWellFormed.walkable.toSeparated hPage
  cases hEmpties with
  | unused hStored =>
      rw [hStored]
      exact ⟨hRewrites.displaces hPage, hRewrites.links, by rw [hRewrites.source_eq]⟩
  | returned hStored hReleased =>
      rw [hStored]
      refine ⟨(hRewrites.displaces hPage).released hRewrites.source_eq hWellFormed.sound hReleased,
        ?_, ?_⟩
      · obtain ⟨_, _, -, rfl⟩ := hReleased
        exact hRewrites.links
      · rw [(hReleased.bits (hRewrites.source_eq ▸ hWellFormed.sound)).2.1, hRewrites.source_eq]

end Machine

namespace Action

variable {size : Nat} {machine : Machine (FrameBitmap size)}

/-- A request that settles, without changing the view, runs to where it leads. -/
theorem Leads.run_settles {α : Type} {action : Action (FrameBitmap size) (Except MapError α)}
    {possible : Prop} {obstacle : MapError → Prop}
    {granted : α → Machine (FrameBitmap size) → Prop}
    (hLeads : Leads action machine (machine.Settles possible obstacle granted))
    (hSeen : machine.SeenThrough machine.view)
    (hView : ∀ value after, granted value after → after.view = machine.view) :
    ∃ reply after, action.run machine = .done reply after ∧
      machine.Settles possible obstacle granted reply after :=
  hLeads.run_stays hSeen fun _ after hSettles => hSettles.view_eq fun value => hView value after

theorem leads_unmapPage_settles (hWellFormed : machine.WellFormed)
    (address : Address .virtual) :
    Leads (unmapPage address) machine
      (machine.Settles (Machine.Removable address) (Machine.Irremovable address) fun _ after =>
        machine.Displaces after (Page.containing address) Entry.zero
          (machine.entryAt (Page.containing address)).storedFrame? ∧
        (∀ slot, after.linkAt slot = machine.linkAt slot) ∧
        after.source.cursor = machine.source.cursor) := by
  refine (leads_unmapPage hWellFormed.stocked address).mono ?_
  intro reply after hReply
  cases reply with
  | error error => exact .of_error hReply.1.not_removable hReply.1 hReply.2
  | ok value =>
      obtain ⟨hRemovable, hEmpties⟩ := hReply
      exact .of_ok hRemovable (hEmpties.displaces hWellFormed
        (Layout.directorySlot_ne_of_not_reserved hRemovable.not_reserved))

theorem leads_unmapDevice_settles (hWellFormed : machine.WellFormed)
    (address : Address .virtual) :
    Leads (unmapDevice address) machine
      (machine.Settles (Machine.Removable address) (Machine.Irremovable address) fun _ after =>
        machine.Displaces after (Page.containing address) Entry.zero none ∧
        (∀ slot, after.linkAt slot = machine.linkAt slot) ∧
        after.source = machine.source) := by
  refine (leads_unmapDevice hWellFormed.stocked address).mono ?_
  intro reply after hReply
  cases reply with
  | error error => exact .of_error hReply.1.not_removable hReply.1 hReply.2
  | ok value =>
      obtain ⟨hRemovable, rfl⟩ := hReply
      have hSlot := Layout.directorySlot_ne_of_not_reserved hRemovable.not_reserved
      have hRewrites := Machine.rewrites_vacate hWellFormed.walkable.toSeparated hSlot
      exact .of_ok hRemovable ⟨hRewrites.displaces hSlot, hRewrites.links, hRewrites.source_eq⟩

/-- A forced mapping gives back the frame that the page stored before, unless it is the one
that is mapped; unmapping gives back the frame that the page stored; unmapping a device gives
back none, and does not touch the bitmap.  No other page changes, and no other frame comes free.
A page that is not reserved is always unmapped, at its base, and mapped by force if both
addresses are bases other than null and there is a table; a request that is refused says why
and changes nothing. -/
theorem releases_displaced_only (hWellFormed : machine.WellFormed)
    (hOpen : machine.view.Unrestricted) (address : Address .virtual)
    (physical : Address .physical) (flags : UInt32) :
    (∃ reply after, (mapForced address physical flags).run machine = .done reply after ∧
      machine.Settles (machine.Forceable address physical)
        (machine.Unforceable address physical)
        (fun page after => page = Page.containing address ∧
          machine.Displaces after (Page.containing address)
            (Entry.leaf (Page.containing physical) flags)
            (machine.displacedBy (Page.containing address) (Page.containing physical)))
        reply after) ∧
    (∃ reply after, (unmapPage address).run machine = .done reply after ∧
      machine.Settles (Machine.Removable address) (Machine.Irremovable address)
        (fun _ after =>
          machine.Displaces after (Page.containing address) Entry.zero
            (machine.entryAt (Page.containing address)).storedFrame? ∧
          (∀ slot, after.linkAt slot = machine.linkAt slot) ∧
          after.source.cursor = machine.source.cursor) reply after) ∧
    (∃ reply after, (unmapDevice address).run machine = .done reply after ∧
      machine.Settles (Machine.Removable address) (Machine.Irremovable address)
        (fun _ after =>
          machine.Displaces after (Page.containing address) Entry.zero none ∧
          (∀ slot, after.linkAt slot = machine.linkAt slot) ∧
          after.source = machine.source) reply after) := by
  have hSeen := hWellFormed.walkable.seenThrough hOpen
  have hForced := (leads_mapForced hWellFormed.stocked address physical flags).mono
    fun _ _ hForces => hForces.settles hWellFormed
  refine ⟨hForced.run_settles hSeen ?_,
    (leads_unmapPage_settles hWellFormed address).run_settles hSeen ?_,
    (leads_unmapDevice_settles hWellFormed address).run_settles hSeen ?_⟩
  · rintro page after ⟨-, hDisplaces⟩
    exact hDisplaces.stays.view
  · rintro value after ⟨hDisplaces, -⟩
    exact hDisplaces.stays.view
  · rintro value after ⟨hDisplaces, -⟩
    exact hDisplaces.stays.view

section Tenant

open Machine

/-- A page below the scratch page. -/
def tenantPage : VirtualPage :=
  Page.ofNumber 0x400

/-- The page owns frame 2, which is occupied, and its table is in frame 3. -/
theorem entryAt_tenantPage :
    ((tinyWithPage tenantPage).entryAt tenantPage).storedFrame? = some (Page.ofNumber 2) ∧
      (tinyWithPage tenantPage).link? tenantPage.directorySlot = some (Page.ofNumber 3) ∧
      (tinyWithPage tenantPage).source.freeAt 2 = false ∧
      (tinyWithPage tenantPage).source.limit = 8 := by
  decide +kernel

theorem unrestricted_tenantPage : (tinyWithPage tenantPage).view.Unrestricted := by
  show (tinyWithPage tenantPage).view.lendsFrames = true ∧
    (tinyWithPage tenantPage).view.hiddenSlots = []
  decide +kernel

theorem removable_tenantPage : Removable tenantPage.base := by
  constructor <;> decide +kernel

/-- Frame 5 can be mapped to the page, whose table is there. -/
theorem forceable_tenantPage :
    (tinyWithPage tenantPage).Forceable tenantPage.base (Address.ofNat 0x5000) where
  bases := by constructor <;> decide +kernel
  not_reserved := removable_tenantPage.not_reserved
  table := by
    rw [Page.containing_base]
    exact .inl ⟨Page.ofNumber 3, entryAt_tenantPage.2.1⟩

/-- Frame 2 comes free when frame 5 is mapped in its place by force, and when the page is
unmapped, but not when it is unmapped as that of a device. -/
theorem tenantPage_releases_frame : ∃ forced cleared dropped : Machine (FrameBitmap 1),
    (mapForced tenantPage.base (Address.ofNat 0x5000) Flags.userReadWrite.word).run
        (tinyWithPage tenantPage) = .done (.ok tenantPage) forced ∧
      forced.entryAt tenantPage = Entry.leaf (Page.ofNumber 5) Flags.userReadWrite.word ∧
      forced.Free (Page.ofNumber 2) ∧
    (unmapPage tenantPage.base).run (tinyWithPage tenantPage) = .done (.ok ()) cleared ∧
      cleared.entryAt tenantPage = Entry.zero ∧ cleared.Free (Page.ofNumber 2) ∧
    (unmapDevice tenantPage.base).run (tinyWithPage tenantPage) = .done (.ok ()) dropped ∧
      dropped.entryAt tenantPage = Entry.zero ∧ ¬ dropped.Free (Page.ofNumber 2) := by
  obtain ⟨⟨forcedReply, forced, hForced, hForces⟩, ⟨clearedReply, cleared, hCleared, hClears⟩,
      ⟨droppedReply, dropped, hDropped, hDrops⟩⟩ :=
    releases_displaced_only (wellFormed_tinyWithPage tenantPage) unrestricted_tenantPage
      tenantPage.base (Address.ofNat 0x5000) Flags.userReadWrite.word
  obtain ⟨page, rfl, rfl, hDisplaces⟩ := hForces.exists_granted forceable_tenantPage
  obtain ⟨⟨⟩, rfl, hEmptied, -⟩ := hClears.exists_granted removable_tenantPage
  obtain ⟨⟨⟩, rfl, hVacated, -⟩ := hDrops.exists_granted removable_tenantPage
  rw [Page.containing_base] at hForced hDisplaces hEmptied hVacated
  obtain ⟨hStored, hLink, hOccupied, hLimit⟩ := entryAt_tenantPage
  have hDisplaced : (tinyWithPage tenantPage).displacedBy tenantPage
      (Page.containing (Address.ofNat 0x5000)) = some (Page.ofNumber 2) := by
    rw [displacedBy, hStored]
    decide
  have hFrees : (tinyWithPage tenantPage).Frees (some (Page.ofNumber 2)) 2 :=
    ⟨by decide, by rw [hLimit]; decide, Page.ofNumber 2, rfl, rfl⟩
  rw [hDisplaced] at hDisplaces
  rw [hStored] at hEmptied
  refine ⟨forced, cleared, dropped, hForced, hDisplaces.entry,
    (hDisplaces.free_iff hLink).mpr (.inr hFrees), hCleared, hEmptied.entry,
    (hEmptied.free_iff hLink).mpr (.inr hFrees), hDropped, hVacated.entry, ?_⟩
  rw [hVacated.free_iff hLink]
  rintro (hFree | hFree)
  · exact Bool.false_ne_true (hOccupied.symm.trans hFree)
  · exact not_frees_none _ hFree

end Tenant

end Action

end TwoLevelPaging
