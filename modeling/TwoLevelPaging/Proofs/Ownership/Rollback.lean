import TwoLevelPaging.Proofs.AddressSpace.Pristine
import TwoLevelPaging.Proofs.Ownership.PageRuns

/-!
# What a refused run of pages leaves behind

`RolledBack before after` lists everything that can be told about the state after a
run of pages was refused: no page has changed, every table is linked where it was,
and the frames that have left the pool are those of new tables, all of them empty.
The directory entries of linked slots may have gained rights, and the cursor of the
bitmap may have moved.
-/

namespace TwoLevelPaging

namespace Machine

variable {size : Nat} {before after : Machine (FrameBitmap size)}

/-- The frame is the table of a slot that had none before. -/
def NewTable (before after : Machine (FrameBitmap size)) (frame : Frame) : Prop :=
  ∃ slot, before.link? slot = none ∧ after.link? slot = some frame

/-- Nothing is left of a request but empty tables and rights on directory entries. -/
structure RolledBack (before after : Machine (FrameBitmap size)) : Prop where
  stays : Stays before after
  entries : ∀ page : VirtualPage, page.directorySlot ≠ Layout.selfMapSlot →
    after.entryAt page = before.entryAt page
  links : ∀ {slot table}, before.link? slot = some table → after.link? slot = some table
  /-- The frames that were free are free still, or are new tables, and not both. -/
  free_iff : ∀ frame, before.Free frame ↔ after.Free frame ∨ NewTable before after frame
  free_apart : ∀ frame, ¬ (after.Free frame ∧ NewTable before after frame)
  zeroed : ∀ frame, NewTable before after frame →
    after.memory.table? frame = some Table.zero
  /-- Frames other than the directory and the new tables hold what they held. -/
  contents : ∀ frame, frame ≠ before.root → ¬ NewTable before after frame →
    after.memory.table? frame = before.memory.table? frame
  /-- Of the directory, only entries that link a table may have changed. -/
  directory : ∀ slot, slot = Layout.selfMapSlot ∨ after.link? slot = none →
    after.linkAt slot = before.linkAt slot
  limit : after.source.limit = before.source.limit
  bits : ∀ number, after.source.isOccupied number = true ↔
    before.source.isOccupied number = true ∨
      ∃ frame, NewTable before after frame ∧ frame.number = number

theorem slot_ne_of_new (hBefore : before.WellFormed) {slot : Slot}
    (hNew : before.link? slot = none) : slot ≠ Layout.selfMapSlot := by
  rintro rfl
  rw [hBefore.self_linked] at hNew
  cases hNew

/-- Of a table that holds what its pages say, nothing else is left to tell. -/
theorem content_eq_of_entries {machine : Machine (FrameBitmap size)} {slot : Slot}
    {table : Frame} (hLink : machine.link? slot = some table) {content : Table}
    (hEntries : ∀ position,
      machine.entryAt (Page.ofSlots slot position) = content.get position) :
    machine.memory.content table = content := by
  apply Table.ext
  intro position
  rw [← hEntries, entryAt_of_linked (by simpa using hLink), Page.tableSlot_ofSlots]

/-- The same content in the same memory. -/
theorem table?_eq_of_content (hStays : Stays before after) {frame : Frame}
    (hContent : after.memory.content frame = before.memory.content frame) :
    after.memory.table? frame = before.memory.table? frame := by
  by_cases hInstalled : before.Installed frame
  · rw [Memory.table?_eq_content hInstalled,
      Memory.table?_eq_content ((hStays.installed frame).mpr hInstalled), hContent]
  · have hAfter : ¬ after.Installed frame := fun h => hInstalled ((hStays.installed frame).mp h)
    rw [Installed, Memory.contains_iff, ← Option.ne_none_iff_exists', not_not] at hInstalled hAfter
    rw [hInstalled, hAfter]

/-! ## When no page of the run is backed any more -/

namespace Backed

variable {number : Nat}

theorem entries_eq (hBacked : Backed before before ∅ after number number) {page : VirtualPage}
    (hPage : page.directorySlot ≠ Layout.selfMapSlot) :
    after.entryAt page = before.entryAt page :=
  hBacked.rest page hPage (by omega)

theorem holds_new (hBefore : before.WellFormed) {slot : Slot} {frame : Frame}
    (hNew : before.link? slot = none) (hLink : after.link? slot = some frame) :
    Holds before after ∅ (.table slot) frame :=
  ⟨hNew, slot_ne_of_new hBefore hNew, hLink⟩

/-- Of the four owners of a frame two are left: the client has none, and the pages are
as before. -/
theorem free_iff (hBacked : Backed before before ∅ after number number)
    (hBefore : before.WellFormed) (frame : Frame) :
    before.Free frame ↔ after.Free frame ∨ NewTable before after frame := by
  constructor
  · intro hFree
    obtain ⟨owner, ⟨hTracked, hOwns⟩, -⟩ := hBacked.ledger.balanced.unique hFree
    cases owner with
    | pool => exact .inl hOwns
    | client => exact absurd hOwns (Finset.notMem_empty frame)
    | page page =>
        obtain ⟨hPage, hStored⟩ := hOwns
        simp only [Tracked] at hTracked
        rw [hBacked.entries_eq hPage, hTracked, Entry.storedFrame?_zero] at hStored
        cases hStored
    | table slot => exact .inr ⟨slot, hTracked, hOwns.2⟩
  · rintro (hFree | ⟨slot, hNew, hLink⟩)
    · exact hBacked.ledger.freeAt_origin hFree
    · exact hBacked.ledger.balanced.within (holds_new hBefore hNew hLink)

theorem free_apart (hBacked : Backed before before ∅ after number number)
    (hBefore : before.WellFormed) (frame : Frame) :
    ¬ (after.Free frame ∧ NewTable before after frame) := by
  rintro ⟨hFree, slot, -, hLink⟩
  exact hBacked.ledger.linked_occupied hBefore hLink hFree

/-- All pages of a new table were free before, so they are free. -/
theorem zeroed (hBacked : Backed before before ∅ after number number)
    (hBefore : before.WellFormed) {frame : Frame} (hTable : NewTable before after frame) :
    after.memory.table? frame = some Table.zero := by
  obtain ⟨slot, hNew, hLink⟩ := hTable
  have hInstalled := (hBacked.ledger.wellFormed hBefore).linked_installed hLink
  rw [Memory.table?_eq_content hInstalled, Option.some.injEq]
  refine content_eq_of_entries hLink ?_
  intro position
  have hSlot : (Page.ofSlots slot position).directorySlot ≠ Layout.selfMapSlot := by
    rw [Page.directorySlot_ofSlots]
    exact slot_ne_of_new hBefore hNew
  rw [hBacked.entries_eq hSlot, entryAt_of_unlinked (by simpa using hNew), Table.get_zero]

theorem contents (hBacked : Backed before before ∅ after number number)
    (hBefore : before.WellFormed) {frame : Frame} (hRoot : frame ≠ before.root)
    (hOld : ¬ NewTable before after frame) :
    after.memory.table? frame = before.memory.table? frame := by
  have hLedger := hBacked.ledger
  refine table?_eq_of_content hLedger.stays ?_
  by_cases hLinked : ∃ slot, after.link? slot = some frame
  · obtain ⟨slot, hLink⟩ := hLinked
    have hOldLink : before.link? slot = some frame := by
      rcases hLedger.linked_cases hBefore hLink with hOldLink | ⟨hNew, -, -⟩
      · exact hOldLink
      · exact absurd ⟨slot, hNew, hLink⟩ hOld
    have hSlot : slot ≠ Layout.selfMapSlot := by
      rintro rfl
      rw [hBefore.self_linked] at hOldLink
      exact hRoot (Option.some.inj hOldLink).symm
    refine content_eq_of_entries hLink ?_
    intro position
    rw [hBacked.entries_eq (by rwa [Page.directorySlot_ofSlots]),
      entryAt_of_linked (by simpa using hOldLink), Page.tableSlot_ofSlots]
  · rw [← hLedger.stays.root] at hRoot
    exact hBacked.outside.contents frame hRoot fun slot hLink => hLinked ⟨slot, hLink⟩

theorem bits (hBacked : Backed before before ∅ after number number)
    (hBefore : before.WellFormed) (bit : Nat) :
    after.source.isOccupied bit = true ↔
      before.source.isOccupied bit = true ∨
        ∃ frame, NewTable before after frame ∧ frame.number = bit := by
  have hLedger := hBacked.ledger
  by_cases hKept : bit = 0 ∨ before.source.freeAt bit = false
  · rw [hLedger.bits bit hKept, iff_self_or]
    rintro ⟨frame, ⟨slot, hNew, hLink⟩, rfl⟩
    have hFree := hLedger.balanced.within (holds_new hBefore hNew hLink)
    have hPositive := hLedger.linked_positive hBefore hLink hFree
    rw [hFree] at hKept
    simp only [Bool.true_eq_false, or_false] at hKept
    omega
  · simp only [not_or, Bool.not_eq_false] at hKept
    obtain ⟨frame, rfl, -⟩ :=
      hBefore.free_installed (Nat.pos_iff_ne_zero.mpr hKept.1) hKept.2
    have hManaged := FrameBitmap.lt_limit_of_freeAt hKept.2
    have hClear := ((before.source.freeAt_eq_true_iff _).mp hKept.2).2
    have hAfter : after.Free frame ↔ after.source.isOccupied frame.number = false := by
      rw [Free, FrameBitmap.freeAt_eq_true_iff, hLedger.limit]
      exact and_iff_right hManaged
    -- Of two frames with this number there is only one.
    have hNumber : (∃ other, NewTable before after other ∧ other.number = frame.number) ↔
        NewTable before after frame := by
      constructor
      · rintro ⟨other, hOther, hSame⟩
        rwa [← Page.ext hSame]
      · intro hFrame
        exact ⟨frame, hFrame, rfl⟩
    rw [hNumber, hClear]
    have hEither := (hBacked.free_iff hBefore frame).mp hKept.2
    have hNotBoth := hBacked.free_apart hBefore frame
    rw [hAfter] at hEither hNotBoth
    cases hBit : after.source.isOccupied frame.number <;> simp_all

/-- When no page of the run is backed any more, nothing but tables is left. -/
theorem rolledBack (hBacked : Backed before before ∅ after number number)
    (hBefore : before.WellFormed) : RolledBack before after where
  stays := hBacked.ledger.stays
  entries _ hPage := hBacked.entries_eq hPage
  links := hBacked.ledger.links
  free_iff := hBacked.free_iff hBefore
  free_apart := hBacked.free_apart hBefore
  zeroed _ hTable := hBacked.zeroed hBefore hTable
  contents _ hRoot hOld := hBacked.contents hBefore hRoot hOld
  directory := by
    rintro slot (rfl | hUnlinked)
    · exact hBacked.ledger.self_link
    · exact hBacked.outside.unlinked slot hUnlinked
  limit := hBacked.ledger.limit
  bits := hBacked.bits hBefore

end Backed

end Machine

namespace Action

variable {size : Nat} {machine : Machine (FrameBitmap size)}

/-- Backing a run of pages always ends with an answer, and where the answer is a
refusal nothing but empty tables is left of it.  This holds through every view that
reaches all tables, whatever the arguments are and at whichever page it fails. -/
theorem allocatePages_all_or_nothing (hWellFormed : machine.WellFormed)
    (hOpen : machine.view.Unrestricted) (address : Address .virtual) (bytes : UInt32)
    (flags : UInt32) :
    ∃ reply after, (allocatePages address bytes flags).run machine = .done reply after ∧
      ∀ error, reply = .error error → machine.RolledBack after := by
  have hLeads :=
    leads_allocatePages hWellFormed (Machine.Ledger.start machine) address bytes flags
  have hSeen := hWellFormed.walkable.seenThrough hOpen
  obtain ⟨reply, after, hRun, hReply⟩ := hLeads.run_stays hSeen (by
    intro reply after hReply
    cases reply with
    | ok value =>
        obtain ⟨start, stop, hBacked⟩ := hReply
        exact hBacked.ledger.stays.view
    | error error =>
        obtain ⟨number, hBacked⟩ := hReply
        exact hBacked.ledger.stays.view)
  refine ⟨reply, after, hRun, ?_⟩
  rintro error rfl
  obtain ⟨number, hBacked⟩ := hReply
  exact hBacked.rolledBack hWellFormed

/-- Whether an outcome is a refusal. -/
def refuses {reply : Type} : Outcome (FrameBitmap size) (Except MapError reply) → Bool
  | .done (.error _) _ => true
  | _ => false

/-- Six frames are free, and six pages would take seven: one is for their table.  The
last page is refused, and the others are taken back. -/
theorem allocatePages_tiny_rolledBack :
    ∃ error after, (allocatePages (Address.ofNat 0x1000) 0x6000 0).run Machine.tiny =
      .done (.error error) after ∧ Machine.tiny.RolledBack after := by
  have hRefused : refuses ((allocatePages (Address.ofNat 0x1000) 0x6000 0).run Machine.tiny) =
      true := by decide +kernel
  obtain ⟨reply, after, hRun, hRolledBack⟩ :=
    allocatePages_all_or_nothing Machine.pristine_tiny.wellFormed ⟨rfl, rfl⟩
      (Address.ofNat 0x1000) 0x6000 0
  rw [hRun] at hRefused
  cases reply with
  | ok value => cases hRefused
  | error error => exact ⟨error, after, hRun, hRolledBack error rfl⟩

end Action

end TwoLevelPaging
