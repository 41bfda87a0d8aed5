import TwoLevelPaging.Proofs.Edited
import TwoLevelPaging.Proofs.Ownership.Rollback

/-!
# Reserved pages are out of reach

The self-map, the scratch page and the stack guard page belong to the memory manager.  No
request changes them, hands them out or backs them, whether it succeeds or fails
(`Command.perform_guards_reserved`).  Most of this is said of all edits already
(`Edited.sparing`); the rest is about the answers.

A request on one page that is refused because the page is reserved changes nothing at all.
`allocatePage` has taken a frame by then and gives it back, so the cursor of the bitmap may
have moved; a run of pages may have met the reserved page after some others, and is rolled
back.
-/

namespace TwoLevelPaging

/-- The error of a result, if it is one. -/
def MapError.of? {α : Type} : Except MapError α → Option MapError
  | .error error => some error
  | .ok _ => none

theorem MapError.eq_of_of?_eq {α : Type} {result : Except MapError α} {error : MapError}
    (hError : of? result = some error) : result = .error error := by
  cases result with
  | error other => rw [Option.some.inj hError]
  | ok value => cases hError

/-- Why a request was refused. -/
def Reply.error? : Reply → Option MapError
  | .mapped result => MapError.of? result
  | .settled result => MapError.of? result
  | .created result => MapError.of? result
  | .found _ => none
  | .located _ => none

/-- An edit of the tables never fails because of a reserved page. -/
theorem MapError.ofLinkError_ne_protectedRegion (cause : LinkError) :
    ofLinkError cause ≠ .protectedRegion := by
  cases cause <;> simp [ofLinkError]

namespace Machine

variable {size : Nat} {before drawn middle after : Machine (FrameBitmap size)} {frame : Frame}
  {page : VirtualPage} {flags : UInt32}

/-- Nothing has changed but the cursor of the bitmap. -/
structure Restored (before after : Machine (FrameBitmap size)) : Prop where
  memory : after.memory = before.memory
  root : after.root = before.root
  limit : after.source.limit = before.source.limit
  bits : ∀ number, after.source.isOccupied number = before.source.isOccupied number

/-- A frame that is taken and given back leaves the bitmap as it was. -/
theorem restored_of_released (hBefore : before.WellFormed)
    (hTaken : Taken before (some frame) drawn) (hUnchanged : Unchanged drawn middle)
    (hReleased : Released middle frame after) : Restored before after := by
  obtain ⟨hLimit, hBits⟩ := hReleased.undoes hBefore.stocked hTaken hUnchanged.source_eq
  obtain ⟨_, _, -, rfl⟩ := hTaken
  obtain ⟨_, _, -, rfl⟩ := hReleased
  exact ⟨hUnchanged.memory, hUnchanged.root, hLimit, hBits⟩

theorem Maps.unchanged_of_protected (hMaps : Maps before frame flags reply after)
    (hReply : reply = .error .protectedRegion) : Unchanged before after := by
  cases hMaps with
  | refused hUnchanged => exact hUnchanged
  | failed hAvailable hInstalls =>
      exact absurd (Except.error.inj hReply) (MapError.ofLinkError_ne_protectedRegion _)
  | mapped hAvailable hInstalls hReported => cases hReply

theorem Forces.unchanged_of_protected {address : Address .virtual}
    {physical : Address .physical} (hForces : Forces before address physical flags reply after)
    (hReply : reply = .error .protectedRegion) : Unchanged before after := by
  cases hForces with
  | invalid hPair => exact .refl before
  | guarded hPair hReserved hUnchanged => exact hUnchanged
  | failed hAdmits hInstalls =>
      exact absurd (Except.error.inj hReply) (MapError.ofLinkError_ne_protectedRegion _)
  | kept hAdmits hInstalls hKept => cases hReply
  | displaced hAdmits hInstalls hOther hReported hReleased => cases hReply

theorem Sets.unchanged_of_protected (hSets : Sets before page frame flags reply after)
    (hReply : reply = .error .protectedRegion) : Unchanged before after := by
  cases hSets with
  | refused hUnchanged => exact hUnchanged
  | failed hPage hInstalls =>
      exact absurd (Except.error.inj hReply) (MapError.ofLinkError_ne_protectedRegion _)
  | present hPage hInstalls hStored => cases hReply
  | placed hPage hInstalls => cases hReply

theorem Allocates.restored_of_protected (hBefore : before.WellFormed)
    (hAllocates : Allocates before flags reply after)
    (hReply : reply = .error .protectedRegion) : Restored before after := by
  cases hAllocates with
  | starved hTaken => cases hReply
  | mapped hTaken hMaps => cases hReply
  | failed hTaken hMaps hReleased =>
      exact restored_of_released hBefore hTaken (hMaps.unchanged_of_protected hReply) hReleased

/-- A page that is mapped was available, so it is not reserved. -/
theorem Maps.not_reserved (hMaps : Maps before frame flags (.ok page) after) :
    Layout.isReserved page = false := by
  cases hMaps with
  | mapped hAvailable hInstalls hReported => exact hAvailable.2

theorem Allocates.not_reserved (hAllocates : Allocates before flags (.ok page) after) :
    Layout.isReserved page = false := by
  cases hAllocates with
  | mapped hTaken hMaps => exact hMaps.not_reserved

/-- The page of each byte of a run that was backed as a whole has been backed. -/
theorem Backed.not_reserved_of_byte {origin base : Machine (FrameBitmap size)}
    {held : Finset Frame} {address byte : Address .virtual} {bytes : UInt32}
    (hBacked : Backed origin base held after (Page.containing address : VirtualPage).number
      ((Page.containing address : VirtualPage).number + bytes.toNat / Layout.pageBytes))
    (hRun : Action.IsRun address bytes) (hFirst : address.toNat ≤ byte.toNat)
    (hLast : byte.toNat < address.toNat + bytes.toNat) :
    Layout.isReserved (Page.containing byte) = false := by
  obtain ⟨hAligned, hWhole, -⟩ := hRun
  simp only [Address.isAligned, beq_iff_eq, PageSize.bytes] at hAligned
  simp only [Layout.pageBytes] at hBacked hWhole
  refine (hBacked.inside (Page.containing byte) ?_ ?_).1
  · simp only [Page.number_containing, PageSize.bytes]
    omega
  · simp only [Page.number_containing, PageSize.bytes]
    omega

end Machine

namespace Command

variable {size : Nat} {machine after : Machine (FrameBitmap size)}

/-- What is left of a request that was refused because of a reserved page. -/
def Refused (before after : Machine (FrameBitmap size)) : Command → Prop
  | .allocatePage _ _ => before.Restored after
  | .allocatePages _ _ _ => before.RolledBack after
  | _ => before.Unchanged after

/-- What holds of reserved pages when a request has been answered. -/
structure Guarded (command : Command) (before : Machine (FrameBitmap size)) (reply : Reply)
    (after : Machine (FrameBitmap size)) : Prop where
  self_link : after.linkAt Layout.selfMapSlot = before.linkAt Layout.selfMapSlot
  links : ∀ {slot table}, before.link? slot = some table → after.link? slot = some table
  scratch : after.entryAt Layout.scratchPage = before.entryAt Layout.scratchPage
  stack_guard : after.entryAt Layout.stackGuardPage = before.entryAt Layout.stackGuardPage
  /-- No page that is handed out is reserved. -/
  mapped : ∀ {page}, reply = .mapped (.ok page) → Layout.isReserved page = false
  /-- No byte of a range that is backed lies in a reserved page. -/
  backed : ∀ {address bytes flags}, command = .allocatePages address bytes flags →
    reply = .settled (.ok ()) → ∀ byte : Address .virtual, address.toNat ≤ byte.toNat →
      byte.toNat < address.toNat + bytes.toNat → Layout.isReserved (Page.containing byte) = false
  refused : reply.error? = some .protectedRegion → Refused before after command

/-- The error that an action answers with when it is done. -/
def refusal (outcome : Outcome (FrameBitmap size) Reply) : Option MapError :=
  match outcome with
  | .done reply _ => reply.error?
  | .fault _ _ => none

/-- A request that is refused because of a reserved page leaves nothing behind. -/
theorem Ends.refused (hWellFormed : machine.WellFormed) {command : Command} {reply : Reply}
    (hEnds : Ends machine command reply after) (hReply : reply.error? = some .protectedRegion) :
    Refused machine after command := by
  cases hEnds with
  | mapPage hMaps => exact hMaps.unchanged_of_protected (MapError.eq_of_of?_eq hReply)
  | mapForced hForces => exact hForces.unchanged_of_protected (MapError.eq_of_of?_eq hReply)
  | setMapping hSets => exact hSets.unchanged_of_protected (MapError.eq_of_of?_eq hReply)
  | unmapPage hPage hEmpties => cases hReply
  | keepPage hUnchanged => exact hUnchanged
  | unmapDevice hPage => cases hReply
  | keepDevice hUnchanged => exact hUnchanged
  | allocatePage hAllocates =>
      exact hAllocates.restored_of_protected hWellFormed (MapError.eq_of_of?_eq hReply)
  | allocatePages hRun hBacked hEdited => cases hReply
  | rollBack hBacked hEdited => exact hBacked.rolledBack hWellFormed
  | lookup => cases hReply
  | physicalAddress => cases hReply
  | newDirectory hFounds =>
      -- A directory that cannot be made has met no page at all.
      have hResult := MapError.eq_of_of?_eq hReply
      cases hFounds with
      | starved hTaken => cases hResult
      | inPlace hTaken hFresh => cases hResult
      | borrowed hTaken hAccess hFresh hLink hFree => cases hResult
      | unreachable hTaken hAccess hReleased => cases hResult

/-- A page that is handed out is not reserved. -/
theorem Ends.not_reserved {command : Command} {page : VirtualPage}
    (hEnds : Ends machine command (.mapped (.ok page)) after) :
    Layout.isReserved page = false := by
  cases hEnds with
  | mapPage hMaps => exact hMaps.not_reserved
  | mapForced hForces =>
      cases hForces with
      | kept hAdmits hInstalls hKept => exact hAdmits.not_reserved
      | displaced hAdmits hInstalls hOther hReported hReleased => exact hAdmits.not_reserved
  | allocatePage hAllocates => exact hAllocates.not_reserved

/-- No request touches a reserved page or the link of a table, whatever its arguments are
and however it ends. -/
theorem perform_guards_reserved (hWellFormed : machine.WellFormed)
    (hOpen : machine.view.Unrestricted) (command : Command) :
    ∃ reply after, command.perform.run machine = .done reply after ∧
      Guarded command machine reply after := by
  obtain ⟨reply, after, hRun, hEnds⟩ := exists_run_ends hWellFormed hOpen command
  have hSparing := (hEnds.edited hWellFormed).sparing hWellFormed.walkable
  refine ⟨reply, after, hRun, ?_⟩
  constructor
  · exact hSparing.self_link
  · exact hSparing.links
  · exact hSparing.reserved Layout.directorySlot_scratchPage_ne Layout.isReserved_scratchPage
  · exact hSparing.reserved Layout.directorySlot_stackGuardPage_ne
      Layout.isReserved_stackGuardPage
  · rintro page rfl
    exact hEnds.not_reserved
  · rintro address bytes flags rfl rfl byte hFirst hLast
    cases hEnds with
    | allocatePages hRun hBacked hEdited =>
        exact hBacked.not_reserved_of_byte hRun hFirst hLast
  · exact hEnds.refused hWellFormed

/-- A run that reaches the scratch page is refused there, after two pages below it have been
backed. -/
theorem allocatePages_tiny_guards_scratch :
    ∃ reply after,
      (allocatePages (Address.ofNat 0xFFBEC000) 0x3000 0).perform.run Machine.tiny =
        .done reply after ∧
      reply.error? = some .protectedRegion ∧
      Guarded (allocatePages (Address.ofNat 0xFFBEC000) 0x3000 0) Machine.tiny reply after := by
  have hRefused : refusal ((allocatePages (Address.ofNat 0xFFBEC000) 0x3000 0).perform.run
      Machine.tiny) = some .protectedRegion := by decide +kernel
  obtain ⟨reply, after, hRun, hGuarded⟩ :=
    perform_guards_reserved Machine.pristine_tiny.wellFormed ⟨rfl, rfl⟩
      (allocatePages (Address.ofNat 0xFFBEC000) 0x3000 0)
  rw [hRun] at hRefused
  exact ⟨reply, after, hRun, hRefused, hGuarded⟩

end Command

end TwoLevelPaging
