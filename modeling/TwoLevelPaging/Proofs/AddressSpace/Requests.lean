import TwoLevelPaging.Mapping
import TwoLevelPaging.Proofs.AddressSpace.WellFormed

/-!
# The outcomes of the requests

For each request on one page the ways in which it can end, as an inductive
predicate on its reply and the machine after it.  The predicates are put together
from the edits of the tables: `Installs`, `vacate`, `Taken` and `Released`.  From a
well-formed machine every request leads to one of its outcomes, whatever its
arguments are.

Two requests are left out.  A run of pages is a loop over `backPage`, and a new
directory is edited outside the tables; both have files of their own.
-/

namespace TwoLevelPaging

namespace Machine

variable {source : Type} [FrameSource source] {machine after last : Machine source}

/-- The outcomes of mapping a frame to the first free page. -/
inductive Maps (machine : Machine source) (frame : Frame) (flags : UInt32) :
    Except MapError VirtualPage → Machine source → Prop
  | refused {error : MapError} {after : Machine source} (hUnchanged : Unchanged machine after) :
      Maps machine frame flags (.error error) after
  | failed {page : VirtualPage} {cause : LinkError} {after : Machine source}
      (hAvailable : machine.Available page)
      (hInstalls : Installs machine page frame flags false (.error cause) after) :
      Maps machine frame flags (.error (.ofLinkError cause)) after
  | mapped {page : VirtualPage} {displaced : Option Frame} {after last : Machine source}
      (hAvailable : machine.Available page)
      (hInstalls : Installs machine page frame flags false (.ok displaced) after)
      (hReported : Unchanged after last) : Maps machine frame flags (.ok page) last

/-- The addresses of a request to map that is not refused at once: they are accepted, and the
page of the first one is not reserved. -/
structure Admits (address : Address .virtual) (physical : Address .physical) : Prop where
  pair : Action.alignedPair address physical true =
    .ok (Page.containing address, Page.containing physical)
  not_reserved : Layout.isReserved (Page.containing address) = false

/-- The outcomes of mapping a frame to the first free page from an address on, each with what
has decided for it. -/
inductive MapsFirst (machine : Machine source) (address : Address .virtual)
    (physical : Address .physical) (flags : UInt32) :
    Except MapError VirtualPage → Machine source → Prop
  | invalid {error : MapError} (hPair : Action.alignedPair address physical true = .error error) :
      MapsFirst machine address physical flags (.error error) machine
  | guarded {after : Machine source}
      (hPair : Action.alignedPair address physical true =
        .ok (Page.containing address, Page.containing physical))
      (hReserved : Layout.isReserved (Page.containing address) = true)
      (hUnchanged : Unchanged machine after) :
      MapsFirst machine address physical flags (.error .protectedRegion) after
  | exhausted (hAdmits : Admits address physical)
      (hFirst : machine.FirstAvailable (Page.containing address : VirtualPage).number none) :
      MapsFirst machine address physical flags (.error .exhausted) machine
  | failed {page : VirtualPage} {cause : LinkError} {after : Machine source}
      (hAdmits : Admits address physical)
      (hFirst : machine.FirstAvailable (Page.containing address : VirtualPage).number (some page))
      (hInstalls : Installs machine page (Page.containing physical) flags false (.error cause)
        after) :
      MapsFirst machine address physical flags (.error (.ofLinkError cause)) after
  | mapped {page : VirtualPage} {displaced : Option Frame} {after last : Machine source}
      (hAdmits : Admits address physical)
      (hFirst : machine.FirstAvailable (Page.containing address : VirtualPage).number (some page))
      (hInstalls : Installs machine page (Page.containing physical) flags false (.ok displaced)
        after)
      (hReported : Unchanged after last) : MapsFirst machine address physical flags (.ok page) last

/-- The outcomes of mapping a frame to the page of an address, whatever is there, each with what
has decided for it. -/
inductive Forces (machine : Machine source) (address : Address .virtual)
    (physical : Address .physical) (flags : UInt32) :
    Except MapError VirtualPage → Machine source → Prop
  | invalid {error : MapError} (hPair : Action.alignedPair address physical true = .error error) :
      Forces machine address physical flags (.error error) machine
  | guarded {after : Machine source}
      (hPair : Action.alignedPair address physical true =
        .ok (Page.containing address, Page.containing physical))
      (hReserved : Layout.isReserved (Page.containing address) = true)
      (hUnchanged : Unchanged machine after) :
      Forces machine address physical flags (.error .protectedRegion) after
  | failed {cause : LinkError} {after : Machine source} (hAdmits : Admits address physical)
      (hInstalls : Installs machine (Page.containing address) (Page.containing physical) flags
        true (.error cause) after) :
      Forces machine address physical flags (.error (.ofLinkError cause)) after
  | kept {displaced : Option Frame} {after : Machine source} (hAdmits : Admits address physical)
      (hInstalls : Installs machine (Page.containing address) (Page.containing physical) flags
        true (.ok displaced) after)
      (hKept : ∀ other, displaced = some other → other = Page.containing physical) :
      Forces machine address physical flags (.ok (Page.containing address)) after
  | displaced {other : Frame} {after reported last : Machine source}
      (hAdmits : Admits address physical)
      (hInstalls : Installs machine (Page.containing address) (Page.containing physical) flags
        true (.ok (some other)) after)
      (hOther : other ≠ Page.containing physical) (hReported : Unchanged after reported)
      (hReleased : Released reported other last) :
      Forces machine address physical flags (.ok (Page.containing address)) last

/-- The outcomes of mapping a frame to a given page that may hold it already. -/
inductive Sets (machine : Machine source) (page : VirtualPage) (frame : Frame)
    (flags : UInt32) : Except MapError Unit → Machine source → Prop
  | refused {error : MapError} {after : Machine source} (hUnchanged : Unchanged machine after) :
      Sets machine page frame flags (.error error) after
  | failed {cause : LinkError} {after : Machine source}
      (hPage : Layout.isReserved page = false)
      (hInstalls : Installs machine page frame flags false (.error cause) after) :
      Sets machine page frame flags (.error (.ofLinkError cause)) after
  | present {after : Machine source} (hPage : Layout.isReserved page = false)
      (hInstalls : Installs machine page frame flags false (.error .occupied) after)
      (hStored : (after.entryAt page).storedFrame? = some frame) :
      Sets machine page frame flags (.ok ()) after
  | placed {displaced : Option Frame} {after : Machine source}
      (hPage : Layout.isReserved page = false)
      (hInstalls : Installs machine page frame flags false (.ok displaced) after) :
      Sets machine page frame flags (.ok ()) after

/-- The page of an address can be unmapped: the address is its base, and it is not reserved. -/
structure Removable (address : Address .virtual) : Prop where
  aligned : address.isAligned .small = true
  not_reserved : Layout.isReserved (Page.containing address) = false

/-- Why the page of an address cannot be unmapped. -/
inductive Irremovable (address : Address .virtual) : MapError → Prop
  | invalid (hAligned : address.isAligned .small = false) : Irremovable address .invalidAddress
  | guarded (hAligned : address.isAligned .small = true)
      (hReserved : Layout.isReserved (Page.containing address) = true) :
      Irremovable address .protectedRegion

/-- The outcomes of clearing a page and giving its frame back. -/
inductive Empties (machine : Machine source) (page : VirtualPage) : Machine source → Prop
  | unused (hStored : (machine.entryAt page).storedFrame? = none) :
      Empties machine page (machine.vacate page)
  | returned {frame : Frame} {last : Machine source}
      (hStored : (machine.entryAt page).storedFrame? = some frame)
      (hReleased : Released (machine.vacate page) frame last) : Empties machine page last

/-- The outcomes of backing the first free page with a new frame. -/
inductive Allocates (machine : Machine source) (flags : UInt32) :
    Except MapError VirtualPage → Machine source → Prop
  | starved {after : Machine source} (hTaken : Taken machine none after) :
      Allocates machine flags (.error .outOfMemory) after
  | mapped {frame : Frame} {page : VirtualPage} {after last : Machine source}
      (hTaken : Taken machine (some frame) after)
      (hMaps : Maps after frame flags (.ok page) last) : Allocates machine flags (.ok page) last
  | failed {frame : Frame} {error : MapError} {after middle last : Machine source}
      (hTaken : Taken machine (some frame) after)
      (hMaps : Maps after frame flags (.error error) middle)
      (hReleased : Released middle frame last) : Allocates machine flags (.error error) last

/-- The outcomes of backing the first free page from an address on with a new frame, each with
what has decided for it. -/
inductive AllocatesFirst (machine : Machine source) (address : Address .virtual)
    (flags : UInt32) : Except MapError VirtualPage → Machine source → Prop
  | starved {after : Machine source} (hTaken : Taken machine none after) :
      AllocatesFirst machine address flags (.error .outOfMemory) after
  | mapped {frame : Frame} {page : VirtualPage} {after last : Machine source}
      (hTaken : Taken machine (some frame) after)
      (hMaps : MapsFirst after address frame.base flags (.ok page) last) :
      AllocatesFirst machine address flags (.ok page) last
  | failed {frame : Frame} {error : MapError} {after middle last : Machine source}
      (hTaken : Taken machine (some frame) after)
      (hMaps : MapsFirst after address frame.base flags (.error error) middle)
      (hReleased : Released middle frame last) :
      AllocatesFirst machine address flags (.error error) last

/-- The outcomes of backing a given page with a new frame. -/
inductive Backs (machine : Machine source) (page : VirtualPage) (flags : UInt32) :
    Except MapError Unit → Machine source → Prop
  | refused {after : Machine source} (hUnchanged : Unchanged machine after)
      (hPage : Layout.isReserved page = true) :
      Backs machine page flags (.error .protectedRegion) after
  | starved {after : Machine source} (hTaken : Taken machine none after) :
      Backs machine page flags (.error .outOfMemory) after
  | placed {frame : Frame} {displaced : Option Frame} {after last : Machine source}
      (hPage : Layout.isReserved page = false) (hTaken : Taken machine (some frame) after)
      (hInstalls : Installs after page frame flags false (.ok displaced) last) :
      Backs machine page flags (.ok ()) last
  | failed {frame : Frame} {cause : LinkError} {after middle last : Machine source}
      (hPage : Layout.isReserved page = false) (hTaken : Taken machine (some frame) after)
      (hInstalls : Installs after page frame flags false (.error cause) middle)
      (hReleased : Released middle frame last) :
      Backs machine page flags (.error (.ofLinkError cause)) last

theorem Unchanged.sound {size : Nat} {before after : Machine (FrameBitmap size)}
    (hUnchanged : Unchanged before after) (hSound : before.source.Sound) : after.source.Sound :=
  hUnchanged.source_eq ▸ hSound

/-- For most purposes it does not matter which page was found and why a request was refused. -/
theorem MapsFirst.maps {address : Address .virtual} {physical : Address .physical}
    {flags : UInt32} {reply : Except MapError VirtualPage}
    (hMaps : MapsFirst machine address physical flags reply after) :
    Maps machine (Page.containing physical) flags reply after := by
  cases hMaps with
  | invalid hPair => exact .refused (.refl machine)
  | guarded hPair hReserved hUnchanged => exact .refused hUnchanged
  | exhausted hAdmits hFirst => exact .refused (.refl machine)
  | failed hAdmits hFirst hInstalls => exact .failed hFirst.2.1 hInstalls
  | mapped hAdmits hFirst hInstalls hReported => exact .mapped hFirst.2.1 hInstalls hReported

theorem AllocatesFirst.allocates {address : Address .virtual} {flags : UInt32}
    {reply : Except MapError VirtualPage}
    (hAllocates : AllocatesFirst machine address flags reply after) :
    Allocates machine flags reply after := by
  -- The frame is passed on by its base address, and is recovered from it.
  cases hAllocates with
  | starved hTaken => exact .starved hTaken
  | mapped hTaken hMaps =>
      have hMapped := hMaps.maps
      rw [Page.containing_base] at hMapped
      exact .mapped hTaken hMapped
  | failed hTaken hMaps hReleased =>
      have hFailed := hMaps.maps
      rw [Page.containing_base] at hFailed
      exact .failed hTaken hFailed hReleased

theorem Maps.sound {size : Nat} {before after : Machine (FrameBitmap size)} {frame : Frame}
    {flags : UInt32} {reply : Except MapError VirtualPage}
    (hMaps : Maps before frame flags reply after) (hSound : before.source.Sound) :
    after.source.Sound := by
  cases hMaps with
  | refused hUnchanged => exact hUnchanged.sound hSound
  | failed hAvailable hInstalls => exact hInstalls.sound hSound
  | mapped hAvailable hInstalls hReported => exact hReported.sound (hInstalls.sound hSound)

end Machine

/-- A page that is not reserved lies below the self-map. -/
theorem Layout.directorySlot_ne_of_not_reserved {page : VirtualPage}
    (hPage : isReserved page = false) : page.directorySlot ≠ selfMapSlot := by
  intro hSlot
  simp [isReserved, isSelfMap, hSlot] at hPage

namespace Action

variable {size : Nat} {machine : Machine (FrameBitmap size)}

/-! ## Arguments -/

/-- An address is accepted exactly if it is a page base. -/
theorem alignedPage_eq_ok_iff {address : Address .virtual} {page : VirtualPage} :
    alignedPage address = .ok page ↔
      address.isAligned .small = true ∧ page = Page.containing address := by
  rw [alignedPage]
  by_cases hAligned : address.isAligned .small = true
  · rw [if_pos hAligned, Except.ok.injEq, and_iff_right hAligned, eq_comm]
  · rw [if_neg hAligned]
    exact iff_of_false (fun hPage => by cases hPage) fun hPage => hAligned hPage.1

theorem alignedPage_eq_error_iff {address : Address .virtual} {error : MapError} :
    alignedPage address = .error error ↔
      address.isAligned .small = false ∧ error = .invalidAddress := by
  rw [alignedPage]
  by_cases hAligned : address.isAligned .small = true
  · rw [if_pos hAligned, hAligned]
    exact iff_of_false (fun hPage => by cases hPage) fun hPage => by cases hPage.1
  · rw [if_neg hAligned, Except.error.injEq, and_iff_right (Bool.not_eq_true _ ▸ hAligned),
      eq_comm]

/-- Two addresses are accepted exactly if both are page bases and, where null is rejected,
neither is null. -/
theorem alignedPair_eq_ok_iff {address : Address .virtual} {physical : Address .physical}
    {rejectNull : Bool} {page : VirtualPage} {frame : Frame} :
    alignedPair address physical rejectNull = .ok (page, frame) ↔
      (rejectNull = true → address.isNull = false ∧ physical.isNull = false) ∧
        address.isAligned .small = true ∧ physical.isAligned .small = true ∧
        page = Page.containing address ∧ frame = Page.containing physical := by
  constructor
  · intro hPair
    rw [alignedPair] at hPair
    split at hPair
    · cases hPair
    · rename_i hSet
      split at hPair
      · cases hPair
      · rename_i hPhysical
        simp only [Bool.and_eq_true, Bool.or_eq_true, not_and, not_or, Bool.not_eq_true] at hSet
        simp only [Bool.not_eq_true', Bool.not_eq_false] at hPhysical
        by_cases hAddress : address.isAligned .small = true
        · rw [alignedPage, if_pos hAddress, Except.map, Except.ok.injEq, Prod.mk.injEq] at hPair
          exact ⟨hSet, hAddress, hPhysical, hPair.1.symm, hPair.2.symm⟩
        · rw [alignedPage, if_neg hAddress] at hPair
          cases hPair
  · rintro ⟨hSet, hAddress, hPhysical, rfl, rfl⟩
    have hNull : (rejectNull && (address.isNull || physical.isNull)) = false := by
      cases rejectNull with
      | false => rfl
      | true => simp [hSet rfl]
    simp [alignedPair, alignedPage, hNull, hAddress, hPhysical, Except.map]

theorem alignedPair_eq {address : Address .virtual} {physical : Address .physical}
    {rejectNull : Bool} {page : VirtualPage} {frame : Frame}
    (hPair : alignedPair address physical rejectNull = .ok (page, frame)) :
    page = Page.containing address ∧ frame = Page.containing physical :=
  (alignedPair_eq_ok_iff.mp hPair).2.2.2

/-- There is one reason only to refuse two addresses. -/
theorem eq_invalidAddress_of_alignedPair {address : Address .virtual}
    {physical : Address .physical} {rejectNull : Bool} {error : MapError}
    (hPair : alignedPair address physical rejectNull = .error error) :
    error = .invalidAddress := by
  rw [alignedPair, alignedPage] at hPair
  split at hPair
  · exact (Except.error.inj hPair).symm
  · split at hPair
    · exact (Except.error.inj hPair).symm
    · split at hPair
      · cases hPair
      · exact (Except.error.inj hPair).symm

/-- A request on a reserved page is refused with a report, any other passes. -/
theorem leads_refuseReserved {source : Type} (machine : Machine source) (request : Request)
    (address : Address .virtual) :
    Leads (refuseReserved request address) machine fun result after =>
      match result with
      | .error error => Machine.Unchanged machine after ∧ error = .protectedRegion ∧
          Layout.isReserved (Page.containing address) = true
      | .ok () => after = machine ∧ Layout.isReserved (Page.containing address) = false := by
  unfold refuseReserved
  by_cases hReserved : Layout.isReserved (Page.containing address) = true
  · rw [if_pos hReserved]
    refine (leads_record machine _).bind ?_
    rintro value after rfl
    exact .pure ⟨machine.unchanged_note _, rfl, hReserved⟩
  · rw [if_neg hReserved]
    exact .pure ⟨rfl, Bool.not_eq_true _ ▸ hReserved⟩

/-- A request that maps goes ahead after its checks, or is refused by one of them: the two
addresses are not accepted, or the page is reserved. -/
theorem leads_checkedPair {α : Type} {rejectNull : Bool} {request : Request}
    {address : Address .virtual} {physical : Address .physical}
    {body : VirtualPage → Frame → Action (FrameBitmap size) (Except MapError α)}
    {post : Except MapError α → Machine (FrameBitmap size) → Prop}
    (hInvalid : ∀ error, alignedPair address physical rejectNull = .error error →
      post (.error error) machine)
    (hGuarded : ∀ after, alignedPair address physical rejectNull =
        .ok (Page.containing address, Page.containing physical) →
      Layout.isReserved (Page.containing address) = true → Machine.Unchanged machine after →
      post (.error .protectedRegion) after)
    (hBody : alignedPair address physical rejectNull =
        .ok (Page.containing address, Page.containing physical) →
      Layout.isReserved (Page.containing address) = false →
      Leads (body (Page.containing address) (Page.containing physical)) machine post) :
    Leads (match alignedPair address physical rejectNull with
      | .error error => return .error error
      | .ok (page, frame) => do
        match ← refuseReserved request address with
        | .error error => return .error error
        | .ok () => body page frame) machine post := by
  split
  · rename_i error hPair
    exact .pure (hInvalid error hPair)
  · rename_i page frame hPair
    obtain ⟨rfl, rfl⟩ := alignedPair_eq hPair
    refine (leads_refuseReserved machine request address).bind ?_
    intro checked same hChecked
    cases checked with
    | error error =>
        obtain ⟨hUnchanged, rfl, hReserved⟩ := hChecked
        exact .pure (hGuarded same hPair hReserved hUnchanged)
    | ok value =>
        obtain ⟨rfl, hPage⟩ := hChecked
        exact hBody hPair hPage

/-- A request that unmaps goes ahead after its checks if the page can be unmapped, and is
refused otherwise. -/
theorem leads_checkedPage {α : Type} {request : Request} {address : Address .virtual}
    {body : VirtualPage → Action (FrameBitmap size) (Except MapError α)}
    {post : Except MapError α → Machine (FrameBitmap size) → Prop}
    (hRefused : ∀ error after, Machine.Irremovable address error →
      Machine.Unchanged machine after → post (.error error) after)
    (hBody : Machine.Removable address →
      Leads (body (Page.containing address)) machine post) :
    Leads (match alignedPage address with
      | .error error => return .error error
      | .ok page => do
        match ← refuseReserved request address with
        | .error error => return .error error
        | .ok () => body page) machine post := by
  split
  · rename_i error hPage
    obtain ⟨hAligned, rfl⟩ := alignedPage_eq_error_iff.mp hPage
    exact .pure (hRefused _ machine (.invalid hAligned) (.refl machine))
  · rename_i page hPage
    obtain ⟨hAligned, rfl⟩ := alignedPage_eq_ok_iff.mp hPage
    refine (leads_refuseReserved machine request address).bind ?_
    intro checked same hChecked
    cases checked with
    | error error =>
        obtain ⟨hUnchanged, rfl, hReserved⟩ := hChecked
        exact .pure (hRefused _ same (.guarded hAligned hReserved) hUnchanged)
    | ok value =>
        obtain ⟨rfl, hFree⟩ := hChecked
        exact hBody ⟨hAligned, hFree⟩

/-- The frame behind a page, if its table is reached, is the one its entry stores. -/
theorem bind_storedFrame? {source : Type} (machine : Machine source) (page : VirtualPage) :
    ((machine.link? page.directorySlot).map fun _ => machine.entryAt page).bind
      Entry.storedFrame? = (machine.entryAt page).storedFrame? := by
  cases hLink : machine.link? page.directorySlot with
  | none => simp [Machine.entryAt_of_unlinked hLink]
  | some table => rfl

/-! ## Requests on one page -/

theorem leads_mapPage_first (hStocked : machine.Stocked) (address : Address .virtual)
    (physical : Address .physical) (flags : UInt32) :
    Leads (mapPage address physical flags) machine
      (machine.MapsFirst address physical flags) := by
  unfold mapPage
  refine leads_checkedPair (fun _ => .invalid) (fun _ => .guarded) ?_
  intro hPair hPage
  have hAdmits : Machine.Admits address physical := ⟨hPair, hPage⟩
  refine (leads_findFree hStocked.toTraversable (Page.containing address)).bind ?_
  rintro found same ⟨rfl, hFirst⟩
  cases found with
  | none => exact .pure (.exhausted hAdmits hFirst)
  | some free =>
      refine (leads_install_of_stocked hStocked hFirst.2.1.directorySlot_ne
        _ flags false).bind ?_
      intro result after hInstalls
      cases result with
      | error cause => exact .pure (.failed hAdmits hFirst hInstalls)
      | ok displaced =>
          refine (leads_record after _).bind ?_
          rintro value last rfl
          exact .pure (.mapped hAdmits hFirst hInstalls (after.unchanged_note _))

theorem leads_mapPage (hStocked : machine.Stocked) (address : Address .virtual)
    (physical : Address .physical) (flags : UInt32) :
    Leads (mapPage address physical flags) machine
      (machine.Maps (Page.containing physical) flags) :=
  (leads_mapPage_first hStocked address physical flags).mono fun _ _ hMaps => hMaps.maps

theorem leads_mapForced (hStocked : machine.Stocked) (address : Address .virtual)
    (physical : Address .physical) (flags : UInt32) :
    Leads (mapForced address physical flags) machine (machine.Forces address physical flags) := by
  unfold mapForced
  refine leads_checkedPair (fun _ => .invalid) (fun _ => .guarded) ?_
  intro hPair hPage
  have hAdmits : Machine.Admits address physical := ⟨hPair, hPage⟩
  refine (leads_install_of_stocked hStocked
    (Layout.directorySlot_ne_of_not_reserved hPage) _ flags true).bind ?_
  intro result after hInstalls
  cases result with
  | error cause => exact .pure (.failed hAdmits hInstalls)
  | ok displaced =>
      cases displaced with
      | none => exact .pure (.kept hAdmits hInstalls (by simp))
      | some other =>
          by_cases hOther : other = Page.containing physical
          -- The page stored the same frame before, which is not given back then.
          · simp only [hOther, bne_self_eq_false, onlyIf, Bool.false_eq_true, if_false]
            refine Leads.pure (.kept hAdmits hInstalls ?_)
            intro same hSame
            rw [← Option.some.inj hSame, hOther]
          · simp only [bne_iff_ne.mpr hOther, onlyIf, if_true]
            have hSound := hInstalls.sound hStocked.sound
            unfold giveDisplaced
            rw [bind_assoc]
            refine (leads_record after _).bind ?_
            rintro value reported rfl
            refine (leads_giveFrame_of_sound (by exact hSound) other).bind ?_
            intro value last hReleased
            exact .pure (.displaced hAdmits hInstalls hOther (after.unchanged_note _) hReleased)

theorem leads_setMapping (hStocked : machine.Stocked) (address : Address .virtual)
    (physical : Address .physical) (flags : UInt32) :
    Leads (setMapping address physical flags) machine
      (machine.Sets (Page.containing address) (Page.containing physical) flags) := by
  unfold setMapping
  refine leads_checkedPair (fun _ _ => .refused (.refl machine))
    (fun _ _ _ hUnchanged => .refused hUnchanged) ?_
  intro hPair hPage
  have hSlot := Layout.directorySlot_ne_of_not_reserved hPage
  refine (leads_install_of_stocked hStocked hSlot _ flags false).bind ?_
  intro result after hInstalls
  have hAfter := hInstalls.traversable hStocked.toTraversable hSlot
  cases result with
  | ok displaced => exact .pure (.placed hPage hInstalls)
  | error cause =>
      cases cause with
      | outOfMemory => exact .pure (.failed hPage hInstalls)
      | tableUnreachable slot => exact .pure (.failed hPage hInstalls)
      | occupied =>
          -- An occupied page is fine if it stores the wanted frame already.
          refine (leads_entry hAfter (Page.containing address)).bind ?_
          rintro existing same ⟨rfl, rfl⟩
          simp only [bind_storedFrame?]
          split
          · rename_i hStored
            exact .pure (.present hPage hInstalls hStored)
          · exact .pure (.failed hPage hInstalls)

theorem leads_releasePage (hTraversable : machine.Traversable) (hSound : machine.source.Sound)
    {page : VirtualPage} (hPage : page.directorySlot ≠ Layout.selfMapSlot) :
    Leads (releasePage page) machine fun _ => machine.Empties page := by
  unfold releasePage
  refine (leads_remove hTraversable hPage).bind ?_
  rintro previous after ⟨rfl, rfl⟩
  simp only [bind_storedFrame?]
  have hSource := (Machine.rewrites_vacate hTraversable.toSeparated hPage).source_eq
  cases hStored : (machine.entryAt page).storedFrame? with
  | none => exact .pure (.unused hStored)
  | some frame =>
      have hVacated : (machine.vacate page).source.Sound := hSource ▸ hSound
      exact (leads_giveFrame_of_sound hVacated frame).mono fun _ _ hReleased =>
        .returned hStored hReleased

/-- A page that can be unmapped is cleared and its frame given back; otherwise the request is
refused. -/
theorem leads_unmapPage (hStocked : machine.Stocked) (address : Address .virtual) :
    Leads (unmapPage address) machine fun reply after =>
      match reply with
      | .error error => Machine.Irremovable address error ∧ Machine.Unchanged machine after
      | .ok () => Machine.Removable address ∧
          machine.Empties (Page.containing address) after := by
  unfold unmapPage
  refine leads_checkedPage (fun _ _ hIrremovable hUnchanged => ⟨hIrremovable, hUnchanged⟩) ?_
  intro hRemovable
  refine (leads_releasePage hStocked.toTraversable hStocked.sound
    (Layout.directorySlot_ne_of_not_reserved hRemovable.not_reserved)).bind ?_
  intro value last hEmpties
  exact .pure ⟨hRemovable, hEmpties⟩

theorem leads_unmapDevice (hStocked : machine.Stocked) (address : Address .virtual) :
    Leads (unmapDevice address) machine fun reply after =>
      match reply with
      | .error error => Machine.Irremovable address error ∧ Machine.Unchanged machine after
      | .ok () => Machine.Removable address ∧
          after = machine.vacate (Page.containing address) := by
  unfold unmapDevice
  refine leads_checkedPage (fun _ _ hIrremovable hUnchanged => ⟨hIrremovable, hUnchanged⟩) ?_
  intro hRemovable
  refine (leads_remove hStocked.toTraversable
    (Layout.directorySlot_ne_of_not_reserved hRemovable.not_reserved)).bind ?_
  rintro previous last ⟨rfl, -⟩
  exact .pure ⟨hRemovable, rfl⟩

/-- A look-up answers with what the entry of the page says. -/
theorem leads_lookup_mapping (hStocked : machine.Stocked) (address : Address .virtual) :
    Leads (lookup address) machine fun mapping after =>
      after = machine ∧ mapping = Mapping.ofEntry (machine.entryAt (Page.containing address)) := by
  unfold lookup
  refine (leads_entry hStocked.toTraversable _).bind ?_
  rintro entry after ⟨rfl, rfl⟩
  cases hLink : after.link? (Page.containing address : VirtualPage).directorySlot with
  | none =>
      -- Without a table the entry counts as zero, of which a look-up says nothing either.
      refine Leads.pure ⟨rfl, ?_⟩
      rw [Machine.entryAt_of_unlinked hLink, Mapping.ofEntry, if_pos Entry.isFree_zero]
  | some table => exact .pure ⟨rfl, rfl⟩

theorem leads_lookup (hStocked : machine.Stocked) (address : Address .virtual) :
    Leads (lookup address) machine fun _ after => after = machine :=
  (leads_lookup_mapping hStocked address).mono fun _ _ hFound => hFound.1

/-- The physical address is that in the frame of the page's entry, if this is present. -/
theorem leads_physicalAddress?_frame (hStocked : machine.Stocked) (address : Address .virtual) :
    Leads (physicalAddress? address) machine fun found after =>
      after = machine ∧ found = (machine.entryAt (Page.containing address)).presentFrame?.map
        fun frame => frame.join (Offset.ofAddress address) := by
  unfold physicalAddress?
  refine (leads_entry hStocked.toTraversable _).bind ?_
  rintro entry after ⟨rfl, rfl⟩
  cases hLink : after.link? (Page.containing address : VirtualPage).directorySlot with
  | none => exact .pure ⟨rfl, by rw [Machine.entryAt_of_unlinked hLink]; rfl⟩
  | some table => exact .pure ⟨rfl, rfl⟩

theorem leads_physicalAddress? (hStocked : machine.Stocked) (address : Address .virtual) :
    Leads (physicalAddress? address) machine fun _ after => after = machine :=
  (leads_physicalAddress?_frame hStocked address).mono fun _ _ hFound => hFound.1

/-! ## Requests that take a frame -/

theorem leads_allocatePage_first (hStocked : machine.Stocked) (address : Address .virtual)
    (flags : UInt32) :
    Leads (allocatePage address flags) machine (machine.AllocatesFirst address flags) := by
  unfold allocatePage
  refine (leads_takeFrame_of_sound hStocked.sound).bind ?_
  intro found after hTaken
  have hAfter := hTaken.stocked hStocked
  cases found with
  | none => exact .pure (.starved hTaken)
  | some frame =>
      refine (leads_mapPage_first hAfter address frame.base flags).bind ?_
      intro reply middle hMaps
      cases reply with
      | ok page => exact .pure (.mapped hTaken hMaps)
      | error error =>
          refine (leads_giveFrame_of_sound (hMaps.maps.sound hAfter.sound) frame).bind ?_
          intro value last hReleased
          exact .pure (.failed hTaken hMaps hReleased)

theorem leads_allocatePage (hStocked : machine.Stocked) (address : Address .virtual)
    (flags : UInt32) : Leads (allocatePage address flags) machine (machine.Allocates flags) :=
  (leads_allocatePage_first hStocked address flags).mono fun _ _ hAllocates =>
    hAllocates.allocates

theorem leads_backPage (hStocked : machine.Stocked) (page : VirtualPage) (flags : UInt32) :
    Leads (backPage page flags) machine (machine.Backs page flags) := by
  unfold backPage
  refine (leads_refuseReserved machine .allocatePages page.base).bind ?_
  intro checked same hChecked
  rw [Page.containing_base] at hChecked
  cases checked with
  | error error =>
      obtain ⟨hUnchanged, rfl, hPage⟩ := hChecked
      exact .pure (.refused hUnchanged hPage)
  | ok value =>
      obtain ⟨rfl, hPage⟩ := hChecked
      refine (leads_takeFrame_of_sound hStocked.sound).bind ?_
      intro found after hTaken
      have hAfter := hTaken.stocked hStocked
      cases found with
      | none => exact .pure (.starved hTaken)
      | some frame =>
          refine (leads_install_of_stocked hAfter
            (Layout.directorySlot_ne_of_not_reserved hPage) frame flags false).bind ?_
          intro result middle hInstalls
          cases result with
          | ok displaced => exact .pure (.placed hPage hTaken hInstalls)
          | error cause =>
              refine (leads_giveFrame_of_sound (hInstalls.sound hAfter.sound) frame).bind ?_
              intro value last hReleased
              exact .pure (.failed hPage hTaken hInstalls hReleased)

end Action

end TwoLevelPaging
