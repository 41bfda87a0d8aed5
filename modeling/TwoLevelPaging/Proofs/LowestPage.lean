import TwoLevelPaging.Proofs.AddressSpace.Placement
import TwoLevelPaging.Proofs.Remapping

/-!
# Mapping to the lowest free page

A request to map from an address on finds the least page that is available there, and maps
exactly that one.  It is granted if and only if both addresses are page bases other than null,
the page of the first one is not reserved, a page is found, and there is a table for it
(`Machine.Mappable`).  What it leaves is one entry and at most one new table, and look-ups
of the page show the mapping (`Machine.Shows`); a refused request leaves everything as it was.
-/

namespace TwoLevelPaging

namespace Action

variable {address : Address .virtual} {physical : Address .physical}

/-- The addresses of a request to map: both are page bases, and neither is null. -/
structure AreBases (address : Address .virtual) (physical : Address .physical) : Prop where
  address_set : address.isNull = false
  physical_set : physical.isNull = false
  address_aligned : address.isAligned .small = true
  physical_aligned : physical.isAligned .small = true

theorem areBases_iff : alignedPair address physical true =
    .ok (Page.containing address, Page.containing physical) ↔ AreBases address physical := by
  rw [alignedPair_eq_ok_iff]
  constructor
  · rintro ⟨hSet, hAddress, hPhysical, -⟩
    exact ⟨(hSet rfl).1, (hSet rfl).2, hAddress, hPhysical⟩
  · intro hBases
    exact ⟨fun _ => ⟨hBases.address_set, hBases.physical_set⟩, hBases.address_aligned,
      hBases.physical_aligned, rfl, rfl⟩

end Action

namespace Machine

variable {size : Nat} {machine after : Machine (FrameBitmap size)} {page : VirtualPage}
  {address : Address .virtual} {physical : Address .physical} {flags : UInt32}
  {reply : Except MapError VirtualPage}

/-- The request to map from this address on can be granted, and its page is this one: the
least available page, for which there is a table. -/
structure Mappable (machine : Machine (FrameBitmap size)) (address : Address .virtual)
    (physical : Address .physical) (page : VirtualPage) : Prop where
  bases : Action.AreBases address physical
  not_reserved : Layout.isReserved (Page.containing address) = false
  first : machine.FirstAvailable (Page.containing address : VirtualPage).number (some page)
  table : machine.CanTable page.directorySlot

/-- Why the request to map from this address on cannot be granted. -/
inductive Unmappable (machine : Machine (FrameBitmap size)) (address : Address .virtual)
    (physical : Address .physical) : MapError → Prop
  | invalid (hBases : ¬ Action.AreBases address physical) :
      Unmappable machine address physical .invalidAddress
  | guarded (hBases : Action.AreBases address physical)
      (hReserved : Layout.isReserved (Page.containing address) = true) :
      Unmappable machine address physical .protectedRegion
  | exhausted (hBases : Action.AreBases address physical)
      (hPage : Layout.isReserved (Page.containing address) = false)
      (hFirst : machine.FirstAvailable (Page.containing address : VirtualPage).number none) :
      Unmappable machine address physical .exhausted
  | starved {page : VirtualPage} (hBases : Action.AreBases address physical)
      (hPage : Layout.isReserved (Page.containing address) = false)
      (hFirst : machine.FirstAvailable (Page.containing address : VirtualPage).number (some page))
      (hTable : ¬ machine.CanTable page.directorySlot) :
      Unmappable machine address physical .outOfMemory

/-- A request that cannot be granted is not one that can. -/
theorem Unmappable.not_mappable {error : MapError}
    (hUnmappable : machine.Unmappable address physical error) (page : VirtualPage) :
    ¬ machine.Mappable address physical page := by
  intro hMappable
  cases hUnmappable with
  | invalid hBases => exact hBases hMappable.bases
  | guarded hBases hReserved =>
      rw [hMappable.not_reserved] at hReserved
      cases hReserved
  | exhausted hBases hPage hFirst => cases hFirst.unique hMappable.first
  | starved hBases hPage hFirst hTable =>
      obtain rfl := Option.some.inj (hFirst.unique hMappable.first)
      exact hTable hMappable.table

/-- What look-ups say about the addresses of a page that maps a physical address with the
flags of a word: of the word they show the flags, but for the large page. -/
structure Shows (machine : Machine (FrameBitmap size)) (page : VirtualPage)
    (physical : Address .physical) (flags : UInt32) : Prop where
  lookup : ∀ address, Page.containing address = page → ∃ mapping,
    (Action.lookup address).run machine = .done mapping machine ∧
      mapping.frame = Page.containing physical ∧ mapping.physical = physical ∧
      mapping.flags.word = flags &&& Flags.leafMask
  located : ∀ address, Page.containing address = page →
    (Action.physicalAddress? address).run machine =
      .done (if (Flags.ofWord flags).present then
        some (Address.ofNat (physical.toNat + address.toNat % Layout.pageBytes)) else none) machine

/-- The entry says it all: look-ups show a page that maps a frame other than frame zero. -/
theorem shows_of_leaf (hWellFormed : machine.WellFormed) (hOpen : machine.view.Unrestricted)
    (hSet : physical.isNull = false) (hAligned : physical.isAligned .small = true)
    (hEntry : machine.entryAt page = Entry.leaf (Page.containing physical) flags) :
    machine.Shows page physical flags := by
  have hSeen := hWellFormed.walkable.seenThrough hOpen
  have hUsed : (Entry.leaf (Page.containing physical) flags).isFree = false :=
    Entry.isFree_eq_false_of_frame_ne_zero (Page.number_containing_ne_zero hSet hAligned)
  have hBase := Page.base_containing hAligned
  constructor
  · rintro address rfl
    obtain ⟨mapping, same, hRun, rfl, hMapping⟩ :=
      (Action.leads_lookup_mapping hWellFormed.stocked address).run_stays hSeen
        fun _ _ hPost => by rw [hPost.1]
    rw [hEntry, Mapping.ofEntry, hUsed, if_neg Bool.false_ne_true] at hMapping
    rw [hMapping] at hRun
    exact ⟨_, hRun, rfl, hBase, Entry.word_leaf (Page.containing physical) flags⟩
  · rintro address rfl
    obtain ⟨found, same, hRun, rfl, hFound⟩ :=
      (Action.leads_physicalAddress?_frame hWellFormed.stocked address).run_stays hSeen
        fun _ _ hPost => by rw [hPost.1]
    rw [hRun, hFound, hEntry]
    have hPlace : (Page.containing physical : Frame).join (Offset.ofAddress address) =
        Address.ofNat (physical.toNat + address.toNat % Layout.pageBytes) := by
      rw [← congrArg Address.toNat hBase, Page.toNat_base]
      rfl
    cases hPresent : (Flags.ofWord flags).present <;>
      simp [Entry.leaf, Entry.presentFrame?, hPresent, hPlace]

namespace MapsFirst

/-- A refused request has met one of the four obstacles, and changes nothing. -/
theorem refused (hSound : machine.source.Sound) {error : MapError}
    (hMaps : machine.MapsFirst address physical flags (.error error) after) :
    machine.Unmappable address physical error ∧ Unchanged machine after := by
  cases hMaps with
  | invalid hPair =>
      obtain rfl := Action.eq_invalidAddress_of_alignedPair hPair
      refine ⟨.invalid ?_, .refl machine⟩
      intro hBases
      rw [Action.areBases_iff.mpr hBases] at hPair
      cases hPair
  | guarded hPair hReserved hUnchanged =>
      exact ⟨.guarded (Action.areBases_iff.mp hPair) hReserved, hUnchanged⟩
  | exhausted hAdmits hFirst =>
      exact ⟨.exhausted (Action.areBases_iff.mp hAdmits.pair) hAdmits.not_reserved hFirst,
        .refl machine⟩
  | failed hAdmits hFirst hInstalls =>
      -- The entry is free, so it is a table that could not be had.
      rcases hInstalls.error_cases hSound with ⟨rfl, hUnchanged, hTable⟩ | ⟨-, hUsed, -⟩
      · exact ⟨.starved (Action.areBases_iff.mp hAdmits.pair) hAdmits.not_reserved hFirst
          hTable, hUnchanged⟩
      · rw [hFirst.2.1.1] at hUsed
        cases hUsed

/-- A request that is granted has found the page that can be mapped, and maps it. -/
theorem granted (hWellFormed : machine.WellFormed)
    (hMaps : machine.MapsFirst address physical flags (.ok page) after) :
    machine.Mappable address physical page ∧
      Placed machine after page (Entry.leaf (Page.containing physical) flags) ∧
      after.WellFormed := by
  cases hMaps with
  | mapped hAdmits hFirst hInstalls hReported =>
      have hSlot := hFirst.2.1.directorySlot_ne
      exact ⟨⟨Action.areBases_iff.mp hAdmits.pair, hAdmits.not_reserved, hFirst,
          hInstalls.canTable hWellFormed.stocked⟩,
        (hInstalls.placed_of_ok hWellFormed hSlot).unchanged hReported,
        hReported.wellFormed (hInstalls.wellFormed hWellFormed hSlot)⟩

/-- The page of a request that is granted is the one that can be mapped. -/
theorem eq_ok_iff (hWellFormed : machine.WellFormed)
    (hMaps : machine.MapsFirst address physical flags reply after) (page : VirtualPage) :
    reply = .ok page ↔ machine.Mappable address physical page := by
  cases reply with
  | ok found =>
      have hFound := (hMaps.granted hWellFormed).1
      constructor
      · intro hReply
        rwa [← Except.ok.inj hReply]
      · intro hMappable
        rw [Option.some.inj (hFound.first.unique hMappable.first)]
  | error error =>
      refine iff_of_false (fun hReply => by cases hReply) ?_
      exact (hMaps.refused hWellFormed.sound).1.not_mappable page

end MapsFirst

end Machine

namespace Action

variable {size : Nat} {machine : Machine (FrameBitmap size)}

/-- A request to map from an address on is granted exactly if it can be, with the least
available page.  This page shows the mapping then, every other page keeps its entry, and the
bitmap loses the frame of a new table at most; a refused request changes nothing. -/
theorem mapPage_maps_lowest (hWellFormed : machine.WellFormed)
    (hOpen : machine.view.Unrestricted) (address : Address .virtual)
    (physical : Address .physical) (flags : UInt32) :
    ∃ reply after, (mapPage address physical flags).run machine = .done reply after ∧
      (∀ page, reply = .ok page ↔ machine.Mappable address physical page) ∧
      (∀ page, reply = .ok page →
        machine.Placed after page (Entry.leaf (Page.containing physical) flags) ∧
          after.Shows page physical flags) ∧
      ∀ error, reply = .error error →
        machine.Unmappable address physical error ∧ machine.Unchanged after := by
  have hView : ∀ reply after, machine.MapsFirst address physical flags reply after →
      after.view = machine.view := by
    intro reply after hMaps
    cases reply with
    | ok page => exact (hMaps.granted hWellFormed).2.1.stays.view
    | error error => exact (hMaps.refused hWellFormed.sound).2.view
  obtain ⟨reply, after, hRun, hMaps⟩ :=
    (leads_mapPage_first hWellFormed.stocked address physical flags).run_stays
      (hWellFormed.walkable.seenThrough hOpen) hView
  refine ⟨reply, after, hRun, hMaps.eq_ok_iff hWellFormed, ?_, ?_⟩
  · rintro page rfl
    obtain ⟨hMappable, hPlaced, hAfter⟩ := hMaps.granted hWellFormed
    have hStillOpen : after.view.Unrestricted := by
      rw [hPlaced.stays.view]
      exact hOpen
    exact ⟨hPlaced, Machine.shows_of_leaf hAfter hStillOpen hMappable.bases.physical_set
      hMappable.bases.physical_aligned hPlaced.entry⟩
  · rintro error rfl
    exact hMaps.refused hWellFormed.sound

/-- On the machine with a stray page, the page behind it is mapped, whatever stands in the bits
of the word that are no flags. -/
theorem mapPage_tinyWithStray_lowest :
    ∃ after, (mapPage Machine.strayPage.base (Address.ofNat 0x3000) 0xFFFFFF83).run
        Machine.tinyWithStray = .done (.ok (Page.ofNumber 0xFF801)) after ∧
      after.Shows (Page.ofNumber 0xFF801) (Address.ofNat 0x3000) 0xFFFFFF83 := by
  obtain ⟨hStart, hUsed, -, -⟩ := used_strayPage
  have hFirst : Machine.tinyWithStray.FirstAvailable Machine.strayPage.number
      (some (Page.ofNumber 0xFF801)) := by
    have hStray : Machine.strayPage.number = 0xFF800 := by decide +kernel
    refine ⟨by decide +kernel, by unfold Machine.Available; decide +kernel, ?_⟩
    intro page hReached hBefore hAvailable
    -- Only the stray page lies in between, and it is in use.
    have hSame : page = Machine.strayPage := by
      apply Page.ext
      simp only [Page.number_ofNumber, PageSize.count] at hBefore
      omega
    rw [hSame, Machine.Available, hUsed] at hAvailable
    exact Bool.false_ne_true hAvailable.1
  have hMappable : Machine.tinyWithStray.Mappable Machine.strayPage.base (Address.ofNat 0x3000)
      (Page.ofNumber 0xFF801) := by
    refine ⟨⟨?_, ?_, ?_, ?_⟩, ?_, ?_, .inr ⟨3, ?_⟩⟩
    · decide +kernel
    · decide +kernel
    · decide +kernel
    · decide +kernel
    · rw [Page.containing_base]
      exact hStart
    · rw [Page.containing_base]
      exact hFirst
    · decide +kernel
  obtain ⟨reply, after, hRun, hGranted, hShown, -⟩ :=
    mapPage_maps_lowest Machine.wellFormed_tinyWithStray unrestricted_tinyWithStray
      Machine.strayPage.base (Address.ofNat 0x3000) 0xFFFFFF83
  obtain rfl := (hGranted _).mpr hMappable
  exact ⟨after, hRun, (hShown _ rfl).2⟩

end Action
end TwoLevelPaging
