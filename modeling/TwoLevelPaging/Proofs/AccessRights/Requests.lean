import TwoLevelPaging.Proofs.AccessRights.Transparent
import TwoLevelPaging.Proofs.AddressSpace.Pristine
import TwoLevelPaging.Proofs.Invalidation

/-!
# Requests keep the directory transparent

An `Orderly` machine is transparent and its tables can be edited.  That is less than a request
starts from, because a frame that is given back may still be linked somewhere; but every
outcome of a request is orderly, and the roll-back of a run of pages needs no more.  So a run
of pages is followed in two parts: while pages are backed the machine is stocked, and from the
first page that cannot be backed on it is orderly.

`Command.perform_keeps_rights` puts this together with what `Transparent` means for the rights
of a page.
-/

namespace TwoLevelPaging

namespace Machine

/-! ## Requests -/

section Requests

variable {size : Nat} {machine before after : Machine (FrameBitmap size)} {frame : Frame}
  {page : VirtualPage} {flags : UInt32}

/-- A machine that can be edited and is transparent, over a bitmap in order. -/
structure Orderly (machine : Machine (FrameBitmap size)) : Prop
    extends machine.Traversable, machine.Transparent where
  sound : machine.source.Sound

theorem Stocked.orderly (hStocked : machine.Stocked) (hTransparent : machine.Transparent) :
    machine.Orderly :=
  ⟨hStocked.toTraversable, hTransparent, hStocked.sound⟩

theorem Orderly.draw (hOrderly : machine.Orderly) {pool : FrameBitmap size}
    (hSound : pool.Sound) (events : List Event) : (machine.draw pool events).Orderly :=
  ⟨hOrderly.toTraversable.congr (machine.stays_draw pool events) fun _ => rfl,
    hOrderly.toTransparent.congr (fun _ _ => rfl) fun _ _ => rfl, hSound⟩

theorem Unchanged.orderly (hUnchanged : Unchanged before after) (hOrderly : before.Orderly) :
    after.Orderly := by
  obtain ⟨events, rfl⟩ := hUnchanged.exists_eq_draw
  exact hOrderly.draw hOrderly.sound events

theorem Taken.orderly {found : Option Frame} (hTaken : before.Taken found after)
    (hOrderly : before.Orderly) : after.Orderly := by
  have hSound := hTaken.sound hOrderly.sound
  obtain ⟨pool, events, -, rfl⟩ := hTaken
  exact hOrderly.draw hSound events

theorem Released.orderly (hReleased : before.Released frame after) (hOrderly : before.Orderly) :
    after.Orderly := by
  have hSound := hReleased.sound hOrderly.sound
  obtain ⟨pool, events, -, rfl⟩ := hReleased
  exact hOrderly.draw hSound events

theorem Installs.orderly {forced : Bool} {result : Except LinkError (Option Frame)}
    (hInstalls : before.Installs page frame flags forced result after) (hOrderly : before.Orderly)
    (hPage : Layout.isReserved page = false) : after.Orderly := by
  have hSlot := Layout.directorySlot_ne_of_not_reserved hPage
  exact ⟨hInstalls.traversable hOrderly.toTraversable hSlot,
    hInstalls.transparent hOrderly.toTransparent hOrderly.toTraversable hSlot,
    hInstalls.sound hOrderly.sound⟩

theorem Orderly.vacate (hOrderly : machine.Orderly) (hPage : Layout.isReserved page = false) :
    (machine.vacate page).Orderly := by
  have hRewrites := rewrites_vacate hOrderly.toSeparated
    (Layout.directorySlot_ne_of_not_reserved hPage)
  refine ⟨hRewrites.traversable hOrderly.toTraversable,
    hRewrites.transparent hOrderly.toTransparent ?_, hRewrites.source_eq ▸ hOrderly.sound⟩
  intro hUser
  cases hUser

theorem Aside.orderly (hAside : Aside before after) (hOrderly : before.Orderly) :
    after.Orderly :=
  ⟨hOrderly.toTraversable.congr hAside.stays hAside.link?,
    hOrderly.toTransparent.congr (fun slot _ => hAside.links slot)
      fun page _ => hAside.entries page,
    hAside.source_eq ▸ hOrderly.sound⟩

theorem Maps.orderly {reply : Except MapError VirtualPage}
    (hMaps : before.Maps frame flags reply after) (hOrderly : before.Orderly) :
    after.Orderly := by
  cases hMaps with
  | refused hUnchanged => exact hUnchanged.orderly hOrderly
  | failed hAvailable hInstalls => exact hInstalls.orderly hOrderly hAvailable.2
  | mapped hAvailable hInstalls hReported =>
      exact hReported.orderly (hInstalls.orderly hOrderly hAvailable.2)

theorem Forces.orderly {address : Address .virtual} {physical : Address .physical}
    {reply : Except MapError VirtualPage}
    (hForces : before.Forces address physical flags reply after) (hOrderly : before.Orderly) :
    after.Orderly := by
  cases hForces with
  | invalid hPair => exact hOrderly
  | guarded hPair hReserved hUnchanged => exact hUnchanged.orderly hOrderly
  | failed hAdmits hInstalls => exact hInstalls.orderly hOrderly hAdmits.not_reserved
  | kept hAdmits hInstalls hKept => exact hInstalls.orderly hOrderly hAdmits.not_reserved
  | displaced hAdmits hInstalls hOther hReported hReleased =>
      have hInstalled := hInstalls.orderly hOrderly hAdmits.not_reserved
      exact hReleased.orderly (hReported.orderly hInstalled)

theorem Sets.orderly {reply : Except MapError Unit}
    (hSets : before.Sets page frame flags reply after) (hOrderly : before.Orderly) :
    after.Orderly := by
  cases hSets with
  | refused hUnchanged => exact hUnchanged.orderly hOrderly
  | failed hPage hInstalls => exact hInstalls.orderly hOrderly hPage
  | present hPage hInstalls hStored => exact hInstalls.orderly hOrderly hPage
  | placed hPage hInstalls => exact hInstalls.orderly hOrderly hPage

theorem Empties.orderly (hEmpties : before.Empties page after) (hOrderly : before.Orderly)
    (hPage : Layout.isReserved page = false) : after.Orderly := by
  cases hEmpties with
  | unused hStored => exact hOrderly.vacate hPage
  | returned hStored hReleased => exact hReleased.orderly (hOrderly.vacate hPage)

theorem Allocates.orderly {reply : Except MapError VirtualPage}
    (hAllocates : before.Allocates flags reply after) (hOrderly : before.Orderly) :
    after.Orderly := by
  cases hAllocates with
  | starved hTaken => exact hTaken.orderly hOrderly
  | mapped hTaken hMaps => exact hMaps.orderly (hTaken.orderly hOrderly)
  | failed hTaken hMaps hReleased =>
      exact hReleased.orderly (hMaps.orderly (hTaken.orderly hOrderly))

theorem Backs.orderly {reply : Except MapError Unit}
    (hBacks : before.Backs page flags reply after) (hOrderly : before.Orderly) :
    after.Orderly := by
  cases hBacks with
  | refused hUnchanged => exact hUnchanged.orderly hOrderly
  | starved hTaken => exact hTaken.orderly hOrderly
  | placed hPage hTaken hInstalls => exact hInstalls.orderly (hTaken.orderly hOrderly) hPage
  | failed hPage hTaken hInstalls hReleased =>
      exact hReleased.orderly (hInstalls.orderly (hTaken.orderly hOrderly) hPage)

/-- A page that is backed is not reserved, and its frame comes from the free ones. -/
theorem Backs.stocked (hBacks : before.Backs page flags (.ok ()) after)
    (hStocked : before.Stocked) : Layout.isReserved page = false ∧ after.Stocked := by
  cases hBacks with
  | placed hPage hTaken hInstalls =>
      exact ⟨hPage, hInstalls.stocked (hTaken.stocked hStocked)
        (Layout.directorySlot_ne_of_not_reserved hPage)⟩

theorem Founds.orderly {reply : Except MapError Frame} (hFounds : before.Founds reply after)
    (hOrderly : before.Orderly) : after.Orderly := by
  cases hFounds with
  | starved hTaken => exact hTaken.orderly hOrderly
  | inPlace hTaken hFresh =>
      have hFound := (aside_found hFresh).orderly (hTaken.orderly hOrderly)
      exact (unchanged_note _ _).orderly hFound
  | borrowed hTaken hAccess hFresh hLink hFree =>
      have hDrawn := hTaken.orderly hOrderly
      have hAside := aside_giveUp hDrawn.toTraversable hFresh hLink hFree
      exact (unchanged_note _ _).orderly (hAside.orderly hDrawn)
  | unreachable hTaken hAccess hReleased =>
      exact hReleased.orderly (hTaken.orderly hOrderly)

end Requests

theorem transparent_tiny : tiny.Transparent :=
  transparent_of_unlinked fun _ hSlot => pristine_tiny.linkAt_of_ne hSlot

end Machine

namespace Action

variable {size : Nat} {first : VirtualPage} {flags : UInt32}

/-! ## Runs of pages -/

/-- While pages are backed the machine stays stocked; the page that cannot be backed may leave
it merely orderly.  The pages in front of it are not reserved. -/
theorem leads_backPages_of_stocked (count : Nat) :
    ∀ (position : Nat) (machine : Machine (FrameBitmap size)),
      first.number + position + count ≤ PageSize.small.count →
      machine.Stocked → machine.Transparent →
      (∀ page : VirtualPage, first.number ≤ page.number →
        page.number < first.number + position → Layout.isReserved page = false) →
      Leads (backPages first flags position count) machine fun reply after =>
        after.Orderly ∧ ∀ failed error, reply = .error (failed, error) →
          first.number + failed ≤ PageSize.small.count ∧
          ∀ page : VirtualPage, first.number ≤ page.number →
            page.number < first.number + failed → Layout.isReserved page = false := by
  -- Induction on the pages that are left; those in front of them are not reserved.
  induction count with
  | zero =>
      intro position machine hTop hStocked hTransparent hPages
      refine .pure ⟨hStocked.orderly hTransparent, ?_⟩
      intro failed error hReply
      cases hReply
  | succ count ih =>
      intro position machine hTop hStocked hTransparent hPages
      refine (leads_pageAt machine (by omega)).bind ?_
      rintro page same ⟨rfl, hNumber⟩
      refine (leads_backPage hStocked page flags).bind ?_
      intro reply after hBacks
      have hOrderly := hBacks.orderly (hStocked.orderly hTransparent)
      cases reply with
      | error error =>
          refine .pure ⟨hOrderly, ?_⟩
          rintro failed cause ⟨rfl, rfl⟩
          exact ⟨by omega, hPages⟩
      | ok value =>
          obtain ⟨hPage, hAfter⟩ := hBacks.stocked hStocked
          refine ih (position + 1) after (by omega) hAfter hOrderly.toTransparent ?_
          intro other hFirst hBelow
          by_cases hSame : other = page
          · rw [hSame]
            exact hPage
          · have hNumbers : other.number ≠ page.number := fun hEqual => hSame (Page.ext hEqual)
            exact hPages other hFirst (by omega)

/-- Releasing pages that are not reserved keeps a machine orderly. -/
theorem leads_releasePages_of_orderly {stop : Nat} (hTop : stop ≤ PageSize.small.count)
    (hPages : ∀ page : VirtualPage, first.number ≤ page.number → page.number < stop →
      Layout.isReserved page = false) (count : Nat) :
    ∀ (position : Nat) (machine : Machine (FrameBitmap size)),
      first.number + position + count = stop → machine.Orderly →
      Leads (releasePages first position count) machine fun _ after => after.Orderly := by
  induction count with
  | zero =>
      intro position machine hStop hOrderly
      exact .pure hOrderly
  | succ count ih =>
      intro position machine hStop hOrderly
      refine (leads_pageAt machine (by omega)).bind ?_
      rintro page same ⟨rfl, hNumber⟩
      have hPage := hPages page (by omega) (by omega)
      refine (leads_releasePage hOrderly.toTraversable hOrderly.sound
        (Layout.directorySlot_ne_of_not_reserved hPage)).bind ?_
      intro value after hEmpties
      exact ih (position + 1) after (by omega) (hEmpties.orderly hOrderly hPage)

theorem leads_allocatePages_of_stocked {machine : Machine (FrameBitmap size)}
    (hStocked : machine.Stocked) (hTransparent : machine.Transparent)
    (address : Address .virtual) (bytes : UInt32) (flags : UInt32) :
    Leads (allocatePages address bytes flags) machine fun _ after => after.Orderly := by
  refine leads_allocatePages_of_loops (fun _ => hStocked.orderly hTransparent)
    (fun _ hTop => leads_backPages_of_stocked _ 0 machine hTop hStocked hTransparent
      (by intro page hFirst hBelow; omega)) (fun after _ hBacked => hBacked.1) ?_
  rintro failed error after reported - ⟨hOrderly, hFailed⟩ hReported
  obtain ⟨hTop, hPages⟩ := hFailed failed error rfl
  exact leads_releasePages_of_orderly hTop hPages failed 0 reported rfl
    (hReported.orderly hOrderly)

end Action

namespace Command

variable {size : Nat} {machine : Machine (FrameBitmap size)}

/-! ## All requests -/

theorem leads_orderly (hStocked : machine.Stocked) (hTransparent : machine.Transparent)
    {command : Command} (hCommand : command ≠ .newDirectory) :
    command.perform.Leads machine fun _ after => after.Orderly := by
  have hOrderly := hStocked.orderly hTransparent
  cases command with
  | mapPage address physical flags =>
      exact .map ((Action.leads_mapPage hStocked address physical flags).mono
        fun _ _ hMaps => hMaps.orderly hOrderly)
  | mapForced address physical flags =>
      exact .map ((Action.leads_mapForced hStocked address physical flags).mono
        fun _ _ hForces => hForces.orderly hOrderly)
  | setMapping address physical flags =>
      exact .map ((Action.leads_setMapping hStocked address physical flags).mono
        fun _ _ hSets => hSets.orderly hOrderly)
  | unmapPage address =>
      refine .map ((Action.leads_unmapPage hStocked address).mono ?_)
      intro reply after hReply
      cases reply with
      | error error => exact hReply.2.orderly hOrderly
      | ok value => exact hReply.2.orderly hOrderly hReply.1.not_reserved
  | unmapDevice address =>
      refine .map ((Action.leads_unmapDevice hStocked address).mono ?_)
      intro reply after hReply
      cases reply with
      | error error => exact hReply.2.orderly hOrderly
      | ok value =>
          obtain ⟨hRemovable, rfl⟩ := hReply
          exact hOrderly.vacate hRemovable.not_reserved
  | allocatePage address flags =>
      exact .map ((Action.leads_allocatePage hStocked address flags).mono
        fun _ _ hAllocates => hAllocates.orderly hOrderly)
  | allocatePages address bytes flags =>
      exact .map (Action.leads_allocatePages_of_stocked hStocked hTransparent address bytes flags)
  | lookup address =>
      refine .map ((Action.leads_lookup hStocked address).mono ?_)
      rintro mapping after rfl
      exact hOrderly
  | physicalAddress address =>
      refine .map ((Action.leads_physicalAddress? hStocked address).mono ?_)
      rintro physical after rfl
      exact hOrderly
  | newDirectory => exact absurd rfl hCommand

theorem exists_run_transparent (hStocked : machine.Stocked) (hTransparent : machine.Transparent)
    (hSeen : machine.SeenThrough machine.view) (command : Command) :
    ∃ reply after, command.perform.run machine = .done reply after ∧ after.Transparent := by
  by_cases hCommand : command = .newDirectory
  · subst hCommand
    obtain ⟨result, after, hRun, hFounds⟩ := Action.exists_run_newDirectory hStocked hSeen
    have hOrderly := hFounds.orderly (hStocked.orderly hTransparent)
    exact ⟨.created result, after, by simp [perform, hRun], hOrderly.toTransparent⟩
  · obtain ⟨reply, after, hRun, hOrderly⟩ :=
      (leads_orderly hStocked hTransparent hCommand).run hSeen
    exact ⟨reply, _, hRun, hOrderly.toTransparent.congr (fun _ _ => rfl) fun _ _ => rfl⟩

/-- A request for a directory that is granted leaves a transparent one. -/
theorem transparent_of_newDirectory (hStocked : machine.Stocked)
    (hSeen : machine.SeenThrough machine.view) {frame : Frame}
    {after : Machine (FrameBitmap size)}
    (hRun : newDirectory.perform.run machine = .done (.created (.ok frame)) after) :
    Machine.Transparent { after with root := frame } := by
  obtain ⟨result, last, hSame, hFounds⟩ := Action.exists_run_newDirectory hStocked hSeen
  have hPerform : newDirectory.perform.run machine = .done (.created result) last := by
    simp [perform, hSame]
  rw [hPerform] at hRun
  cases hRun
  exact Machine.transparent_of_content (hFounds.content hStocked.toTraversable)

/-- The rights that the processor grants on a page below the self-map are those of its own
entry, as long as the machine is transparent.  New directories and the boot tables are, and
every request keeps a machine transparent, whether or not it succeeds. -/
theorem perform_keeps_rights {size : Nat} :
    (∀ {machine : Machine (FrameBitmap size)}, machine.Stocked →
      machine.SeenThrough machine.view →
      (∀ {frame after}, newDirectory.perform.run machine = .done (.created (.ok frame)) after →
        Machine.Transparent { after with root := frame }) ∧
      (machine.Transparent → ∀ command : Command, ∃ reply after,
        command.perform.run machine = .done reply after ∧ after.Transparent)) ∧
    (∀ {block built : BootBlock} {address : Address .physical} {image : KernelImage}
      {directory : Frame} {machine : Machine (FrameBitmap size)},
      block.build address image = .ok (.ok directory, built) →
      built.PlacedAt machine.memory address → machine.root = directory → machine.Transparent) ∧
    (∀ {machine : Machine (FrameBitmap size)}, machine.Transparent →
      ∀ address : Address .virtual,
        (Page.containing address : VirtualPage).directorySlot ≠ Layout.selfMapSlot →
        machine.memory.translate? machine.root address =
          (machine.memory.leaf? machine.root (Page.containing address)).map fun leaf =>
            ⟨leaf.frame.join (Offset.ofAddress address), leaf.writable, leaf.user⟩) := by
  refine ⟨?_, ?_, ?_⟩
  · intro machine hStocked hSeen
    constructor
    · intro frame after hRun
      exact transparent_of_newDirectory hStocked hSeen hRun
    · intro hTransparent command
      exact exists_run_transparent hStocked hTransparent hSeen command
  · intro block built address image directory machine hBuild hPlaced hRoot
    obtain ⟨-, hAccepts, rfl, hBuilt⟩ := BootBlock.built_of_build_eq hBuild
    have hBoots : machine.Boots address built := ⟨hPlaced, hRoot⟩
    exact hBoots.transparent hAccepts hBuilt
  · intro machine hTransparent address hPage
    exact hTransparent.translate?_eq hPage

/-- A page that the tiny machine maps for unprivileged code can be used by it, and its new
directory and the boot tables of the sample image are transparent. -/
theorem setMapping_tiny_grants_user :
    (∃ reply after,
      (setMapping (Address.ofNat 0x1000) (Address.ofNat 0x7000)
          Flags.userReadWrite.word).perform.run Machine.tiny = .done reply after ∧
        after.memory.translate? after.root (Address.ofNat 0x1234) =
          some ⟨Address.ofNat 0x7234, true, true⟩) ∧
    (∃ frame after,
      newDirectory.perform.run Machine.tiny = .done (.created (.ok frame)) after ∧
        Machine.Transparent { after with root := frame }) ∧
    ∃ built : BootBlock, BootBlock.zero.build (Address.ofNat 0x1000) BootBlock.sampleImage =
        .ok (.ok (Page.containing (Address.ofNat 0x1000)), built) ∧
      Machine.Transparent { Machine.tiny with
        memory := built.inMemory, root := Page.containing (Address.ofNat 0x1000) } := by
  have hStocked := Machine.pristine_tiny.wellFormed.stocked
  have hSeen : Machine.tiny.SeenThrough Machine.tiny.view := Machine.seenThrough_physical _
  obtain ⟨hKeeps, hBoot, hRights⟩ := perform_keeps_rights
  obtain ⟨hCreated, hCommand⟩ := hKeeps hStocked hSeen
  refine ⟨?_, ?_, ?_⟩
  · obtain ⟨reply, after, hRun, hAfter⟩ := hCommand Machine.transparent_tiny
      (setMapping (Address.ofNat 0x1000) (Address.ofNat 0x7000) Flags.userReadWrite.word)
    have hLeaf : leafAfter ((setMapping (Address.ofNat 0x1000) (Address.ofNat 0x7000)
        Flags.userReadWrite.word).perform.run Machine.tiny)
          (Page.containing (Address.ofNat 0x1234)) =
        some (Entry.leaf (Page.ofNumber 7) Flags.userReadWrite.word) := by decide +kernel
    rw [hRun] at hLeaf
    have hPage : (Page.containing (Address.ofNat 0x1234) : VirtualPage).directorySlot ≠
        Layout.selfMapSlot := by decide
    have hTranslate := hRights hAfter (Address.ofNat 0x1234) hPage
    rw [show after.memory.leaf? after.root _ = _ from hLeaf] at hTranslate
    exact ⟨reply, after, hRun, hTranslate⟩
  · obtain ⟨result, after, hRun, hFounds⟩ := Action.exists_run_newDirectory hStocked hSeen
    have hPerform : newDirectory.perform.run Machine.tiny = .done (.created result) after := by
      simp [perform, hRun]
    cases result with
    | ok frame => exact ⟨frame, after, hPerform, hCreated hPerform⟩
    | error error =>
        -- Frame 2 is free, and no scratch page is needed.
        exfalso
        cases hFounds with
        | starved hTaken =>
            obtain ⟨pool, events, hTake, -⟩ := hTaken
            have hFree : Machine.tiny.source.freeAt 2 = true := by decide
            rw [FrameBitmap.freeAt_of_take_none hStocked.sound hTake (by decide)] at hFree
            cases hFree
        | unreachable hTaken hAccess hReleased => cases hAccess
  · have hFits : BootBlock.Fits (Address.ofNat 0x1000) := by
      show _ ≤ _
      decide
    obtain ⟨built, hBuild, -⟩ := BootBlock.exists_build_eq hFits BootBlock.accepts_sampleImage
    exact ⟨built, hBuild _, hBoot (hBuild BootBlock.zero) (built.placedAt_inMemory hFits) rfl⟩

end Command

end TwoLevelPaging
