import TwoLevelPaging.Proofs.Faultless

/-!
# Mapping a page that is in use

A request to map a page without force finds its entry in use only after the table has been
provided.  The answer tells whether the entry stores the wanted frame, and the entry is left
alone (`Action.run_setMapping_of_used`).  The directory is not always: if unprivileged code is
to reach the page, and the slot does not admit it yet, the slot has been widened by then,
although nothing is mapped (`Machine.KeepsMapping`).
-/

namespace TwoLevelPaging

namespace Machine

variable {source : Type} {machine before after : Machine source} {page : VirtualPage}
  {slot : Slot} {table : Frame} {user : Bool}

/-- What a request leaves that has met an entry in use.  The only word that may change is the
link of the slot, which admits unprivileged code if that is asked for. -/
structure KeepsMapping (before after : Machine source) (slot : Slot) (user : Bool) : Prop where
  source_eq : after.source = before.source
  root : after.root = before.root
  view : after.view = before.view
  frames : ∀ frame, frame ≠ before.root → after.memory.table? frame = before.memory.table? frame
  links : ∀ other, slot ≠ other → after.linkAt other = before.linkAt other
  unchanged : (user = true → (before.linkAt slot).user = true) → after = before
  widened : user = true → (before.linkAt slot).user = false →
    ∃ table, before.link? slot = some table ∧
      after.linkAt slot = Entry.link table { (before.linkAt slot).toFlags with user := true }

theorem keepsMapping_widen (hRoot : machine.Installed machine.root)
    (hLink : machine.link? slot = some table) :
    KeepsMapping machine (machine.widen slot table user) slot user := by
  by_cases hAdmit : (user && !(machine.linkAt slot).user) = true
  · rw [widen, if_pos hAdmit]
    have hStays := machine.stays_relink slot table
      { (machine.linkAt slot).toFlags with user := true }
    rw [Bool.and_eq_true, Bool.not_eq_true'] at hAdmit
    refine ⟨rfl, hStays.root, hStays.view, ?_, ?_, ?_, ?_⟩
    · intro frame hFrame
      exact Memory.table?_modify_of_ne _ _ (Ne.symm hFrame)
    · intro other hOther
      rw [linkAt_relink hRoot, if_neg hOther]
    · intro hAdmitted
      rw [hAdmitted hAdmit.1] at hAdmit
      exact absurd hAdmit.2 (by decide)
    · intro _ _
      exact ⟨table, hLink, by rw [linkAt_relink hRoot, if_pos rfl]⟩
  · rw [widen, if_neg hAdmit]
    refine ⟨rfl, rfl, rfl, fun _ _ => rfl, fun _ _ => rfl, fun _ => rfl, ?_⟩
    intro hUser hLinkUser
    rw [hUser, hLinkUser] at hAdmit
    exact absurd rfl hAdmit

/-- The machine stays as it is exactly if the link admits unprivileged code already, or need
not do so. -/
theorem KeepsMapping.eq_iff (hKeeps : KeepsMapping before after slot user) :
    after = before ↔ (user = true → (before.linkAt slot).user = true) := by
  refine ⟨?_, hKeeps.unchanged⟩
  rintro rfl hUser
  by_contra hLinkUser
  obtain ⟨table, -, hLink⟩ := hKeeps.widened hUser (Bool.eq_false_of_not_eq_true hLinkUser)
  rw [hLink] at hLinkUser
  exact hLinkUser rfl

end Machine

namespace Action

variable {source : Type} {machine : Machine source} {address : Address .virtual}
  {physical : Address .physical} {table : Frame}

theorem alignedPair_of_aligned (hAddress : address.isAligned .small = true)
    (hPhysical : physical.isAligned .small = true) :
    alignedPair address physical false =
      .ok (Page.containing address, Page.containing physical) :=
  alignedPair_eq_ok_iff.mpr ⟨by simp, hAddress, hPhysical, rfl, rfl⟩

theorem run_refuseReserved_of_not_reserved (request : Request)
    (hPage : Layout.isReserved (Page.containing address) = false) :
    (refuseReserved request address).run machine = .done (.ok ()) machine := by
  simp [refuseReserved, hPage]

/-- On a page in use the answer is what the entry says, and the slot has been widened. -/
theorem run_setMapping_of_used [FrameSource source] (hNavigable : machine.Navigable)
    (hOpen : machine.view.Unrestricted) (hAddress : address.isAligned .small = true)
    (hPhysical : physical.isAligned .small = true)
    (hPage : Layout.isReserved (Page.containing address) = false)
    (hLink : machine.link? (Page.containing address).directorySlot = some table)
    (hUsed : (machine.entryAt (Page.containing address)).isFree = false) (flags : UInt32) :
    (setMapping address physical flags).run machine =
      .done (if (machine.entryAt (Page.containing address)).storedFrame? =
          some (Page.containing physical) then .ok () else .error .conflict)
        (machine.widen (Page.containing address).directorySlot table
          (Flags.ofWord flags).user) := by
  generalize hAfter : machine.widen (Page.containing address).directorySlot table
    (Flags.ofWord flags).user = after
  have hSlot := Layout.directorySlot_ne_of_not_reserved hPage
  have hEnsured : machine.Ensured (Page.containing address).directorySlot
      (Flags.ofWord flags).user (.ok table) after := hAfter ▸ .present hLink
  have hInstalls : machine.Installs (Page.containing address) (Page.containing physical) flags
      false (.error .occupied) after := .occupied hEnsured hUsed rfl
  have hInstall := run_install hNavigable (hOpen.visible _) hSlot hInstalls
  -- The entry is read again once the slot has been widened.
  have hPrepared := hEnsured.prepared hNavigable hSlot
  have hWidened : after.view.Unrestricted := by
    rw [hPrepared.stays.view]
    exact hOpen
  have hEntry := run_entry? hPrepared.navigable (hWidened.visible _) fun other hOther =>
    hPrepared.navigable.table_installed hSlot hOther
  rw [hPrepared.linked, Option.map_some, hPrepared.entries _ hSlot] at hEntry
  simp only [setMapping, alignedPair_of_aligned hAddress hPhysical, run_bind,
    run_refuseReserved_of_not_reserved .setMapping hPage, Outcome.andThen_done, hInstall, hEntry,
    Option.bind_some]
  split <;> rfl

/-- A request for a page in use answers whether its entry stores the wanted frame, and keeps
every word of the tables, the source of frames and the directory but for the link of its slot.
This link is stored again exactly if it does not admit unprivileged code and the flags ask
for that, even though the request maps nothing. -/
theorem setMapping_keeps_mapping [FrameSource source] (hNavigable : machine.Navigable)
    (hOpen : machine.view.Unrestricted) (hAddress : address.isAligned .small = true)
    (hPhysical : physical.isAligned .small = true)
    (hPage : Layout.isReserved (Page.containing address) = false)
    (hUsed : (machine.entryAt (Page.containing address)).isFree = false) (flags : UInt32) :
    ∃ after, (setMapping address physical flags).run machine =
        .done (if (machine.entryAt (Page.containing address)).storedFrame? =
          some (Page.containing physical) then .ok () else .error .conflict) after ∧
      Machine.KeepsMapping machine after (Page.containing address).directorySlot
        (Flags.ofWord flags).user ∧
      (after = machine ↔ ((Flags.ofWord flags).user = true →
        (machine.linkAt (Page.containing address).directorySlot).user = true)) := by
  obtain ⟨table, hLink⟩ := Machine.exists_link_of_used hUsed
  have hRun := run_setMapping_of_used hNavigable hOpen hAddress hPhysical hPage hLink hUsed flags
  have hKeeps : Machine.KeepsMapping machine
      (machine.widen (Page.containing address).directorySlot table (Flags.ofWord flags).user)
      (Page.containing address).directorySlot (Flags.ofWord flags).user :=
    Machine.keepsMapping_widen hNavigable.root_installed hLink
  exact ⟨_, hRun, hKeeps, hKeeps.eq_iff⟩

section Stray

open Machine

theorem unrestricted_tinyWithStray : tinyWithStray.view.Unrestricted := by
  show tinyWithStray.view.lendsFrames = true ∧ tinyWithStray.view.hiddenSlots = []
  decide +kernel

/-- The page beside the scratch page is in use, and its slot does not admit unprivileged
code. -/
theorem used_strayPage : Layout.isReserved strayPage = false ∧
    (tinyWithStray.entryAt strayPage).isFree = false ∧
    (tinyWithStray.entryAt strayPage).storedFrame? = some strayFrame ∧
    (tinyWithStray.linkAt strayPage.directorySlot).user = false := by
  decide +kernel

/-- Another frame is refused on that page, and nothing changes. -/
theorem setMapping_tinyWithStray_conflict :
    (setMapping strayPage.base (Address.ofNat 0x3000) Flags.kernelReadWrite.word).run
      tinyWithStray = .done (.error .conflict) tinyWithStray := by
  have hNavigable := wellFormed_tinyWithStray.walkable.navigable
  have hAddress : strayPage.base.isAligned .small = true := by decide +kernel
  have hPhysical : (Address.ofNat 0x3000 : Address .physical).isAligned .small = true := by
    decide +kernel
  have hOther : some strayFrame ≠ some (Page.containing (Address.ofNat 0x3000)) := by
    decide +kernel
  obtain ⟨hPage, hUsed, hStored, -⟩ := used_strayPage
  rw [← Page.containing_base strayPage] at hPage hUsed hStored
  obtain ⟨after, hRun, -, hSame⟩ := setMapping_keeps_mapping hNavigable
    unrestricted_tinyWithStray hAddress hPhysical hPage hUsed Flags.kernelReadWrite.word
  rw [hStored, if_neg hOther, hSame.mpr (by decide)] at hRun
  exact hRun

/-- The frame that the page stores already is accepted without a change of the page, but its
slot admits unprivileged code afterwards. -/
theorem setMapping_tinyWithStray_widens :
    tinyWithStray.Separated ∧ (tinyWithStray.entryAt strayPage).storedFrame? = some strayFrame ∧
      (tinyWithStray.linkAt strayPage.directorySlot).user = false ∧
      ∃ after, (setMapping strayPage.base strayFrame.base
          Flags.userReadWrite.word).run tinyWithStray =
            .done (.ok ()) after ∧
        (after.linkAt strayPage.directorySlot).user = true := by
  have hNavigable := wellFormed_tinyWithStray.walkable.navigable
  have hAddress : strayPage.base.isAligned .small = true := by decide +kernel
  have hPhysical : strayFrame.base.isAligned .small = true := by decide +kernel
  obtain ⟨hPage, hUsed, hStored, hLinkUser⟩ := used_strayPage
  obtain ⟨table, hLink⟩ := exists_link_of_used hUsed
  have hKeeps : KeepsMapping tinyWithStray
      (tinyWithStray.widen strayPage.directorySlot table true) strayPage.directorySlot true :=
    keepsMapping_widen hNavigable.root_installed hLink
  obtain ⟨linked, -, hWidened⟩ := hKeeps.widened rfl hLinkUser
  refine ⟨hNavigable.toSeparated, hStored, hLinkUser, _, ?_, by rw [hWidened]; rfl⟩
  rw [← Page.containing_base strayPage] at hPage hUsed hLink
  rw [run_setMapping_of_used hNavigable unrestricted_tinyWithStray hAddress hPhysical hPage hLink
    hUsed, Page.containing_base, Page.containing_base, hStored, if_pos rfl, Flags.ofWord_word]
  rfl

end Stray

end Action
end TwoLevelPaging
