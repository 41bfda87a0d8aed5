import TwoLevelPaging.Proofs.AddressSpace.WellFormed

/-!
# Address spaces without any table

A machine is `Pristine` if its directory names itself in the last slot and links
nothing else, while the free frames are installed and neither frame zero nor the
directory is free.  Every run starts from such a machine, and it is well-formed.
-/

namespace TwoLevelPaging

/-- What a run ends with, if it does. -/
def Outcome.value? {source α : Type} : Outcome source α → Option α
  | .done value _ => some value
  | .fault _ _ => none

namespace Machine

variable {size : Nat} {machine : Machine (FrameBitmap size)} {slot : Slot} {table : Frame}

/-- Nothing is mapped but the self-map, and the free frames can be handed out. -/
structure Pristine (machine : Machine (FrameBitmap size)) : Prop where
  directory : machine.memory.table? machine.root =
    some (Table.zero.set Layout.selfMapSlot (Entry.link machine.root .selfMap))
  view : machine.view = {}
  size_le : size ≤ FrameBitmap.fullSize
  fits : machine.source.Fits
  free_installed : ∀ {number}, machine.source.freeAt number = true →
    ∃ frame : Frame, frame.number = number ∧ machine.Installed frame
  zero_occupied : machine.source.freeAt 0 = false
  root_occupied : ¬ machine.Free machine.root

namespace Pristine

theorem linkAt_of_ne (hPristine : machine.Pristine) (hSlot : slot ≠ Layout.selfMapSlot) :
    machine.linkAt slot = Entry.zero := by
  rw [linkAt, Memory.content, hPristine.directory, Option.getD_some,
    Table.get_set_of_ne _ _ (Ne.symm hSlot), Table.get_zero]

theorem link?_of_ne (hPristine : machine.Pristine) (hSlot : slot ≠ Layout.selfMapSlot) :
    machine.link? slot = none := by
  rw [link?, hPristine.linkAt_of_ne hSlot, Entry.presentFrame?_zero]

theorem self_linked (hPristine : machine.Pristine) :
    machine.link? Layout.selfMapSlot = some machine.root := by
  rw [link?, linkAt, Memory.content, hPristine.directory, Option.getD_some,
    Table.get_set_same, Entry.presentFrame?_link]

theorem eq_of_link (hPristine : machine.Pristine) (hLink : machine.link? slot = some table) :
    slot = Layout.selfMapSlot ∧ table = machine.root := by
  by_cases hSlot : slot = Layout.selfMapSlot
  · rw [hSlot, hPristine.self_linked] at hLink
    exact ⟨hSlot, (Option.some.inj hLink).symm⟩
  · rw [hPristine.link?_of_ne hSlot] at hLink
    cases hLink

theorem entryAt_eq_zero (hPristine : machine.Pristine) {page : VirtualPage}
    (hPage : page.directorySlot ≠ Layout.selfMapSlot) : machine.entryAt page = Entry.zero :=
  entryAt_of_unlinked (hPristine.link?_of_ne hPage)

theorem wellFormed (hPristine : machine.Pristine) : machine.WellFormed where
  self_linked := hPristine.self_linked
  linked_installed hLink := by
    rw [(hPristine.eq_of_link hLink).2, Installed, Memory.contains_iff]
    exact ⟨_, hPristine.directory⟩
  linked_once hFirst hSecond := by
    rw [(hPristine.eq_of_link hFirst).1, (hPristine.eq_of_link hSecond).1]
  linked_occupied hLink := by
    rw [(hPristine.eq_of_link hLink).2]
    exact hPristine.root_occupied
  free_installed _ hFree := hPristine.free_installed hFree
  sound := FrameBitmap.sound_of_le_fullSize hPristine.fits hPristine.size_le

end Pristine

/-- Eight frames of memory: the directory is in frame 1, and those above it are free. -/
def tiny : Machine (FrameBitmap 1) where
  memory := (Memory.zeroed 8).modify (Page.ofNumber 1) fun table =>
    table.set Layout.selfMapSlot (Entry.link (Page.ofNumber 1) .selfMap)
  source := ⟨#v[0xC0], 8, FrameBitmap.firstAllocatable⟩
  root := Page.ofNumber 1
  view := {}
  journal := []

theorem pristine_tiny : tiny.Pristine where
  directory := Memory.table?_modify_same _ _ _
  view := rfl
  size_le := by decide
  fits := show 8 ≤ 1 * 8 by decide
  free_installed := by
    intro number hFree
    have hManaged : number < 8 := FrameBitmap.lt_limit_of_freeAt hFree
    have hSmall : number < PageSize.small.count := by
      simp only [PageSize.count]
      omega
    refine ⟨⟨number, hSmall⟩, rfl, ?_⟩
    simp [Installed, tiny, Memory.contains, Memory.zeroed, Memory.size]
    exact hManaged
  zero_occupied := by decide
  root_occupied := by
    unfold Free
    decide

end Machine

end TwoLevelPaging
