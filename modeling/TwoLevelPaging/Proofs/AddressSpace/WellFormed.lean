import TwoLevelPaging.Proofs.AddressSpace.Views
import TwoLevelPaging.Proofs.FrameBitmap.Exchange

/-!
# Well-formed address spaces over a bitmap

In a well-formed machine the directory names itself in its last slot, every linked
frame is installed, linked once, and not free in the bitmap, and the free frames
are installed.  Without the first of these it is `Stocked`: a frame that is taken from
such a machine can become a table at once, because it is no table yet.  So every edit
has an outcome (`exists_ensured`, `exists_installs`), and the actions on it lead there
through every view that reaches the tables.

Giving a frame back is described on every sound bitmap, whatever the frame is.
-/

namespace TwoLevelPaging

namespace Machine

variable {size : Nat} {machine before after : Machine (FrameBitmap size)}

/-- The frame is free in the bitmap. -/
def Free (machine : Machine (FrameBitmap size)) (frame : Frame) : Prop :=
  machine.source.freeAt frame.number = true

/-- The state of an address space between two requests. -/
structure WellFormed (machine : Machine (FrameBitmap size)) : Prop where
  self_linked : machine.link? Layout.selfMapSlot = some machine.root
  linked_installed : ∀ {slot table}, machine.link? slot = some table → machine.Installed table
  linked_once : ∀ {first second table}, machine.link? first = some table →
    machine.link? second = some table → first = second
  linked_occupied : ∀ {slot table}, machine.link? slot = some table → ¬ machine.Free table
  free_installed : ∀ {number}, 0 < number → machine.source.freeAt number = true →
    ∃ frame : Frame, frame.number = number ∧ machine.Installed frame
  sound : machine.source.Sound

theorem WellFormed.walkable (hWellFormed : machine.WellFormed) : machine.Walkable where
  root_installed := hWellFormed.linked_installed hWellFormed.self_linked
  table_installed _ := hWellFormed.linked_installed
  table_ne_root := by
    rintro slot table hSlot hLink rfl
    exact hSlot (hWellFormed.linked_once hLink hWellFormed.self_linked)
  slot_unique _ _ := hWellFormed.linked_once
  self_linked := hWellFormed.self_linked

/-- The tables are traversable, none of them is free, and the free frames are installed;
what the last directory slot links does not matter. -/
structure Stocked (machine : Machine (FrameBitmap size)) : Prop
    extends machine.Traversable where
  root_occupied : ¬ machine.Free machine.root
  linked_occupied : ∀ {slot table}, machine.link? slot = some table → ¬ machine.Free table
  free_installed : ∀ {number}, 0 < number → machine.source.freeAt number = true →
    ∃ frame : Frame, frame.number = number ∧ machine.Installed frame
  sound : machine.source.Sound

theorem WellFormed.stocked (hWellFormed : machine.WellFormed) : machine.Stocked where
  toTraversable := hWellFormed.walkable.traversable
  root_occupied := hWellFormed.linked_occupied hWellFormed.self_linked
  linked_occupied := hWellFormed.linked_occupied
  free_installed := hWellFormed.free_installed
  sound := hWellFormed.sound

theorem Stocked.installed_of_free (hStocked : machine.Stocked) {frame : Frame}
    (hPositive : 0 < frame.number) (hFree : machine.Free frame) : machine.Installed frame := by
  obtain ⟨other, hNumber, hInstalled⟩ := hStocked.free_installed hPositive hFree
  rwa [← Page.ext hNumber]

/-- A free frame can become a table. -/
theorem Stocked.fresh_of_free (hStocked : machine.Stocked) {frame : Frame}
    (hPositive : 0 < frame.number) (hFree : machine.Free frame) : machine.Fresh frame where
  installed := hStocked.installed_of_free hPositive hFree
  ne_root := by
    rintro rfl
    exact hStocked.root_occupied hFree
  unlinked _ hLink := hStocked.linked_occupied hLink hFree

/-- A state stays stocked while the links stay and no frame becomes free. -/
theorem Stocked.congr (hStocked : before.Stocked) (hStays : Stays before after)
    (hLinks : ∀ slot, after.link? slot = before.link? slot)
    (hFree : ∀ number, after.source.freeAt number = true → before.source.freeAt number = true)
    (hSound : after.source.Sound) : after.Stocked where
  toTraversable := hStocked.toTraversable.congr hStays hLinks
  root_occupied hRoot := by
    rw [Free, hStays.root] at hRoot
    exact hStocked.root_occupied (hFree _ hRoot)
  linked_occupied hLink hTable := by
    rw [hLinks] at hLink
    exact hStocked.linked_occupied hLink (hFree _ hTable)
  free_installed hPositive hNumber := by
    obtain ⟨frame, hSame, hInstalled⟩ := hStocked.free_installed hPositive (hFree _ hNumber)
    exact ⟨frame, hSame, (hStays.installed frame).mpr hInstalled⟩
  sound := hSound

/-- A stocked machine with the self-map in place is well-formed. -/
theorem Stocked.wellFormed (hStocked : machine.Stocked)
    (hSelf : machine.link? Layout.selfMapSlot = some machine.root) : machine.WellFormed := by
  have hWalkable : machine.Walkable := ⟨hStocked.toSeparated, hSelf⟩
  exact ⟨hSelf, hStocked.linked_installed, hWalkable.slot_eq, hStocked.linked_occupied,
    hStocked.free_installed, hStocked.sound⟩

/-- A state stays well-formed while the links stay and no frame becomes free. -/
theorem WellFormed.congr (hWellFormed : before.WellFormed) (hStays : Stays before after)
    (hLinks : ∀ slot, after.link? slot = before.link? slot)
    (hFree : ∀ number, after.source.freeAt number = true → before.source.freeAt number = true)
    (hSound : after.source.Sound) : after.WellFormed := by
  apply (hWellFormed.stocked.congr hStays hLinks hFree hSound).wellFormed
  rw [hLinks, hStays.root]
  exact hWellFormed.self_linked

/-- The view says nothing about the tables. -/
theorem WellFormed.under (hWellFormed : machine.WellFormed) (view : View) :
    (machine.under view).WellFormed :=
  ⟨hWellFormed.self_linked, hWellFormed.linked_installed, hWellFormed.linked_once,
    hWellFormed.linked_occupied, hWellFormed.free_installed, hWellFormed.sound⟩

/-! ## Frames of the bitmap -/

theorem exists_taken (hSound : machine.source.Sound) :
    ∃ found after, machine.Taken found after := by
  rcases FrameBitmap.exists_take_eq hSound with ⟨_, _, _, hTake, -⟩ | ⟨_, hTake⟩ <;>
    exact ⟨_, _, _, _, hTake, rfl⟩

/-- A frame that is taken was free and is not frame zero, whatever the tables are. -/
theorem Taken.marks_of_sound (hSound : before.source.Sound)
    (hInstalled : ∀ number, 0 < number → before.source.freeAt number = true →
      ∃ frame : Frame, frame.number = number ∧ before.Installed frame)
    {frame : Frame} (hTaken : before.Taken (some frame) after) :
    0 < frame.number ∧ before.Free frame ∧
      before.source.Marks after.source frame.number true := by
  obtain ⟨pool, events, hTake, rfl⟩ := hTaken
  rcases FrameBitmap.exists_take_eq hSound with
    ⟨number, next, _, hNext, hPositive, hFree, hMarks⟩ | ⟨_, hNext⟩ <;>
    rw [hTake, Except.ok.injEq, Prod.mk.injEq, Prod.mk.injEq] at hNext
  · obtain ⟨hFrame, rfl, -⟩ := hNext
    -- A free number is that of a frame, so nothing of it is lost.
    obtain ⟨known, hNumber, -⟩ := hInstalled number hPositive hFree
    have hSame : frame.number = number := by
      rw [Option.some.inj hFrame, ← hNumber, Page.ofNumber_number]
    rw [Free, hSame]
    exact ⟨hPositive, hFree, hMarks⟩
  · cases hNext.1

theorem Taken.marks (hStocked : before.Stocked) {frame : Frame}
    (hTaken : before.Taken (some frame) after) :
    0 < frame.number ∧ before.Free frame ∧
      before.source.Marks after.source frame.number true :=
  hTaken.marks_of_sound hStocked.sound fun _ => hStocked.free_installed

/-- If no frame is found, nothing changes. -/
theorem Taken.unchanged (hSound : before.source.Sound) (hTaken : before.Taken none after) :
    Unchanged before after := by
  obtain ⟨pool, events, hTake, rfl⟩ := hTaken
  rcases FrameBitmap.exists_take_eq hSound with ⟨_, _, _, hNext, -⟩ | ⟨_, hNext⟩ <;>
    rw [hTake, Except.ok.injEq, Prod.mk.injEq, Prod.mk.injEq] at hNext
  · cases hNext.1
  · exact ⟨rfl, hNext.2.1, rfl, rfl, events, rfl⟩

theorem Taken.sound (hSound : before.source.Sound) {found : Option Frame}
    (hTaken : before.Taken found after) : after.source.Sound := by
  obtain ⟨pool, events, hTake, rfl⟩ := hTaken
  rcases FrameBitmap.exists_take_eq hSound with
    ⟨_, _, _, hNext, -, -, hMarks⟩ | ⟨_, hNext⟩ <;>
    rw [hTake, Except.ok.injEq, Prod.mk.injEq, Prod.mk.injEq] at hNext <;>
    rw [source_draw, hNext.2.1]
  · exact hSound.congr hMarks.limit
  · exact hSound

/-- Taking a frame frees none. -/
theorem Taken.freeAt_before (hStocked : before.Stocked) {found : Option Frame}
    (hTaken : before.Taken found after) {number : Nat}
    (hNumber : after.source.freeAt number = true) : before.source.freeAt number = true := by
  cases found with
  | none =>
      rwa [(hTaken.unchanged hStocked.sound).source_eq] at hNumber
  | some frame =>
      obtain ⟨-, hFrame, hMarks⟩ := hTaken.marks hStocked
      exact hMarks.freeAt_before hFrame hNumber

theorem Taken.stocked (hStocked : before.Stocked) {found : Option Frame}
    (hTaken : before.Taken found after) : after.Stocked := by
  have hSound := hTaken.sound hStocked.sound
  have hFree : ∀ number, after.source.freeAt number = true →
      before.source.freeAt number = true := fun _ => hTaken.freeAt_before hStocked
  obtain ⟨pool, events, -, rfl⟩ := hTaken
  exact hStocked.congr (before.stays_draw pool events) (fun _ => rfl) hFree hSound

theorem exists_released (hSound : machine.source.Sound) (frame : Frame) :
    ∃ after, machine.Released frame after := by
  obtain ⟨pool, events, hGive, -⟩ := FrameBitmap.exists_give_eq hSound frame
  exact ⟨_, pool, events, hGive, rfl⟩

/-- A managed frame that is given back has its bit cleared, unless it is frame
zero. -/
theorem Released.marks (hSound : before.source.Sound) {frame : Frame}
    (hPositive : 0 < frame.number) (hManaged : frame.number < before.source.limit)
    (hReleased : before.Released frame after) :
    before.source.Marks after.source frame.number false := by
  obtain ⟨pool, events, hGive, rfl⟩ := hReleased
  obtain ⟨next, _, hNext, -, hMarks⟩ := FrameBitmap.exists_give_eq hSound frame
  rw [hGive, Except.ok.injEq, Prod.mk.injEq] at hNext
  rw [source_draw, hNext.1]
  exact hMarks hPositive hManaged

/-- A free frame that is marked and given back, with no change of the bitmap in between, leaves
the bitmap as it was. -/
theorem Released.undoes_mark {middle : Machine (FrameBitmap size)}
    (hSound : middle.source.Sound) {frame : Frame} (hPositive : 0 < frame.number)
    (hFree : before.Free frame)
    (hTakes : before.source.Marks middle.source frame.number true)
    (hReleased : middle.Released frame after) :
    after.source.limit = before.source.limit ∧
      ∀ number, after.source.isOccupied number = before.source.isOccupied number := by
  have hManaged : frame.number < middle.source.limit := by
    rw [hTakes.limit]
    exact FrameBitmap.lt_limit_of_freeAt hFree
  have hGives := hReleased.marks hSound hPositive hManaged
  refine ⟨by rw [hGives.limit, hTakes.limit], ?_⟩
  intro number
  by_cases hNumber : number = frame.number
  · rw [hNumber, hGives.same, ((FrameBitmap.freeAt_eq_true_iff _ _).mp hFree).2]
  · rw [hGives.others number hNumber, hTakes.others number hNumber]

/-- So does a frame that is taken and given back. -/
theorem Released.undoes (hStocked : before.Stocked) {frame : Frame}
    {drawn middle : Machine (FrameBitmap size)} (hTaken : before.Taken (some frame) drawn)
    (hSource : middle.source = drawn.source) (hReleased : middle.Released frame after) :
    after.source.limit = before.source.limit ∧
      ∀ number, after.source.isOccupied number = before.source.isOccupied number := by
  obtain ⟨hPositive, hFree, hTakes⟩ := hTaken.marks hStocked
  have hSound := hTaken.sound hStocked.sound
  rw [← hSource] at hSound hTakes
  exact hReleased.undoes_mark hSound hPositive hFree hTakes

theorem Released.sound (hSound : before.source.Sound) {frame : Frame}
    (hReleased : before.Released frame after) : after.source.Sound := by
  obtain ⟨pool, events, hGive, rfl⟩ := hReleased
  obtain ⟨next, _, hNext, hLimit, -⟩ := FrameBitmap.exists_give_eq hSound frame
  rw [hGive, Except.ok.injEq, Prod.mk.injEq] at hNext
  rw [source_draw, hNext.1]
  exact hSound.congr hLimit

/-! ## Every edit has an outcome -/

theorem exists_ensured (hStocked : machine.Stocked) (slot : Slot) (user : Bool) :
    ∃ result after, machine.Ensured slot user result after := by
  cases hLink : machine.link? slot with
  | some table => exact ⟨_, _, .present hLink⟩
  | none =>
      obtain ⟨found, after, hTaken⟩ := exists_taken hStocked.sound
      cases found with
      | none =>
          obtain ⟨pool, events, hTake, -⟩ := hTaken
          exact ⟨_, _, .starved hLink hTake⟩
      | some table =>
          obtain ⟨hPositive, hFree, -⟩ := hTaken.marks hStocked
          obtain ⟨pool, events, hTake, -⟩ := hTaken
          exact ⟨_, _, .fresh hLink hTake (hStocked.fresh_of_free hPositive hFree)⟩

theorem exists_installs (hStocked : machine.Stocked) (page : VirtualPage) (frame : Frame)
    (flags : UInt32) (forced : Bool) :
    ∃ result after, machine.Installs page frame flags forced result after := by
  obtain ⟨result, after, hEnsured⟩ :=
    exists_ensured hStocked page.directorySlot (Flags.ofWord flags).user
  cases result with
  | error cause => exact ⟨_, _, .refused hEnsured⟩
  | ok table =>
      by_cases hAllowed : (machine.entryAt page).isFree = true ∨ forced = true
      · exact ⟨_, _, .placed hEnsured hAllowed⟩
      · simp only [not_or, Bool.not_eq_true] at hAllowed
        exact ⟨_, _, .occupied hEnsured hAllowed.1 hAllowed.2⟩

theorem Ensured.sound (hSound : machine.source.Sound) {slot : Slot} {user : Bool}
    {result : Except LinkError Frame} (hEnsured : machine.Ensured slot user result after) :
    after.source.Sound := by
  cases hEnsured with
  | present hLink =>
      rw [source_widen]
      exact hSound
  | fresh hLink hTake hFresh =>
      have hTaken : machine.Taken (some _) _ := ⟨_, _, hTake, rfl⟩
      have hDrawn := hTaken.sound hSound
      exact hDrawn
  | starved hLink hTake =>
      have hTaken : machine.Taken none _ := ⟨_, _, hTake, rfl⟩
      exact hTaken.sound hSound

theorem Installs.sound (hSound : machine.source.Sound) {page : VirtualPage} {frame : Frame}
    {flags : UInt32} {forced : Bool} {result : Except LinkError (Option Frame)}
    (hInstalls : machine.Installs page frame flags forced result after) :
    after.source.Sound := by
  cases hInstalls with
  | refused hEnsured => exact hEnsured.sound hSound
  | occupied hEnsured hUsed hForced => exact hEnsured.sound hSound
  | placed hEnsured hAllowed =>
      rw [source_place]
      exact hEnsured.sound hSound

/-- Providing a table frees no frame. -/
theorem Ensured.freeAt_before (hStocked : machine.Stocked) {slot : Slot} {user : Bool}
    {result : Except LinkError Frame} (hEnsured : machine.Ensured slot user result after)
    {number : Nat} (hNumber : after.source.freeAt number = true) :
    machine.source.freeAt number = true := by
  cases hEnsured with
  | present hLink => rwa [source_widen] at hNumber
  | fresh hLink hTake hFresh =>
      have hTaken : machine.Taken (some _) _ := ⟨_, _, hTake, rfl⟩
      exact hTaken.freeAt_before hStocked hNumber
  | starved hLink hTake =>
      have hTaken : machine.Taken none _ := ⟨_, _, hTake, rfl⟩
      exact hTaken.freeAt_before hStocked hNumber

/-- Installing a mapping frees no frame. -/
theorem Installs.freeAt_before (hStocked : machine.Stocked) {page : VirtualPage} {frame : Frame}
    {flags : UInt32} {forced : Bool} {result : Except LinkError (Option Frame)}
    (hInstalls : machine.Installs page frame flags forced result after) {number : Nat}
    (hNumber : after.source.freeAt number = true) : machine.source.freeAt number = true := by
  cases hInstalls with
  | refused hEnsured => exact hEnsured.freeAt_before hStocked hNumber
  | occupied hEnsured hUsed hForced => exact hEnsured.freeAt_before hStocked hNumber
  | placed hEnsured hAllowed =>
      rw [source_place] at hNumber
      exact hEnsured.freeAt_before hStocked hNumber

/-- A table that has been provided is not free: it was linked before, or it has been taken
from the free frames. -/
theorem Ensured.table_occupied (hStocked : machine.Stocked) {slot : Slot} {user : Bool}
    {table : Frame} (hEnsured : machine.Ensured slot user (.ok table) after) :
    ¬ after.Free table := by
  intro hTable
  have hBefore := hEnsured.freeAt_before hStocked hTable
  cases hEnsured with
  | present hLink => exact hStocked.linked_occupied hLink hBefore
  | fresh hLink hTake hFresh =>
      have hTaken : machine.Taken (some table) _ := ⟨_, _, hTake, rfl⟩
      obtain ⟨-, -, hMarks⟩ := hTaken.marks hStocked
      have hOccupied := hMarks.freeAt_same (FrameBitmap.lt_limit_of_freeAt hBefore)
      exact absurd (hTable.symm.trans hOccupied) (by decide)

theorem Ensured.stocked (hStocked : machine.Stocked) {slot : Slot}
    (hSlot : slot ≠ Layout.selfMapSlot) {user : Bool} {result : Except LinkError Frame}
    (hEnsured : machine.Ensured slot user result after) : after.Stocked := by
  have hTraversable := hEnsured.traversable hStocked.toTraversable hSlot
  have hSound := hEnsured.sound hStocked.sound
  cases result with
  | error cause =>
      cases hEnsured with
      | starved hLink hTake =>
          have hTaken : machine.Taken none _ := ⟨_, _, hTake, rfl⟩
          exact hTaken.stocked hStocked
  | ok table =>
      have hPrepared := hEnsured.prepared_physical hStocked.toTraversable hSlot
      have hRoot : after.root = machine.root := hPrepared.stays.root
      have hLinked : after.link? slot = some table := hPrepared.linked
      have hInstalled : ∀ frame, after.Installed frame ↔ machine.Installed frame :=
        hPrepared.stays.installed
      refine ⟨hTraversable, ?_, ?_, ?_, hSound⟩
      · intro hFree
        rw [Free, hRoot] at hFree
        exact hStocked.root_occupied (hEnsured.freeAt_before hStocked hFree)
      · intro other linked hLink hFree
        by_cases hSame : slot = other
        · subst hSame
          rw [hLinked] at hLink
          obtain rfl := Option.some.inj hLink
          exact hEnsured.table_occupied hStocked hFree
        · have hBefore : machine.link? other = some linked :=
            (hPrepared.link?_of_ne hSame).symm.trans hLink
          exact hStocked.linked_occupied hBefore (hEnsured.freeAt_before hStocked hFree)
      · intro number hPositive hFree
        obtain ⟨frame, hNumber, hFrame⟩ :=
          hStocked.free_installed hPositive (hEnsured.freeAt_before hStocked hFree)
        exact ⟨frame, hNumber, (hInstalled frame).mpr hFrame⟩

theorem Installs.stocked (hStocked : machine.Stocked) {page : VirtualPage}
    (hPage : page.directorySlot ≠ Layout.selfMapSlot) {frame : Frame} {flags : UInt32}
    {forced : Bool} {result : Except LinkError (Option Frame)}
    (hInstalls : machine.Installs page frame flags forced result after) : after.Stocked := by
  cases hInstalls with
  | refused hEnsured => exact hEnsured.stocked hStocked hPage
  | occupied hEnsured hUsed hForced => exact hEnsured.stocked hStocked hPage
  | placed hEnsured hAllowed =>
      have hPrepared := hEnsured.stocked hStocked hPage
      have hRewrites := hEnsured.rewrites_place hStocked.toTraversable hPage
        (Entry.leaf frame flags)
      refine hPrepared.congr hRewrites.stays hRewrites.link?_eq ?_ ?_
      · intro number hNumber
        rwa [hRewrites.source_eq] at hNumber
      · rw [hRewrites.source_eq]
        exact hPrepared.sound

end Machine

namespace Action

variable {size : Nat} {machine : Machine (FrameBitmap size)}

theorem leads_takeFrame_of_sound (hSound : machine.source.Sound) :
    Leads takeFrame machine machine.Taken := by
  obtain ⟨found, after, hTaken⟩ := Machine.exists_taken hSound
  exact leads_takeFrame hTaken

theorem leads_giveFrame_of_sound (hSound : machine.source.Sound) (frame : Frame) :
    Leads (giveFrame frame) machine fun _ => machine.Released frame := by
  obtain ⟨after, hReleased⟩ := Machine.exists_released hSound frame
  exact leads_giveFrame hReleased

theorem leads_install_of_stocked (hStocked : machine.Stocked) {page : VirtualPage}
    (hPage : page.directorySlot ≠ Layout.selfMapSlot) (frame : Frame) (flags : UInt32)
    (forced : Bool) :
    Leads (install page frame flags forced) machine
      (machine.Installs page frame flags forced) := by
  obtain ⟨result, after, hInstalls⟩ :=
    Machine.exists_installs hStocked page frame flags forced
  exact leads_install hStocked.toTraversable hPage hInstalls

end Action

end TwoLevelPaging
