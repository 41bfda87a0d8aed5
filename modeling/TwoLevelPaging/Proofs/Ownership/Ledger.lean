import Mathlib.Data.Finset.Basic
import Mathlib.Logic.ExistsUnique
import TwoLevelPaging.Proofs.AddressSpace.Requests

/-!
# Who owns a frame

A frame that was free in a state `origin` has one owner later on: the pool of free
frames, the client that asked for it, a page whose entry stores it, or a directory
slot that links it.  `Ledger origin machine held` says that every such frame has
exactly one owner, that no other frame has got one, and that the pages, the links
and the bits of the bitmap which were in use in `origin` are as they were.

An edit moves one frame from one owner to another (`Balanced.move`).  There is a
lemma for each move: from the pool to the client (`Ledger.taken`) and back
(`Ledger.released`), from the client to a slot (`Ledger.linked`), from the client to
a page (`Ledger.filled`) and back (`Ledger.vacated`).

A ledger over a well-formed origin makes the machine well-formed
(`Ledger.wellFormed`), so no other invariant has to be carried along a run.
-/

namespace TwoLevelPaging

/-- Those who may hold a frame. -/
inductive Owner where
  /-- The free frames of the bitmap. -/
  | pool
  /-- The one who makes the requests. -/
  | client
  /-- The page whose entry stores the frame. -/
  | page (page : VirtualPage)
  /-- The directory slot that links the frame. -/
  | table (slot : Slot)
  deriving DecidableEq

/-- Of the given frames each has exactly one owner, and no other frame has one. -/
structure Balanced (frames : Frame → Prop) (owns : Owner → Frame → Prop) : Prop where
  within : ∀ {owner frame}, owns owner frame → frames frame
  unique : ∀ {frame}, frames frame → ∃! owner, owns owner frame

namespace Balanced

variable {frames : Frame → Prop} {owns next : Owner → Frame → Prop}

theorem owner_eq (hBalanced : Balanced frames owns) {first second : Owner} {frame : Frame}
    (hFirst : owns first frame) (hSecond : owns second frame) : first = second :=
  (hBalanced.unique (hBalanced.within hFirst)).unique hFirst hSecond

theorem congr (hBalanced : Balanced frames owns)
    (hSame : ∀ owner frame, next owner frame ↔ owns owner frame) : Balanced frames next := by
  have hEqual : next = owns := by
    funext owner frame
    exact propext (hSame owner frame)
  rwa [hEqual]

/-- A frame passes from one owner to another.  All other owners keep all they own,
and the two keep all else. -/
theorem move (hBalanced : Balanced frames owns) (frame : Frame) (giver taker : Owner)
    (hGiver : owns giver frame) (hGone : ¬ next giver frame) (hTaker : next taker frame)
    (hOthers : ∀ owner, owner ≠ giver → owner ≠ taker →
      ∀ other, next owner other ↔ owns owner other)
    (hGives : ∀ other, other ≠ frame → (next giver other ↔ owns giver other))
    (hTakes : ∀ other, other ≠ frame → (next taker other ↔ owns taker other)) :
    Balanced frames next := by
  have hOnly : ∀ owner, next owner frame → owner = taker := by
    intro owner hOwner
    by_contra hTakes
    have hGives : owner ≠ giver := by
      rintro rfl
      exact hGone hOwner
    rw [hOthers owner hGives hTakes] at hOwner
    exact hGives (hBalanced.owner_eq hOwner hGiver)
  have hElse : ∀ owner other, other ≠ frame → (next owner other ↔ owns owner other) := by
    intro owner other hOther
    by_cases hGiverSame : owner = giver
    · rw [hGiverSame]
      exact hGives other hOther
    · by_cases hTakerSame : owner = taker
      · rw [hTakerSame]
        exact hTakes other hOther
      · exact hOthers owner hGiverSame hTakerSame other
  constructor
  · intro owner other hOwner
    by_cases hOther : other = frame
    · rw [hOther]
      exact hBalanced.within hGiver
    · exact hBalanced.within ((hElse owner other hOther).mp hOwner)
  · intro other hFree
    by_cases hOther : other = frame
    · rw [hOther]
      exact ⟨taker, hTaker, hOnly⟩
    · obtain ⟨owner, hOwner, hUnique⟩ := hBalanced.unique hFree
      exact ⟨owner, (hElse owner other hOther).mpr hOwner, fun another hAnother =>
        hUnique another ((hElse another other hOther).mp hAnother)⟩

end Balanced

namespace Machine

variable {size : Nat} {origin machine before after : Machine (FrameBitmap size)}
  {held : Finset Frame} {frame table : Frame} {page : VirtualPage} {slot : Slot}

/-- The owners of a frame in a state where the client holds these frames.  Pages
and slots count below the self-map. -/
def Owns (machine : Machine (FrameBitmap size)) (held : Finset Frame) :
    Owner → Frame → Prop
  | .pool, frame => machine.Free frame
  | .client, frame => frame ∈ held
  | .page page, frame => page.directorySlot ≠ Layout.selfMapSlot ∧
      (machine.entryAt page).storedFrame? = some frame
  | .table slot, frame => slot ≠ Layout.selfMapSlot ∧ machine.link? slot = some frame

/-- What was in use in the origin already is not counted. -/
def Tracked (origin : Machine (FrameBitmap size)) : Owner → Prop
  | .page page => origin.entryAt page = Entry.zero
  | .table slot => origin.link? slot = none
  | _ => True

/-- An owner that is counted, and a frame of it. -/
def Holds (origin machine : Machine (FrameBitmap size)) (held : Finset Frame) (owner : Owner)
    (frame : Frame) : Prop :=
  Tracked origin owner ∧ machine.Owns held owner frame

/-- What was in use in the origin is as it was. -/
structure Keeps (origin machine : Machine (FrameBitmap size)) : Prop where
  stays : Stays origin machine
  limit : machine.source.limit = origin.source.limit
  /-- Frame zero keeps its bit, and so do all frames that were not free. -/
  bits : ∀ number, number = 0 ∨ origin.source.freeAt number = false →
    machine.source.isOccupied number = origin.source.isOccupied number
  self_link : machine.linkAt Layout.selfMapSlot = origin.linkAt Layout.selfMapSlot
  links : ∀ {slot table}, origin.link? slot = some table → machine.link? slot = some table
  pages : ∀ {page : VirtualPage}, page.directorySlot ≠ Layout.selfMapSlot →
    origin.entryAt page ≠ Entry.zero → machine.entryAt page = origin.entryAt page

/-- What was in use is as it was, and every frame that was free has one owner. -/
structure Ledger (origin machine : Machine (FrameBitmap size)) (held : Finset Frame) : Prop
    extends Keeps origin machine where
  balanced : Balanced origin.Free (Holds origin machine held)

theorem Keeps.refl (machine : Machine (FrameBitmap size)) : Keeps machine machine :=
  ⟨Stays.refl machine, rfl, fun _ _ => rfl, rfl, fun hLink => hLink, fun _ _ => rfl⟩

/-- At the start the pool owns all free frames. -/
theorem Ledger.start (origin : Machine (FrameBitmap size)) : Ledger origin origin ∅ := by
  have hPool : ∀ owner frame, Holds origin origin ∅ owner frame → owner = .pool := by
    intro owner frame hHolds
    cases owner with
    | pool => rfl
    | client => exact absurd hHolds.2 (Finset.notMem_empty frame)
    | page page =>
        obtain ⟨hTracked, -, hStored⟩ := hHolds
        simp only [Tracked] at hTracked
        simp [hTracked] at hStored
    | table slot =>
        obtain ⟨hTracked, -, hLink⟩ := hHolds
        simp only [Tracked] at hTracked
        simp [hTracked] at hLink
  refine ⟨Keeps.refl origin, ?_, ?_⟩
  · intro owner frame hHolds
    obtain rfl := hPool owner frame hHolds
    exact hHolds.2
  · intro frame hFree
    exact ⟨.pool, ⟨trivial, hFree⟩, fun owner hHolds => hPool owner frame hHolds⟩

namespace Ledger

/-! ## What a ledger says -/

/-- No frame becomes free that was not. -/
theorem freeAt_origin (hLedger : Ledger origin machine held) {number : Nat}
    (hFree : machine.source.freeAt number = true) : origin.source.freeAt number = true := by
  by_contra hOccupied
  rw [Bool.not_eq_true] at hOccupied
  rw [FrameBitmap.freeAt_eq_true_iff, hLedger.limit,
    hLedger.bits number (.inr hOccupied)] at hFree
  rw [(FrameBitmap.freeAt_eq_true_iff _ _).mpr hFree] at hOccupied
  cases hOccupied

/-- The bit of frame zero never changes. -/
theorem free_of_zero (hLedger : Ledger origin machine held) (hZero : ¬ 0 < frame.number)
    (hFree : origin.Free frame) : machine.Free frame := by
  have hNumber : frame.number = 0 := by omega
  rw [Free, FrameBitmap.freeAt_eq_true_iff] at hFree ⊢
  rw [hLedger.limit, hLedger.bits _ (.inl hNumber)]
  exact hFree

/-- A frame that is free is not held. -/
theorem not_mem_of_free (hLedger : Ledger origin machine held) (hFree : machine.Free frame) :
    frame ∉ held := by
  intro hHeld
  have hPool : Holds origin machine held .pool frame := ⟨trivial, hFree⟩
  have hClient : Holds origin machine held .client frame := ⟨trivial, hHeld⟩
  cases hLedger.balanced.owner_eq hPool hClient

theorem free_of_mem (hLedger : Ledger origin machine held) (hHeld : frame ∈ held) :
    origin.Free frame := by
  have hClient : Holds origin machine held .client frame := ⟨trivial, hHeld⟩
  exact hLedger.balanced.within hClient

/-- Frame zero is never handed out. -/
theorem held_positive (hLedger : Ledger origin machine held) (hHeld : frame ∈ held) :
    0 < frame.number := by
  by_contra hZero
  have hFree := hLedger.free_of_zero hZero (hLedger.free_of_mem hHeld)
  exact hLedger.not_mem_of_free hFree hHeld

/-- A frame that a counted page stores is not held. -/
theorem not_mem_of_stored (hLedger : Ledger origin machine held)
    (hPage : page.directorySlot ≠ Layout.selfMapSlot) (hTracked : origin.entryAt page = Entry.zero)
    (hStored : (machine.entryAt page).storedFrame? = some frame) : frame ∉ held := by
  intro hHeld
  have hOwner : Holds origin machine held (.page page) frame := ⟨hTracked, hPage, hStored⟩
  have hClient : Holds origin machine held .client frame := ⟨trivial, hHeld⟩
  cases hLedger.balanced.owner_eq hOwner hClient

/-- A frame that is linked anew was free in the origin. -/
theorem free_of_link (hLedger : Ledger origin machine held) (hNew : origin.link? slot = none)
    (hSlot : slot ≠ Layout.selfMapSlot) (hLink : machine.link? slot = some table) :
    origin.Free table := by
  have hOwner : Holds origin machine held (.table slot) table := ⟨hNew, hSlot, hLink⟩
  exact hLedger.balanced.within hOwner

/-- A page that is free now was free in the origin. -/
theorem entryAt_origin (hLedger : Ledger origin machine held)
    (hPage : page.directorySlot ≠ Layout.selfMapSlot)
    (hFree : (machine.entryAt page).isFree = true) : origin.entryAt page = Entry.zero := by
  by_contra hUsed
  rw [hLedger.pages hPage hUsed, Entry.isFree_iff] at hFree
  exact hUsed hFree

/-- The self-map stays in place. -/
theorem self_linked (hLedger : Ledger origin machine held) (hOrigin : origin.WellFormed) :
    machine.link? Layout.selfMapSlot = some machine.root := by
  rw [link?, hLedger.self_link, hLedger.stays.root]
  exact hOrigin.self_linked

/-- A slot has its table from the origin, or the table was a free frame. -/
theorem linked_cases (hLedger : Ledger origin machine held) (hOrigin : origin.WellFormed)
    (hLink : machine.link? slot = some table) :
    origin.link? slot = some table ∨
      (origin.link? slot = none ∧ slot ≠ Layout.selfMapSlot ∧ origin.Free table) := by
  cases hOld : origin.link? slot with
  | some old =>
      rw [hLedger.links hOld] at hLink
      exact .inl hLink
  | none =>
      have hSlot : slot ≠ Layout.selfMapSlot := by
        rintro rfl
        rw [hOrigin.self_linked] at hOld
        cases hOld
      exact .inr ⟨rfl, hSlot, hLedger.free_of_link hOld hSlot hLink⟩

/-- The frame of a page that was not in use was free, and is not any more. -/
theorem frame_of_page (hLedger : Ledger origin machine held)
    (hPage : page.directorySlot ≠ Layout.selfMapSlot) (hTracked : origin.entryAt page = Entry.zero)
    (hStored : (machine.entryAt page).storedFrame? = some frame) :
    origin.Free frame ∧ ¬ machine.Free frame := by
  have hOwner : Holds origin machine held (.page page) frame := ⟨hTracked, hPage, hStored⟩
  refine ⟨hLedger.balanced.within hOwner, ?_⟩
  intro hFree
  have hPool : Holds origin machine held .pool frame := ⟨trivial, hFree⟩
  cases hLedger.balanced.owner_eq hPool hOwner

/-- Two such pages have different frames. -/
theorem page_eq_of_frame (hLedger : Ledger origin machine held) {other : VirtualPage}
    (hPage : page.directorySlot ≠ Layout.selfMapSlot)
    (hOther : other.directorySlot ≠ Layout.selfMapSlot)
    (hTracked : origin.entryAt page = Entry.zero)
    (hOtherTracked : origin.entryAt other = Entry.zero)
    (hStored : (machine.entryAt page).storedFrame? = some frame)
    (hOtherStored : (machine.entryAt other).storedFrame? = some frame) : page = other := by
  have hFirst : Holds origin machine held (.page page) frame := ⟨hTracked, hPage, hStored⟩
  have hSecond : Holds origin machine held (.page other) frame :=
    ⟨hOtherTracked, hOther, hOtherStored⟩
  exact Owner.page.inj (hLedger.balanced.owner_eq hFirst hSecond)

/-- Two slots never link one table: old tables were not free, and new ones have one
owner. -/
theorem linked_unique (hLedger : Ledger origin machine held) (hOrigin : origin.WellFormed)
    {first second : Slot} (hFirst : machine.link? first = some table)
    (hSecond : machine.link? second = some table) : first = second := by
  -- An old table and a new one differ, since the new one was free in the origin.
  rcases hLedger.linked_cases hOrigin hFirst with
    hFirstOld | ⟨hFirstNew, hFirstSlot, hFirstFree⟩ <;>
  rcases hLedger.linked_cases hOrigin hSecond with
    hSecondOld | ⟨hSecondNew, hSecondSlot, hSecondFree⟩
  · exact hOrigin.linked_once hFirstOld hSecondOld
  · exact absurd hSecondFree (hOrigin.linked_occupied hFirstOld)
  · exact absurd hFirstFree (hOrigin.linked_occupied hSecondOld)
  · have hFirstOwner : Holds origin machine held (.table first) table :=
      ⟨hFirstNew, hFirstSlot, hFirst⟩
    have hSecondOwner : Holds origin machine held (.table second) table :=
      ⟨hSecondNew, hSecondSlot, hSecond⟩
    exact Owner.table.inj (hLedger.balanced.owner_eq hFirstOwner hSecondOwner)

theorem linked_occupied (hLedger : Ledger origin machine held) (hOrigin : origin.WellFormed)
    (hLink : machine.link? slot = some table) : ¬ machine.Free table := by
  intro hFree
  rcases hLedger.linked_cases hOrigin hLink with hOld | ⟨hNew, hSlot, -⟩
  · exact hOrigin.linked_occupied hOld (hLedger.freeAt_origin hFree)
  · have hOwner : Holds origin machine held (.table slot) table := ⟨hNew, hSlot, hLink⟩
    have hPool : Holds origin machine held .pool table := ⟨trivial, hFree⟩
    cases hLedger.balanced.owner_eq hOwner hPool

/-- A table that was a free frame is not frame zero, whose bit never changes. -/
theorem linked_positive (hLedger : Ledger origin machine held) (hOrigin : origin.WellFormed)
    (hLink : machine.link? slot = some table) (hFree : origin.Free table) :
    0 < table.number := by
  by_contra hZero
  exact hLedger.linked_occupied hOrigin hLink (hLedger.free_of_zero hZero hFree)

/-- A machine with a ledger over a well-formed origin is well-formed. -/
theorem wellFormed (hLedger : Ledger origin machine held) (hOrigin : origin.WellFormed) :
    machine.WellFormed where
  self_linked := hLedger.self_linked hOrigin
  linked_installed hLink := by
    rw [hLedger.stays.installed]
    rcases hLedger.linked_cases hOrigin hLink with hOld | ⟨-, -, hFree⟩
    · exact hOrigin.linked_installed hOld
    · exact hOrigin.stocked.installed_of_free (hLedger.linked_positive hOrigin hLink hFree) hFree
  linked_once := hLedger.linked_unique hOrigin
  linked_occupied := hLedger.linked_occupied hOrigin
  free_installed hPositive hFree := by
    obtain ⟨frame, hNumber, hInstalled⟩ :=
      hOrigin.free_installed hPositive (hLedger.freeAt_origin hFree)
    exact ⟨frame, hNumber, (hLedger.stays.installed frame).mpr hInstalled⟩
  sound := hOrigin.sound.congr hLedger.limit

end Ledger

end Machine

end TwoLevelPaging
