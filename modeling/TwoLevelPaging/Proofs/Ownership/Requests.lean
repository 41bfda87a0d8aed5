import TwoLevelPaging.Proofs.AddressSpace.NewDirectory
import TwoLevelPaging.Proofs.AddressSpace.Pristine
import TwoLevelPaging.Proofs.Ownership.PageRuns

/-!
# How the requests move frames

The outcomes of the requests, read as moves between the owners.  A request that
takes a frame for itself has it as the client's for that time: it is in the page or
in the pool again when the request ends.

Where a request may displace a mapping, the pages must all be counted, which they
are over an origin without tables (`Machine.Pristine`).
-/

namespace TwoLevelPaging
namespace Machine

variable {size : Nat} {origin before after : Machine (FrameBitmap size)}
  {held : Finset Frame} {frame : Frame} {page : VirtualPage} {flags : UInt32}

namespace Ledger

/-- Mapping to a free page takes the frame from the client. -/
theorem mapped (hLedger : Ledger origin before held) (hOrigin : origin.WellFormed)
    (hHeld : frame ∈ held) {result : Except MapError VirtualPage}
    (hMaps : Maps before frame flags result after) :
    Ledger origin after (if result.isOk then held.erase frame else held) := by
  have hBefore := (hLedger.wellFormed hOrigin).walkable
  cases hMaps with
  | refused hUnchanged => exact hLedger.unchanged hUnchanged
  | failed hAvailable hInstalls =>
      exact hLedger.not_installed hOrigin hAvailable.directorySlot_ne hInstalls
  | mapped hAvailable hInstalls hReported =>
      have hPage := hAvailable.directorySlot_ne
      obtain ⟨hDisplaced, -, -⟩ := hInstalls.entries_of_ok hBefore.navigable hPage
      rw [(Entry.isFree_iff _).mp hAvailable.1, Entry.storedFrame?_zero] at hDisplaced
      have hTracked := hLedger.entryAt_origin hPage hAvailable.1
      exact ((hLedger.installed hOrigin hPage hTracked hHeld hInstalls).1 hDisplaced).unchanged
        hReported

/-- A forced mapping takes the frame from the client, and the frame that it
displaces goes to the pool. -/
theorem forced (hLedger : Ledger origin before held) (hOrigin : origin.Pristine)
    {address : Address .virtual} {physical : Address .physical}
    (hHeld : Page.containing physical ∈ held) {result : Except MapError VirtualPage}
    (hForces : Forces before address physical flags result after) :
    Ledger origin after
      (if result.isOk then held.erase (Page.containing physical) else held) := by
  cases hForces with
  | invalid hPair => exact hLedger
  | guarded hPair hReserved hUnchanged => exact hLedger.unchanged hUnchanged
  | failed hAdmits hInstalls =>
      exact hLedger.not_installed hOrigin.wellFormed
        (Layout.directorySlot_ne_of_not_reserved hAdmits.not_reserved) hInstalls
  | kept hAdmits hInstalls hKept =>
      rename_i displaced
      have hSlot := Layout.directorySlot_ne_of_not_reserved hAdmits.not_reserved
      obtain ⟨hEmpty, hOver⟩ := hLedger.installed hOrigin.wellFormed hSlot
        (hOrigin.entryAt_eq_zero hSlot) hHeld hInstalls
      cases displaced with
      | none => exact hEmpty rfl
      | some other =>
          -- A frame that the client holds is in no page, so none is kept there.
          rw [hKept other rfl] at hOver
          exact absurd hHeld (hOver _ rfl).1
  | displaced hAdmits hInstalls hOther hReported hReleased =>
      rename_i other installed reported
      have hSlot := Layout.directorySlot_ne_of_not_reserved hAdmits.not_reserved
      obtain ⟨hNew, hInstalled⟩ := (hLedger.installed hOrigin.wellFormed hSlot
        (hOrigin.entryAt_eq_zero hSlot) hHeld hInstalls).2 other rfl
      have hMember : other ∈ (insert other held).erase (Page.containing physical) :=
        Finset.mem_erase.mpr ⟨hOther, Finset.mem_insert_self other held⟩
      have hMoved := (hInstalled.unchanged hReported).released hOrigin.wellFormed hMember hReleased
      rwa [Finset.erase_right_comm, Finset.erase_insert hNew] at hMoved

/-- A mapping that is set takes the frame from the client. -/
theorem settled (hLedger : Ledger origin before held) (hOrigin : origin.Pristine)
    (hHeld : frame ∈ held) {result : Except MapError Unit}
    (hSets : Sets before page frame flags result after) :
    Ledger origin after (if result.isOk then held.erase frame else held) := by
  have hBefore := (hLedger.wellFormed hOrigin.wellFormed).walkable
  cases hSets with
  | refused hUnchanged => exact hLedger.unchanged hUnchanged
  | failed hPage hInstalls =>
      exact hLedger.not_installed hOrigin.wellFormed (Layout.directorySlot_ne_of_not_reserved hPage)
        hInstalls
  | present hPage hInstalls hStored =>
      have hSlot := Layout.directorySlot_ne_of_not_reserved hPage
      rw [hInstalls.entries_of_error hBefore.navigable hSlot hSlot] at hStored
      exact absurd hHeld
        (hLedger.not_mem_of_stored hSlot (hOrigin.entryAt_eq_zero hSlot) hStored)
  | placed hPage hInstalls =>
      have hSlot := Layout.directorySlot_ne_of_not_reserved hPage
      obtain ⟨hDisplaced, hFree, -⟩ := hInstalls.entries_of_ok hBefore.navigable hSlot
      rw [(Entry.isFree_iff _).mp (hFree rfl), Entry.storedFrame?_zero] at hDisplaced
      exact (hLedger.installed hOrigin.wellFormed hSlot (hOrigin.entryAt_eq_zero hSlot) hHeld
        hInstalls).1 hDisplaced

/-- An allocated page has its frame from the pool. -/
theorem allocated (hLedger : Ledger origin before held) (hOrigin : origin.WellFormed)
    {result : Except MapError VirtualPage} (hAllocates : Allocates before flags result after) :
    Ledger origin after held := by
  have hBefore := hLedger.wellFormed hOrigin
  cases hAllocates with
  | starved hTaken => exact hLedger.unchanged (hTaken.unchanged hBefore.sound)
  | mapped hTaken hMaps =>
      rename_i frame page drawn
      have hFresh := hLedger.not_mem_of_free (hTaken.marks hBefore.stocked).2.1
      have hMapped := (hLedger.taken hOrigin hTaken).mapped hOrigin
        (Finset.mem_insert_self frame held) hMaps
      simp only [Except.isOk, Except.toBool, if_true] at hMapped
      rwa [Finset.erase_insert hFresh] at hMapped
  | failed hTaken hMaps hReleased =>
      rename_i frame error drawn middle
      have hFresh := hLedger.not_mem_of_free (hTaken.marks hBefore.stocked).2.1
      have hMapped := (hLedger.taken hOrigin hTaken).mapped hOrigin
        (Finset.mem_insert_self frame held) hMaps
      simp only [Except.isOk, Except.toBool, Bool.false_eq_true, if_false] at hMapped
      have hMoved := hMapped.released hOrigin (Finset.mem_insert_self frame held) hReleased
      rwa [Finset.erase_insert hFresh] at hMoved

/-- A frame of the client is neither the directory nor a table. -/
theorem unlinked_of_mem (hLedger : Ledger origin before held) (hOrigin : origin.WellFormed)
    (hHeld : frame ∈ held) (slot : Slot) : before.link? slot ≠ some frame := by
  intro hLink
  rcases hLedger.linked_cases hOrigin hLink with hOld | ⟨hNew, hSlot, -⟩
  · exact hOrigin.linked_occupied hOld (hLedger.free_of_mem hHeld)
  · have hOwner : Holds origin before held (.table slot) frame := ⟨hNew, hSlot, hLink⟩
    have hClient : Holds origin before held .client frame := ⟨trivial, hHeld⟩
    cases hLedger.balanced.owner_eq hOwner hClient

theorem fresh_of_mem (hLedger : Ledger origin before held) (hOrigin : origin.WellFormed)
    (hHeld : frame ∈ held) : before.Fresh frame where
  installed := (hLedger.stays.installed frame).mpr
    (hOrigin.stocked.installed_of_free (hLedger.held_positive hHeld) (hLedger.free_of_mem hHeld))
  ne_root := by
    rintro rfl
    exact hLedger.unlinked_of_mem hOrigin hHeld _ (hLedger.self_linked hOrigin)
  unlinked := hLedger.unlinked_of_mem hOrigin hHeld

/-- What happens beside the tables moves no frame. -/
theorem aside (hLedger : Ledger origin before held) (hAside : Aside before after) :
    Ledger origin after held :=
  hLedger.congr hAside.stays hAside.source_eq (hAside.links _) hAside.link? fun page _ =>
    hAside.entries page

end Ledger

/-- The tiny machine with a frame allocated for one page. -/
def tinyWithPage (page : VirtualPage) : Machine (FrameBitmap 1) :=
  match (Action.allocatePage page.base Flags.kernelReadWrite.word).run tiny with
  | .done _ after => after
  | .fault _ _ => tiny

/-- Each frame of that machine has one owner. -/
theorem ledger_tinyWithPage (page : VirtualPage) : tiny.Ledger (tinyWithPage page) ∅ := by
  have hTiny := pristine_tiny.wellFormed
  have hLedger : ∀ reply after, tiny.Allocates Flags.kernelReadWrite.word reply after →
      tiny.Ledger after ∅ :=
    fun _ _ hAllocates => (Ledger.start tiny).allocated hTiny hAllocates
  obtain ⟨reply, after, hRun, hAllocates⟩ :=
    (Action.leads_allocatePage hTiny.stocked page.base Flags.kernelReadWrite.word).run_stays
      tiny.seenThrough_physical fun _ _ hAllocates => (hLedger _ _ hAllocates).stays.view
  have hSame : tinyWithPage page = after := by
    unfold tinyWithPage
    rw [hRun]
  rw [hSame]
  exact hLedger reply after hAllocates

theorem wellFormed_tinyWithPage (page : VirtualPage) : (tinyWithPage page).WellFormed :=
  (ledger_tinyWithPage page).wellFormed pristine_tiny.wellFormed

end Machine
end TwoLevelPaging
