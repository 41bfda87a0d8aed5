import TwoLevelPaging.Proofs.Ownership.Ledger

/-!
# How the edits move frames

One lemma for each edit, from a ledger before it to a ledger after it.  The frames
that the client holds change as the edit says; whatever else the edit does to the
machine is not seen by a ledger (`Ledger.congr`).
-/

namespace TwoLevelPaging
namespace Machine

variable {size : Nat} {origin before after : Machine (FrameBitmap size)}
  {held : Finset Frame} {frame table : Frame} {page : VirtualPage} {slot : Slot}

namespace Ledger

/-- A ledger sees the bitmap, the links and the entries below the self-map. -/
theorem congr (hLedger : Ledger origin before held) (hStays : Stays before after)
    (hSource : after.source = before.source)
    (hSelf : after.linkAt Layout.selfMapSlot = before.linkAt Layout.selfMapSlot)
    (hLinks : ∀ slot, after.link? slot = before.link? slot)
    (hEntries : ∀ page : VirtualPage, page.directorySlot ≠ Layout.selfMapSlot →
      after.entryAt page = before.entryAt page) : Ledger origin after held := by
  refine ⟨⟨hLedger.stays.trans hStays, ?_, ?_, hSelf.trans hLedger.self_link, ?_, ?_⟩, ?_⟩
  · rw [hSource, hLedger.limit]
  · intro number hNumber
    rw [hSource, hLedger.bits number hNumber]
  · intro slot table hLink
    rw [hLinks, hLedger.links hLink]
  · intro page hPage hUsed
    rw [hEntries page hPage, hLedger.pages hPage hUsed]
  · refine hLedger.balanced.congr ?_
    intro owner frame
    refine and_congr_right fun _ => ?_
    cases owner with
    | pool => simp only [Owns, Free, hSource]
    | client => rfl
    | page page => exact and_congr_right fun hPage => by rw [hEntries page hPage]
    | table slot => simp only [Owns, hLinks]

theorem unchanged (hLedger : Ledger origin before held) (hUnchanged : Unchanged before after) :
    Ledger origin after held :=
  hUnchanged.transfer (fun machine => Ledger origin machine held)
    (fun _ hBefore => hBefore.congr ⟨rfl, rfl, fun _ => Iff.rfl⟩ rfl rfl (fun _ => rfl)
      fun _ _ => rfl) hLedger

/-- A frame passes from one counted owner to another. -/
theorem move (hLedger : Ledger origin before held) (hKeeps : Keeps origin after)
    {next : Finset Frame} (frame : Frame) (giver taker : Owner)
    (hGiver : Holds origin before held giver frame) (hGone : ¬ after.Owns next giver frame)
    (hTaker : Holds origin after next taker frame)
    (hOthers : ∀ owner, owner ≠ giver → owner ≠ taker →
      ∀ other, after.Owns next owner other ↔ before.Owns held owner other)
    (hGives : ∀ other, other ≠ frame →
      (after.Owns next giver other ↔ before.Owns held giver other))
    (hTakes : ∀ other, other ≠ frame →
      (after.Owns next taker other ↔ before.Owns held taker other)) :
    Ledger origin after next := by
  refine ⟨hKeeps, hLedger.balanced.move frame giver taker hGiver
    (fun hStill => hGone hStill.2) hTaker ?_ ?_ ?_⟩
  · intro owner hGiverOwner hTakerOwner other
    exact and_congr_right fun _ => hOthers owner hGiverOwner hTakerOwner other
  · intro other hOther
    exact and_congr_right fun _ => hGives other hOther
  · intro other hOther
    exact and_congr_right fun _ => hTakes other hOther

end Ledger

/-- The client's other frames are not touched when it gets one. -/
theorem owns_client_insert {other : Frame} (hOther : other ≠ frame) :
    after.Owns (insert frame held) .client other ↔ before.Owns held .client other := by
  simp only [Owns, Finset.mem_insert, hOther, false_or]

/-- The client's other frames are not touched when it gives one away. -/
theorem owns_client_erase {other : Frame} (hOther : other ≠ frame) :
    after.Owns (held.erase frame) .client other ↔ before.Owns held .client other := by
  simp only [Owns, Finset.mem_erase, ne_eq, hOther, not_false_eq_true, true_and]

/-! ## Between the pool and the client -/

section Draw

variable {pool : FrameBitmap size} {events : List Event} {occupied : Bool}

/-- A bit of the bitmap is seen by the pool only. -/
theorem owns_draw {next : Finset Frame} {owner : Owner} (hPool : owner ≠ .pool)
    (hClient : owner ≠ .client) (other : Frame) :
    (before.draw pool events).Owns next owner other ↔ before.Owns held owner other := by
  cases owner with
  | pool => exact absurd rfl hPool
  | client => exact absurd rfl hClient
  | page page => rfl
  | table slot => rfl

theorem owns_pool_draw (hMarks : before.source.Marks pool frame.number occupied)
    {next : Finset Frame} {other : Frame} (hOther : other ≠ frame) :
    (before.draw pool events).Owns next .pool other ↔ before.Owns held .pool other := by
  have hNumber : other.number ≠ frame.number := fun hSame => hOther (Page.ext hSame)
  simp only [Owns, Free, source_draw, hMarks.freeAt_of_ne hNumber]

/-- The bit of a frame that was free in the origin, and is not frame zero, may change. -/
theorem keeps_draw (hKeeps : Keeps origin before)
    (hMarks : before.source.Marks pool frame.number occupied) (hPositive : 0 < frame.number)
    (hFree : origin.Free frame) : Keeps origin (before.draw pool events) := by
  refine ⟨hKeeps.stays.trans (before.stays_draw pool events), ?_, ?_, hKeeps.self_link,
    hKeeps.links, hKeeps.pages⟩
  · rw [source_draw, hMarks.limit, hKeeps.limit]
  · intro number hNumber
    have hOther : number ≠ frame.number := by
      rintro rfl
      rcases hNumber with hZero | hOccupied
      · omega
      · rw [hFree] at hOccupied
        cases hOccupied
    rw [source_draw, hMarks.others number hOther, hKeeps.bits number hNumber]

end Draw

namespace Ledger

/-- The pool gives a frame to the client. -/
theorem taken (hLedger : Ledger origin before held) (hOrigin : origin.WellFormed)
    (hTaken : Taken before (some frame) after) : Ledger origin after (insert frame held) := by
  obtain ⟨hPositive, hFree, hMarks⟩ := hTaken.marks (hLedger.wellFormed hOrigin).stocked
  have hGone := hMarks.freeAt_same (FrameBitmap.lt_limit_of_freeAt hFree)
  obtain ⟨pool, events, -, rfl⟩ := hTaken
  rw [source_draw] at hMarks hGone
  refine hLedger.move (keeps_draw hLedger.toKeeps hMarks hPositive (hLedger.freeAt_origin hFree))
    frame .pool .client ⟨trivial, hFree⟩ ?_ ⟨trivial, Finset.mem_insert_self frame held⟩ ?_ ?_ ?_
  · intro hStill
    simp only [Owns, Free, source_draw, hGone] at hStill
    cases hStill
  · intro owner hPool hClient
    exact owns_draw hPool hClient
  · intro other hOther
    exact owns_pool_draw hMarks hOther
  · intro other hOther
    exact owns_client_insert hOther

/-- The client gives a frame back to the pool. -/
theorem released (hLedger : Ledger origin before held) (hOrigin : origin.WellFormed)
    (hHeld : frame ∈ held) (hReleased : Released before frame after) :
    Ledger origin after (held.erase frame) := by
  have hPositive := hLedger.held_positive hHeld
  have hFree := hLedger.free_of_mem hHeld
  have hManaged : frame.number < before.source.limit := by
    rw [hLedger.limit]
    exact FrameBitmap.lt_limit_of_freeAt hFree
  have hMarks := hReleased.marks (hLedger.wellFormed hOrigin).sound hPositive hManaged
  obtain ⟨pool, events, -, rfl⟩ := hReleased
  rw [source_draw] at hMarks
  refine hLedger.move (keeps_draw hLedger.toKeeps hMarks hPositive hFree) frame .client .pool
    ⟨trivial, hHeld⟩ (Finset.notMem_erase frame held)
    ⟨trivial, hMarks.freeAt_same hManaged⟩ ?_ ?_ ?_
  · intro owner hClient hPool
    exact owns_draw hPool hClient
  · intro other hOther
    exact owns_client_erase hOther
  · intro other hOther
    exact owns_pool_draw hMarks hOther

end Ledger

/-! ## Between the client and the directory -/

/-- A new table is seen by its slot only. -/
theorem owns_prepared (hPrepared : Prepared before after slot table)
    (hSource : after.source = before.source) {next : Finset Frame} {owner : Owner}
    (hClient : owner ≠ .client) (hOwner : owner ≠ .table slot) (other : Frame) :
    after.Owns next owner other ↔ before.Owns held owner other := by
  cases owner with
  | pool => simp only [Owns, Free, hSource]
  | client => exact absurd rfl hClient
  | page page => exact and_congr_right fun hPage => by rw [hPrepared.entries page hPage]
  | table another =>
      have hDifferent : slot ≠ another := by
        rintro rfl
        exact hOwner rfl
      simp only [Owns, hPrepared.link?_of_ne hDifferent]

namespace Ledger

/-- A frame of the client becomes the table of a slot. -/
theorem linked (hLedger : Ledger origin before held) (hSlot : slot ≠ Layout.selfMapSlot)
    (hTable : table ∈ held) (hLink : before.link? slot = none)
    (hPrepared : Prepared before after slot table) (hSource : after.source = before.source) :
    Ledger origin after (held.erase table) := by
  have hNew : origin.link? slot = none := by
    by_contra hOld
    obtain ⟨old, hOld⟩ := Option.ne_none_iff_exists'.mp hOld
    rw [hLedger.links hOld] at hLink
    cases hLink
  have hKeeps : Keeps origin after := by
    refine ⟨hLedger.stays.trans hPrepared.stays, ?_, ?_, ?_, ?_, ?_⟩
    · rw [hSource, hLedger.limit]
    · intro number hNumber
      rw [hSource, hLedger.bits number hNumber]
    · rw [hPrepared.linkAt_of_ne _ hSlot, hLedger.self_link]
    · intro other otherTable hOther
      have hDifferent : slot ≠ other := by
        rintro rfl
        rw [hNew] at hOther
        cases hOther
      rw [hPrepared.link?_of_ne hDifferent, hLedger.links hOther]
    · intro page hPage hUsed
      rw [hPrepared.entries page hPage, hLedger.pages hPage hUsed]
  refine hLedger.move hKeeps table .client (.table slot) ⟨trivial, hTable⟩
    (Finset.notMem_erase table held) ⟨hNew, hSlot, hPrepared.linked⟩ ?_ ?_ ?_
  · intro owner hClient hOwner
    exact owns_prepared hPrepared hSource hClient hOwner
  · intro other hOther
    exact owns_client_erase hOther
  · intro other hOther
    simp [Owns, hLink, hPrepared.linked, Ne.symm hOther]

/-- Providing a table leaves the client with what it had: a new table comes from the
pool. -/
theorem ensured (hLedger : Ledger origin before held) (hOrigin : origin.WellFormed)
    (hSlot : slot ≠ Layout.selfMapSlot) {user : Bool} {result : Except LinkError Frame}
    (hEnsured : Ensured before slot user result after) : Ledger origin after held := by
  have hBefore := (hLedger.wellFormed hOrigin).walkable
  cases hEnsured with
  | present hLink =>
      rename_i table
      have hPrepared := prepared_widen hBefore.navigable hSlot hLink user
      refine hLedger.congr hPrepared.stays (source_widen before slot table user)
        (hPrepared.linkAt_of_ne _ hSlot) ?_ hPrepared.entries
      intro other
      by_cases hSame : slot = other
      · rw [← hSame, hPrepared.linked, hLink]
      · exact hPrepared.link?_of_ne hSame
  | fresh hLink hTake hFresh =>
      rename_i table pool events
      have hTaken : Taken before (some table) (before.draw pool events) := ⟨_, _, hTake, rfl⟩
      have hFree := (hTaken.marks (hLedger.wellFormed hOrigin).stocked).2.1
      have hDrawn := hTaken.walkable hBefore
      have hPrepared := prepared_grow hDrawn.navigable hSlot hLink
        ⟨hFresh.installed, hFresh.ne_root, hFresh.unlinked⟩ user
      -- The client holds the frame for a moment only: what it gets is what it gives.
      have hMoved := (hLedger.taken hOrigin hTaken).linked hSlot
        (Finset.mem_insert_self table held) hLink hPrepared rfl
      rwa [Finset.erase_insert (hLedger.not_mem_of_free hFree)] at hMoved
  | starved hLink hTake =>
      rename_i pool events
      have hTaken : Taken before none (before.draw pool events) := ⟨_, _, hTake, rfl⟩
      exact hLedger.unchanged (hTaken.unchanged (hLedger.wellFormed hOrigin).sound)

end Ledger

/-! ## Between the client and a page -/

section Rewrites

variable {entry : Entry}

/-- The entry of a page is seen by this page only. -/
theorem owns_rewrites (hRewrites : Rewrites before after page entry) {next : Finset Frame}
    {owner : Owner} (hClient : owner ≠ .client) (hOwner : owner ≠ .page page) (other : Frame) :
    after.Owns next owner other ↔ before.Owns held owner other := by
  cases owner with
  | pool => simp only [Owns, Free, hRewrites.source_eq]
  | client => exact absurd rfl hClient
  | page another =>
      have hDifferent : another ≠ page := by
        rintro rfl
        exact hOwner rfl
      refine and_congr_right fun hAnother => ?_
      rw [hRewrites.entries another hAnother, if_neg hDifferent]
  | table slot => simp only [Owns, hRewrites.link?_eq]

/-- A change of one counted page is none of what was in use in the origin. -/
theorem keeps_rewrites (hKeeps : Keeps origin before) (hTracked : origin.entryAt page = Entry.zero)
    (hRewrites : Rewrites before after page entry) : Keeps origin after := by
  refine ⟨hKeeps.stays.trans hRewrites.stays, ?_, ?_, ?_, ?_, ?_⟩
  · rw [hRewrites.source_eq, hKeeps.limit]
  · intro number hNumber
    rw [hRewrites.source_eq, hKeeps.bits number hNumber]
  · rw [hRewrites.links, hKeeps.self_link]
  · intro slot table hLink
    rw [hRewrites.link?_eq, hKeeps.links hLink]
  · intro other hOther hUsed
    have hDifferent : other ≠ page := by
      rintro rfl
      exact hUsed hTracked
    rw [hRewrites.entries other hOther, if_neg hDifferent, hKeeps.pages hOther hUsed]

end Rewrites

namespace Ledger

/-- A frame of the client is stored for a page that stores none. -/
theorem filled (hLedger : Ledger origin before held)
    (hPage : page.directorySlot ≠ Layout.selfMapSlot) (hTracked : origin.entryAt page = Entry.zero)
    (hHeld : frame ∈ held) (hEmpty : (before.entryAt page).storedFrame? = none) {entry : Entry}
    (hStored : entry.storedFrame? = some frame) (hRewrites : Rewrites before after page entry) :
    Ledger origin after (held.erase frame) := by
  have hEntry : (after.entryAt page).storedFrame? = some frame := by
    rw [hRewrites.entries page hPage, if_pos rfl, hStored]
  refine hLedger.move (keeps_rewrites hLedger.toKeeps hTracked hRewrites) frame .client
    (.page page) ⟨trivial, hHeld⟩ (Finset.notMem_erase frame held) ⟨hTracked, hPage, hEntry⟩
    ?_ ?_ ?_
  · intro owner hClient hOwner
    exact owns_rewrites hRewrites hClient hOwner
  · intro other hOther
    exact owns_client_erase hOther
  · intro other hOther
    simp [Owns, hEntry, hEmpty, Ne.symm hOther]

/-- The frame of a cleared page passes to the client. -/
theorem vacated (hLedger : Ledger origin before held)
    (hPage : page.directorySlot ≠ Layout.selfMapSlot) (hTracked : origin.entryAt page = Entry.zero)
    (hStored : (before.entryAt page).storedFrame? = some frame)
    (hRewrites : Rewrites before after page Entry.zero) :
    Ledger origin after (insert frame held) := by
  have hEntry : (after.entryAt page).storedFrame? = none := by
    rw [hRewrites.entries page hPage, if_pos rfl, Entry.storedFrame?_zero]
  refine hLedger.move (keeps_rewrites hLedger.toKeeps hTracked hRewrites) frame (.page page)
    .client ⟨hTracked, hPage, hStored⟩ ?_ ⟨trivial, Finset.mem_insert_self frame held⟩ ?_ ?_ ?_
  · intro hStill
    simp [Owns, hEntry] at hStill
  · intro owner hOwner hClient
    exact owns_rewrites hRewrites hClient hOwner
  · intro other hOther
    simp [Owns, hEntry, hStored, Ne.symm hOther]
  · intro other hOther
    exact owns_client_insert hOther

/-- Clearing a page that stores no frame moves none. -/
theorem vacated_unused (hLedger : Ledger origin before held)
    (hStored : (before.entryAt page).storedFrame? = none)
    (hRewrites : Rewrites before after page Entry.zero) : Ledger origin after held := by
  refine hLedger.congr hRewrites.stays hRewrites.source_eq (hRewrites.links _)
    hRewrites.link?_eq ?_
  intro other hOther
  rw [hRewrites.entries other hOther]
  split
  · rename_i hSame
    rw [hSame, (Entry.storedFrame?_eq_none_iff _).mp hStored]
  · rfl

/-- A mapping that is placed over another one clears that one first, as far as a
ledger can tell. -/
theorem replaced (hLedger : Ledger origin before held) (hOrigin : origin.WellFormed)
    (hPage : page.directorySlot ≠ Layout.selfMapSlot) (hTracked : origin.entryAt page = Entry.zero)
    (hHeld : frame ∈ held) {displaced : Frame}
    (hDisplaced : (before.entryAt page).storedFrame? = some displaced) {entry : Entry}
    (hStored : entry.storedFrame? = some frame) (hRewrites : Rewrites before after page entry) :
    Ledger origin after ((insert displaced held).erase frame) := by
  have hVacate := rewrites_vacate (hLedger.wellFormed hOrigin).walkable.toSeparated hPage
  have hEmpty : ((before.vacate page).entryAt page).storedFrame? = none := by
    rw [hVacate.entries page hPage, if_pos rfl, Entry.storedFrame?_zero]
  exact (hLedger.vacated hPage hTracked hDisplaced hVacate).filled hPage hTracked
    (Finset.mem_insert_of_mem hHeld) hEmpty hStored (hRewrites.after_vacate hVacate)

/-- A mapping that is refused moves nothing. -/
theorem not_installed (hLedger : Ledger origin before held) (hOrigin : origin.WellFormed)
    (hPage : page.directorySlot ≠ Layout.selfMapSlot) {flags : UInt32} {forced : Bool}
    {cause : LinkError}
    (hInstalls : Installs before page frame flags forced (.error cause) after) :
    Ledger origin after held := by
  cases hInstalls with
  | refused hEnsured => exact hLedger.ensured hOrigin hPage hEnsured
  | occupied hEnsured hUsed hForced => exact hLedger.ensured hOrigin hPage hEnsured

/-- A mapping that is placed takes its frame from the client, and hands the frame to
it that it displaces. -/
theorem installed (hLedger : Ledger origin before held) (hOrigin : origin.WellFormed)
    (hPage : page.directorySlot ≠ Layout.selfMapSlot) (hTracked : origin.entryAt page = Entry.zero)
    (hHeld : frame ∈ held) {flags : UInt32} {forced : Bool} {displaced : Option Frame}
    (hInstalls : Installs before page frame flags forced (.ok displaced) after) :
    (displaced = none → Ledger origin after (held.erase frame)) ∧
      ∀ other, displaced = some other →
        other ∉ held ∧ Ledger origin after ((insert other held).erase frame) := by
  have hBefore := (hLedger.wellFormed hOrigin).walkable
  obtain ⟨table, prepared, hEnsured, hAllowed, hStored, rfl⟩ := hInstalls.exists_place
  have hPrepared := hEnsured.prepared hBefore.navigable hPage
  have hProvided := hLedger.ensured hOrigin hPage hEnsured
  have hRewrites := rewrites_place hPrepared.navigable.toSeparated hPage hPrepared.linked
    (Entry.leaf frame flags)
  have hLeaf := Entry.storedFrame?_leaf (Nat.pos_iff_ne_zero.mp (hLedger.held_positive hHeld))
    flags
  rw [← hPrepared.entries page hPage] at hStored
  constructor
  · rintro rfl
    exact hProvided.filled hPage hTracked hHeld hStored.symm hLeaf hRewrites
  · rintro other rfl
    exact ⟨hProvided.not_mem_of_stored hPage hTracked hStored.symm,
      hProvided.replaced hOrigin hPage hTracked hHeld hStored.symm hLeaf hRewrites⟩

/-- The frame of a released page goes back to the pool. -/
theorem emptied (hLedger : Ledger origin before held) (hOrigin : origin.WellFormed)
    (hPage : page.directorySlot ≠ Layout.selfMapSlot) (hTracked : origin.entryAt page = Entry.zero)
    (hEmpties : Empties before page after) : Ledger origin after held := by
  have hVacate := rewrites_vacate (hLedger.wellFormed hOrigin).walkable.toSeparated hPage
  cases hEmpties with
  | unused hStored => exact hLedger.vacated_unused hStored hVacate
  | returned hStored hReleased =>
      have hMoved := (hLedger.vacated hPage hTracked hStored hVacate).released hOrigin
        (Finset.mem_insert_self _ held) hReleased
      rwa [Finset.erase_insert (hLedger.not_mem_of_stored hPage hTracked hStored)] at hMoved

end Ledger

end Machine
end TwoLevelPaging
