import TwoLevelPaging.Proofs.HiddenTables
import TwoLevelPaging.Proofs.Identity.Lock
import TwoLevelPaging.Proofs.Identity.LockedPages

/-!
# What locking and unlocking count

Both loops answer with a number of pages.  Locking asks the result of each request, so a page
that is listed twice is counted twice: the second time it is in place already.  Unlocking asks
the entry of each page, which is clear the second time, so it counts every page once.

The runs are read backwards from answers that are no errors.  `Machine.Counted` is what locking
has done then: each listed page is reserved or in use, and no page in use has changed.  So the
pages that it has counted are those that hold their own frames at the end (`HoldsOwn`), as often
as they are listed, if no entry is in use without being present (`Overt`).  The same pages are
cleared by unlocking (`sweeps_of_run_clearPages`).  The two numbers agree exactly if none of
these pages is listed twice (`lockReserved_unlockReserved_counts`).

The last directory slot need not name the directory, so this covers a view by physical address
of any directory, active or not.
-/

namespace TwoLevelPaging

open MemoryRegion (pagesOf)

/-- A list has as many elements with a property as there are different ones exactly if none of
them is repeated. -/
theorem Page.countP_mem_eq_card_iff {pages : List VirtualPage} {chosen : Finset VirtualPage}
    (hChosen : ∀ page ∈ chosen, page ∈ pages) :
    chosen.card ≤ pages.countP (· ∈ chosen) ∧
      (pages.countP (· ∈ chosen) = chosen.card ↔ (pages.filter (· ∈ chosen)).Nodup) := by
  have hSame : (pages.filter (· ∈ chosen)).toFinset = chosen := by
    ext page
    simp only [List.mem_toFinset, List.mem_filter, decide_eq_true_eq]
    exact ⟨And.right, fun hPage => ⟨hChosen page hPage, hPage⟩⟩
  rw [List.countP_eq_length_filter]
  constructor
  · calc chosen.card = (pages.filter (· ∈ chosen)).toFinset.card := by rw [hSame]
      _ ≤ (pages.filter (· ∈ chosen)).length := List.toFinset_card_le _
  · have hNodup : (pages.filter (· ∈ chosen)).toFinset.card =
        (pages.filter (· ∈ chosen)).length ↔ (pages.filter (· ∈ chosen)).Nodup :=
      Multiset.toFinset_card_eq_card_iff_nodup
    rw [hSame] at hNodup
    exact eq_comm.trans hNodup

namespace Machine

variable {size : Nat} {machine before middle after last : Machine (FrameBitmap size)}
  {page : VirtualPage} {pages first second : List VirtualPage} {numbers : List Nat}

/-- Below the self-map, an entry that is not free is present. -/
def Overt (machine : Machine (FrameBitmap size)) : Prop :=
  ∀ page : VirtualPage, page.directorySlot ≠ Layout.selfMapSlot →
    (machine.entryAt page).isFree = true ∨ (machine.entryAt page).present = true

/-- The page is not reserved, and it maps its own frame. -/
def HoldsOwn (machine : Machine (FrameBitmap size)) (page : VirtualPage) : Prop :=
  Layout.isReserved page = false ∧ machine.MapsOwn page

instance (machine : Machine (FrameBitmap size)) (page : VirtualPage) :
    Decidable (machine.HoldsOwn page) :=
  inferInstanceAs (Decidable (_ ∧ _ = _))

/-! ## What locking leaves -/

/-- Locking makes no entry that is in use without being present. -/
theorem Locks.overt (hLocks : Locks before after numbers) (hOvert : before.Overt) :
    after.Overt := by
  intro page hPage
  rcases hLocks.entries page hPage with hKept | ⟨-, -, hMapped⟩
  · rw [hKept]
    exact hOvert page hPage
  · rw [hMapped]
    exact .inr rfl

/-- A page in use keeps its entry. -/
theorem Locks.entryAt_of_used (hLocks : Locks before after numbers)
    (hPage : page.directorySlot ≠ Layout.selfMapSlot)
    (hUsed : (before.entryAt page).isFree = false) : after.entryAt page = before.entryAt page := by
  rcases hLocks.entries page hPage with hKept | ⟨hUnused, -⟩
  · exact hKept
  · exact absurd (hUsed.symm.trans hUnused) (by decide)

/-- A page can be locked afterwards exactly if it could be before. -/
theorem Locks.lockable_iff (hLocks : Locks before after numbers) :
    after.Lockable page ↔ before.Lockable page := by
  refine and_congr_right ?_
  intro hReserved
  rcases hLocks.entries page (Layout.directorySlot_ne_of_not_reserved hReserved) with
    hKept | ⟨hUnused, -, hMapped⟩
  · rw [hKept]
  · have hLocked : after.entryAt page = Entry.locked page := hMapped
    rw [hLocked]
    exact iff_of_true (.inr (Entry.storedFrame?_locked page)) (.inl hUnused)

/-- Of the pages in use, those can be locked that hold their own frames. -/
theorem Overt.lockable_iff (hOvert : machine.Overt)
    (hSettled : Layout.isReserved page = true ∨ (machine.entryAt page).isFree = false) :
    machine.Lockable page ↔ machine.HoldsOwn page := by
  refine and_congr_right ?_
  intro hReserved
  have hUsed : (machine.entryAt page).isFree = false := by
    rcases hSettled with hGuarded | hUsed
    · exact absurd (hReserved.symm.trans hGuarded) (by decide)
    · exact hUsed
  have hPresent : (machine.entryAt page).present = true :=
    (hOvert page (Layout.directorySlot_ne_of_not_reserved hReserved)).resolve_left (by simp [hUsed])
  simp [MapsOwn, Entry.storedFrame?, Entry.presentFrame?, hUsed, hPresent]

/-- What locking a list of pages does if it is not cut short: each of them is reserved or in
use afterwards, and the tables are reached as before. -/
structure Counted (before after : Machine (FrameBitmap size)) (pages : List VirtualPage) :
    Prop where
  locks : Locks before after (pages.map Page.number)
  view : after.view = before.view
  seen : after.SeenThrough after.view
  settled : ∀ page ∈ pages,
    Layout.isReserved page = true ∨ (after.entryAt page).isFree = false

theorem Counted.trans (hFirst : Counted before middle first)
    (hSecond : Counted middle after second) : Counted before after (first ++ second) where
  locks := by
    rw [List.map_append]
    exact hFirst.locks.trans hSecond.locks
  view := hSecond.view.trans hFirst.view
  seen := hSecond.seen
  settled := by
    intro page hPage
    rcases List.mem_append.mp hPage with hEarly | hLate
    · cases hReserved : Layout.isReserved page with
      | true => exact .inl rfl
      | false =>
          have hUsed := (hFirst.settled page hEarly).resolve_left (by simp [hReserved])
          have hSlot := Layout.directorySlot_ne_of_not_reserved hReserved
          rw [hSecond.locks.entryAt_of_used hSlot hUsed]
          exact .inr hUsed
    · exact hSecond.settled page hLate

/-- If nothing has changed, all pages are settled that were so before. -/
theorem counted_of_unchanged (hStocked : before.Stocked)
    (hSeen : before.SeenThrough before.view) (hUnchanged : Unchanged before after)
    (hSettled : ∀ page ∈ pages,
      Layout.isReserved page = true ∨ (before.entryAt page).isFree = false) :
    Counted before after pages where
  locks := (Locks.of_unchanged hStocked hUnchanged).widen (by simp)
  view := hUnchanged.view
  seen := by
    obtain ⟨events, rfl⟩ := hUnchanged.exists_eq_draw
    exact hSeen
  settled := by
    obtain ⟨events, rfl⟩ := hUnchanged.exists_eq_draw
    exact hSettled

/-- A page that has been dealt with is counted exactly if it could be locked. -/
theorem SetsOwn.counted (hStocked : machine.Stocked) (hSeen : machine.SeenThrough machine.view)
    {reply : Except MapError Unit} (hSets : machine.SetsOwn page reply after)
    (hReply : reply ≠ .error .outOfMemory) :
    Counted machine after [page] ∧ (machine.Lockable page ↔ reply = .ok ()) := by
  cases hSets with
  | starved hTaken => exact absurd rfl hReply
  | placed hAvailable hInstalls =>
      have hSlot := hAvailable.directorySlot_ne
      have hSets : machine.Sets page (Page.ofNumber page.number) Flags.kernelReadOnly.word
          (.ok ()) after :=
        .placed hAvailable.2 hInstalls
      have hNavigable : machine.Navigable := hStocked.navigable_under hSeen
      have hView := (hInstalls.stays_of_ok hNavigable hSlot).view
      obtain ⟨hRoot, hSelf⟩ := hInstalls.self_link hStocked.toTraversable hSlot
      obtain ⟨-, -, hEntries⟩ := hInstalls.entries_of_ok hNavigable hSlot
      refine ⟨⟨hSets.locks hStocked, hView, ?_, ?_⟩,
        iff_of_true ⟨hAvailable.2, .inl hAvailable.1⟩ rfl⟩
      · rw [hView]
        exact hSeen.congr hRoot hSelf
      · intro other hOther
        obtain rfl := List.mem_singleton.mp hOther
        rw [hEntries _ hSlot, if_pos rfl]
        exact .inr (Entry.isFree_locked _)
  | stored hReserved hUsed hStored =>
      exact ⟨counted_of_unchanged hStocked hSeen (.refl _) (by simp [hUsed]),
        iff_of_true ⟨hReserved, .inr hStored⟩ rfl⟩
  | guarded hReserved hUnchanged =>
      refine ⟨counted_of_unchanged hStocked hSeen hUnchanged (by simp [hReserved]),
        iff_of_false ?_ (by simp)⟩
      intro hLockable
      exact absurd (hReserved.symm.trans hLockable.1) (by decide)
  | taken hUsed hOther =>
      refine ⟨counted_of_unchanged hStocked hSeen (.refl _) (by simp [hUsed]),
        iff_of_false ?_ (by simp)⟩
      rintro ⟨-, hUnused | hOwn⟩
      · exact absurd (hUsed.symm.trans hUnused) (by decide)
      · exact hOther hOwn

end Machine

namespace Action

variable {size : Nat} {machine after last : Machine (FrameBitmap size)}
  {regions : List MemoryRegion}

/-! ## Locking, from its answer -/

/-- Locking a list of frames has counted the pages that could be locked, as often as they are
listed. -/
theorem counted_of_run_lockFrames {numbers : List Nat} {mapped total : Nat}
    (hStocked : machine.Stocked) (hSeen : machine.SeenThrough machine.view)
    (hRun : (lockFrames mapped numbers).run machine = .done (.ok total) after) :
    machine.Counted after (pagesOf numbers) ∧
      total = mapped + (pagesOf numbers).countP fun page => machine.Lockable page := by
  -- Induction on the frames that are left, from whatever machine the earlier ones leave.
  induction numbers generalizing machine mapped with
  | nil =>
      obtain ⟨hTotal, rfl⟩ := Outcome.done.inj hRun
      exact ⟨Machine.counted_of_unchanged hStocked hSeen (.refl _) (List.forall_mem_nil _),
        (Except.ok.inj hTotal).symm⟩
  | cons number rest ih =>
      obtain ⟨reply, next, hStep, hSets⟩ := exists_run_setOwn_number hStocked hSeen number
      rw [lockFrames] at hRun
      simp only [run_bind, hStep, Outcome.andThen_done] at hRun
      have hReply : reply ≠ .error .outOfMemory := by
        rintro rfl
        cases hRun
      obtain ⟨hCounted, hLockable⟩ := hSets.counted hStocked hSeen hReply
      have hRest : ∀ {count : Nat} {reached : Machine (FrameBitmap size)},
          machine.Counted reached [Page.ofNumber number] →
          count = mapped + (if machine.Lockable (Page.ofNumber number) then 1 else 0) →
          (lockFrames count rest).run reached = .done (.ok total) after →
          machine.Counted after (pagesOf (number :: rest)) ∧
            total = mapped +
              (pagesOf (number :: rest)).countP fun page => machine.Lockable page := by
        intro count reached hReached hCount hLast
        obtain ⟨hLater, hTotal⟩ := ih hReached.locks.stocked hReached.seen hLast
        refine ⟨hReached.trans hLater, ?_⟩
        simp only [hReached.locks.lockable_iff] at hTotal
        simp only [pagesOf, List.map_cons, List.countP_cons, decide_eq_true_eq] at hTotal ⊢
        omega
      cases reply with
      | ok value =>
          by_cases hFits : mapped + 1 < 0x100000000
          · have hWord : Checked.word (mapped + 1) = .ok (mapped + 1) := if_pos hFits
            simp only [hWord, run_bind, run_check_ok, Outcome.andThen_done] at hRun
            exact hRest hCounted (by rw [if_pos (hLockable.mpr rfl)]) hRun
          · have hWord : Checked.word (mapped + 1) = .error .overflow := if_neg hFits
            simp only [hWord, run_bind, run_check_error, Outcome.andThen_fault] at hRun
            cases hRun
      | error error =>
          have hSkipped : ∀ event,
              (lockFrames mapped rest).run (next.note (.reported event)) =
                .done (.ok total) after →
              machine.Counted after (pagesOf (number :: rest)) ∧
                total = mapped +
                  (pagesOf (number :: rest)).countP fun page => machine.Lockable page := by
            intro event hLast
            have hNoted : next.Counted (next.note (.reported event)) [] :=
              Machine.counted_of_unchanged hCounted.locks.stocked hCounted.seen
                (next.unchanged_note event) (List.forall_mem_nil _)
            have hRefused : ¬ machine.Lockable (Page.ofNumber number) := by
              rw [hLockable]
              simp
            exact hRest (hCounted.trans hNoted) (by rw [if_neg hRefused, Nat.add_zero]) hLast
          cases error with
          | protectedRegion => exact hSkipped _ hRun
          | conflict => exact hSkipped _ hRun
          | _ => cases hRun

/-- If no entry is in use without being present, locking has counted the pages that hold their
own frames at the end. -/
theorem counted_of_run_lockReserved (hStocked : machine.Stocked)
    (hSeen : machine.SeenThrough machine.view) (hOvert : machine.Overt) {frames : List Nat}
    (hFrames : MemoryRegion.reservedFrames regions = .ok frames) {total : Nat}
    (hRun : (lockReserved regions).run machine = .done (.ok total) after) :
    after.Stocked ∧ after.SeenThrough after.view ∧
      total = (pagesOf frames).countP fun page => after.HoldsOwn page := by
  simp only [lockReserved, hFrames, run_bind, run_check_ok, Outcome.andThen_done] at hRun
  cases hLoop : (lockFrames 0 frames).run machine with
  | fault cause journal =>
      rw [hLoop] at hRun
      cases hRun
  | done result reached =>
      rw [hLoop] at hRun
      cases result with
      | error error => cases hRun
      | ok mapped =>
          obtain ⟨hTotal, rfl⟩ := Outcome.done.inj hRun
          obtain ⟨hCounted, hMapped⟩ := counted_of_run_lockFrames hStocked hSeen hLoop
          have hNoted : reached.Counted _ [] :=
            Machine.counted_of_unchanged hCounted.locks.stocked hCounted.seen
              (reached.unchanged_note (.reservedPagesMapped mapped)) (List.forall_mem_nil _)
          have hLast := hCounted.trans hNoted
          rw [List.append_nil] at hLast
          refine ⟨hLast.locks.stocked, hLast.seen, ?_⟩
          rw [← Except.ok.inj hTotal, hMapped, Nat.zero_add]
          refine List.countP_congr fun page hPage => ?_
          rw [decide_eq_true_iff, decide_eq_true_iff, ← hLast.locks.lockable_iff]
          exact (hLast.locks.overt hOvert).lockable_iff (hLast.settled page hPage)

/-! ## Unlocking, from its answer -/

/-- The test on pages that are not reserved. -/
def unguarded (test : VirtualPage → Mapping → Bool) (page : VirtualPage) (mapping : Mapping) :
    Bool :=
  !Layout.isReserved page && test page mapping

theorem run_unmapDevice_of_reserved {page : VirtualPage}
    (hReserved : Layout.isReserved page = true) :
    (unmapDevice page.base).run machine = .done (.error .protectedRegion)
      (machine.note (.reported (.requestRefused .unmapDevice page.base))) := by
  have hRefused : (refuseReserved .unmapDevice page.base).run machine = _ :=
    run_refuseReserved_of_reserved .unmapDevice ((Page.containing_base page).symm ▸ hReserved)
  simp only [unmapDevice, alignedPage_base, run_bind, hRefused, Outcome.andThen_done]
  rfl

/-- If the loop has met no reserved page that passes the test, it has cleared the others that
pass, and counted each of them once. -/
theorem sweeps_of_run_clearPages {test : VirtualPage → Mapping → Bool}
    (hZero : ∀ page, test page {} = false) {pages : List VirtualPage} {cleared total : Nat}
    (hTraversable : machine.Traversable) (hSeen : machine.SeenThrough machine.view)
    (hRun : (clearPages test cleared pages).run machine = .done (.ok total) last) :
    total = cleared + (machine.selected (unguarded test) pages).card ∧
      machine.Sweeps last (machine.selected (unguarded test) pages) := by
  induction pages generalizing machine cleared with
  | nil =>
      obtain ⟨hTotal, rfl⟩ := Outcome.done.inj hRun
      exact ⟨(Except.ok.inj hTotal).symm, .refl _⟩
  | cons page rest ih =>
      have hNavigable : machine.Navigable := hTraversable.navigable_under hSeen
      have hLookup := run_lookup hNavigable (hSeen.1.visible page.directorySlot)
        fun _ => hTraversable.linked_installed
      rw [clearPages] at hRun
      simp only [run_bind, hLookup, Outcome.andThen_done] at hRun
      cases hTest : test page (Mapping.ofEntry (machine.entryAt page)) with
      | false =>
          simp only [hTest, Bool.false_eq_true, if_false] at hRun
          rw [Machine.selected_cons_of_fails (by simp [unguarded, hTest])]
          exact ih hTraversable hSeen hRun
      | true =>
          simp only [hTest, if_true, run_bind] at hRun
          cases hReserved : Layout.isReserved page with
          | true =>
              rw [run_unmapDevice_of_reserved hReserved] at hRun
              cases hRun
          | false =>
              rw [run_unmapDevice hNavigable (hSeen.1.visible _) hReserved] at hRun
              simp only [Outcome.andThen_done, run_bind] at hRun
              have hSlot := Layout.directorySlot_ne_of_not_reserved hReserved
              have hRewrites := Machine.rewrites_vacate hTraversable.toSeparated hSlot
              -- A page of the self-map is reserved, so it does not pass before or afterwards.
              have hSame : ∀ other ∈ rest, other ≠ page →
                  unguarded test other (Mapping.ofEntry ((machine.vacate page).entryAt other)) =
                    unguarded test other (Mapping.ofEntry (machine.entryAt other)) := by
                intro other _ hOther
                cases hGuarded : Layout.isReserved other with
                | true => simp [unguarded, hGuarded]
                | false =>
                    rw [hRewrites.entries other
                      (Layout.directorySlot_ne_of_not_reserved hGuarded), if_neg hOther]
              obtain ⟨hNew, hSelected⟩ := Machine.selected_cons_of_passes hSame
                (by simp [unguarded, hTest, hReserved]) hSlot
                (fun other => by simp [unguarded, hZero]) hRewrites
              have hNextSeen : (machine.vacate page).SeenThrough (machine.vacate page).view := by
                rw [hRewrites.stays.view]
                exact hSeen.congr hRewrites.stays.root (hRewrites.link?_eq _)
              by_cases hFits : cleared + 1 < 0x100000000
              · have hWord : Checked.word (cleared + 1) = .ok (cleared + 1) := if_pos hFits
                simp only [hWord, run_check_ok, Outcome.andThen_done] at hRun
                obtain ⟨hTotal, hSweeps⟩ :=
                  ih (hRewrites.traversable hTraversable) hNextSeen hRun
                rw [hSelected, Finset.card_insert_of_notMem hNew]
                exact ⟨by omega, hRewrites.sweeps hSweeps⟩
              · have hWord : Checked.word (cleared + 1) = .error .overflow := if_neg hFits
                simp only [hWord, run_check_error, Outcome.andThen_fault] at hRun
                cases hRun

/-- Unlocking has cleared the kept pages that held their own frames, and counted each of them
once. -/
theorem sweeps_of_run_unlockReserved (hTraversable : machine.Traversable)
    (hSeen : machine.SeenThrough machine.view) {total : Nat}
    (hRun : (unlockReserved regions).run machine = .done (.ok total) last) :
    ∃ cleared : Finset VirtualPage, total = cleared.card ∧ machine.Sweeps last cleared ∧
      ∀ page, page ∈ cleared ↔
        MemoryRegion.Reserved regions page.number ∧ machine.HoldsOwn page := by
  obtain ⟨frames, hFrames, hMember⟩ := MemoryRegion.exists_reservedFrames_eq regions
  have hLoop : unlockFrames 0 frames =
      (clearPages ownFrame 0 (pagesOf frames) : Action (FrameBitmap size) _) :=
    unlockFrames_eq (fun number hNumber => ((hMember number).mp hNumber).1) 0
  simp only [unlockReserved, hFrames, run_bind, run_check_ok, Outcome.andThen_done, hLoop] at hRun
  refine ⟨machine.selected (unguarded ownFrame) (pagesOf frames), ?_⟩
  cases hClear : (clearPages ownFrame 0 (pagesOf frames)).run machine with
  | fault cause journal =>
      rw [hClear] at hRun
      cases hRun
  | done result reached =>
      rw [hClear] at hRun
      cases result with
      | error error => cases hRun
      | ok unmapped =>
          obtain ⟨hTotal, rfl⟩ := Outcome.done.inj hRun
          obtain ⟨hUnmapped, hSweeps⟩ :=
            sweeps_of_run_clearPages (fun _ => rfl) hTraversable hSeen hClear
          rw [Nat.zero_add] at hUnmapped
          refine ⟨(Except.ok.inj hTotal).symm.trans hUnmapped, hSweeps.note _, ?_⟩
          intro page
          have hListed : page ∈ pagesOf frames ↔ MemoryRegion.Reserved regions page.number :=
            Set.ext_iff.mp (MemoryRegion.setOf_mem_pagesOf hFrames) page
          rw [Machine.mem_selected, hListed, unguarded, Bool.and_eq_true, ownFrame_ofEntry_iff,
            Bool.not_eq_true']
          rfl

/-! ## Both numbers -/

/-- Locking and unlocking the same regions, if both succeed, are about the same pages: the kept
ones that hold their own frames after locking, all of which unlocking clears.  Unlocking answers
with the number of these pages.  Locking counts each of them as often as the regions list it, so
the answers agree exactly if none of them is listed twice. -/
theorem lockReserved_unlockReserved_counts (hStocked : machine.Stocked)
    (hSeen : machine.SeenThrough machine.view) (hOvert : machine.Overt) {locked unlocked : Nat}
    (hLock : (lockReserved regions).run machine = .done (.ok locked) after)
    (hUnlock : (unlockReserved regions).run after = .done (.ok unlocked) last) :
    ∃ frames, MemoryRegion.reservedFrames regions = .ok frames ∧
      ∃ cleared : Finset VirtualPage,
        (∀ page, page ∈ cleared ↔
          MemoryRegion.Reserved regions page.number ∧ after.HoldsOwn page) ∧
        after.Sweeps last cleared ∧ unlocked = cleared.card ∧
        locked = (pagesOf frames).countP (· ∈ cleared) ∧ unlocked ≤ locked ∧
        (locked = unlocked ↔ ((pagesOf frames).filter (· ∈ cleared)).Nodup) := by
  obtain ⟨frames, hFrames, -⟩ := MemoryRegion.exists_reservedFrames_eq regions
  have hListed : ∀ page, page ∈ pagesOf frames ↔ MemoryRegion.Reserved regions page.number :=
    fun page => Set.ext_iff.mp (MemoryRegion.setOf_mem_pagesOf hFrames) page
  obtain ⟨hAfter, hAfterSeen, hLocked⟩ :=
    counted_of_run_lockReserved hStocked hSeen hOvert hFrames hLock
  obtain ⟨cleared, hUnlocked, hSweeps, hCleared⟩ :=
    sweeps_of_run_unlockReserved hAfter.toTraversable hAfterSeen hUnlock
  obtain ⟨hLess, hAgree⟩ := Page.countP_mem_eq_card_iff fun page hPage =>
    (hListed page).mpr ((hCleared page).mp hPage).1
  have hSame : locked = (pagesOf frames).countP (· ∈ cleared) := by
    rw [hLocked]
    refine List.countP_congr fun page hPage => ?_
    rw [decide_eq_true_iff, decide_eq_true_iff, hCleared]
    exact (and_iff_right ((hListed page).mp hPage)).symm
  rw [← hSame, ← hUnlocked] at hLess hAgree
  exact ⟨frames, hFrames, cleared, hCleared, hSweeps, hUnlocked, hSame, hLess, hAgree⟩

/-- The pages of the tiny machine are all free. -/
theorem overt_tiny : Machine.tiny.Overt := by
  intro page hPage
  rw [Machine.pristine_tiny.entryAt_eq_zero hPage]
  exact .inl Entry.isFree_zero

/-- Both loops, one right after the other. -/
def lockThenUnlock (regions : List MemoryRegion) :
    Action (FrameBitmap size) (Except MapError Nat × Except MapError Nat) := do
  let locked ← lockReserved regions
  let unlocked ← unlockReserved regions
  return (locked, unlocked)

/-- Two answers are those of two runs. -/
theorem exists_runs_of_lockThenUnlock {locked unlocked : Except MapError Nat}
    (hAnswers : ((lockThenUnlock regions).run machine).value? = some (locked, unlocked)) :
    ∃ after last, (lockReserved regions).run machine = .done locked after ∧
      (unlockReserved regions).run after = .done unlocked last := by
  cases hRun : (lockThenUnlock regions).run machine with
  | fault cause journal =>
      rw [hRun] at hAnswers
      cases hAnswers
  | done answers final =>
      rw [hRun] at hAnswers
      obtain rfl := Option.some.inj hAnswers
      obtain ⟨first, after, hLock, hRest⟩ := exists_of_run_bind hRun
      obtain ⟨second, last, hUnlock, hPair⟩ := exists_of_run_bind hRest
      obtain ⟨hAnswers, -⟩ := Outcome.done.inj hPair
      obtain ⟨rfl, rfl⟩ := Prod.mk.inj hAnswers
      exact ⟨after, last, hLock, hUnlock⟩

/-- A frame that is listed once is counted once by both. -/
theorem lockReserved_unlockReserved_counts_once :
    Machine.tiny.Stocked ∧ Machine.tiny.Overt ∧ ∃ after last locked unlocked,
      (lockReserved [keptFrame]).run Machine.tiny = .done (.ok locked) after ∧
      (unlockReserved [keptFrame]).run after = .done (.ok unlocked) last ∧
      locked = unlocked := by
  have hStocked := Machine.pristine_tiny.wellFormed.stocked
  have hAnswers : ((lockThenUnlock [keptFrame]).run Machine.tiny).value? =
      some (.ok 1, .ok 1) := by decide +kernel
  obtain ⟨after, last, hLock, hUnlock⟩ := exists_runs_of_lockThenUnlock hAnswers
  obtain ⟨frames, hFrames, cleared, -, -, -, -, -, hAgree⟩ :=
    lockReserved_unlockReserved_counts hStocked Machine.tiny.seenThrough_physical overt_tiny
      hLock hUnlock
  have hListed : MemoryRegion.reservedFrames [keptFrame] = .ok [5] := by decide +kernel
  obtain rfl := Except.ok.inj (hFrames.symm.trans hListed)
  have hNodup : (pagesOf [5]).Nodup := List.nodup_singleton _
  exact ⟨hStocked, overt_tiny, after, last, 1, 1, hLock, hUnlock,
    hAgree.mpr (hNodup.filter _)⟩

/-- The frame is listed twice: it is locked, found in place and counted again, and unlocked
once. -/
theorem lockReserved_counts_twice :
    Machine.tiny.Stocked ∧ Machine.tiny.view = {} ∧ Machine.tiny.Overt ∧ ∃ after last,
      (lockReserved [keptFrame, keptFrame]).run Machine.tiny = .done (.ok 2) after ∧
      (unlockReserved [keptFrame, keptFrame]).run after = .done (.ok 1) last := by
  have hAnswers : ((lockThenUnlock [keptFrame, keptFrame]).run Machine.tiny).value? =
      some (.ok 2, .ok 1) := by decide +kernel
  exact ⟨Machine.pristine_tiny.wellFormed.stocked, rfl, overt_tiny,
    exists_runs_of_lockThenUnlock hAnswers⟩

end Action
end TwoLevelPaging
