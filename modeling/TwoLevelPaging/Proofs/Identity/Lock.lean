import TwoLevelPaging.Proofs.AddressSpace.Pristine
import TwoLevelPaging.Proofs.AddressSpace.Requests
import TwoLevelPaging.Proofs.BringUp.Reservation
import TwoLevelPaging.Proofs.Identity.Regions

/-!
# Memory that the firmware keeps

Locking goes through the frames that the firmware keeps and maps each one to itself, unless its
page is reserved or in use.  `Machine.Locks` is what any part of this does, also if it ends
early: a page keeps its entry, or it was free, is listed and maps its own frame now, and no
frame becomes free.  One frame is a case analysis on the outcomes of `setMapping`
(`Sets.locks`), and the loop is an induction on the list (`lockFrames_ends`).

Whether the frames that are mapped so can be handed out as well is decided earlier, when the
bitmap is filled.  The available regions are freed whatever else the memory map says about
them, so a kept frame is free where an available region has all its bytes, and nowhere else
(`seeding_spares_kept`).
-/

namespace TwoLevelPaging

namespace Machine

variable {size : Nat} {machine before after last : Machine (FrameBitmap size)}
  {first second : List Nat}

/-- Some listed pages that were free are mapped to their own frames, read-only.  No other page
below the self-map has changed, and no frame has become free. -/
structure Locks (before after : Machine (FrameBitmap size)) (frames : List Nat) : Prop where
  stocked : after.Stocked
  free_before : ∀ {frame : Frame}, after.Free frame → before.Free frame
  entries : ∀ page : VirtualPage, page.directorySlot ≠ Layout.selfMapSlot →
    after.entryAt page = before.entryAt page ∨
      (before.entryAt page).isFree = true ∧ page.number ∈ frames ∧
        after.entryAt page = Entry.leaf (Page.ofNumber page.number) Flags.kernelReadOnly.word

namespace Locks

theorem refl (hStocked : machine.Stocked) : Locks machine machine [] :=
  ⟨hStocked, fun hFree => hFree, fun _ _ => .inl rfl⟩

theorem trans (hFirst : Locks before after first) (hSecond : Locks after last second) :
    Locks before last (first ++ second) where
  stocked := hSecond.stocked
  free_before hFree := hFirst.free_before (hSecond.free_before hFree)
  entries page hPage := by
    rcases hFirst.entries page hPage with hKept | ⟨hUnused, hListed, hMapped⟩ <;>
      rcases hSecond.entries page hPage with hLast | ⟨hFree, hLater, hLast⟩
    · exact .inl (hLast.trans hKept)
    · rw [hKept] at hFree
      exact .inr ⟨hFree, List.mem_append_right first hLater, hLast⟩
    · exact .inr ⟨hUnused, List.mem_append_left second hListed, hLast.trans hMapped⟩
    · exact .inr ⟨hUnused, List.mem_append_left second hListed, hLast⟩

theorem of_unchanged (hStocked : before.Stocked) (hUnchanged : Unchanged before after) :
    Locks before after [] := by
  obtain ⟨events, rfl⟩ := hUnchanged.exists_eq_draw
  have hDrawn := hStocked.congr (before.stays_draw before.source events) (fun _ => rfl)
    (fun _ hFree => hFree) hStocked.sound
  exact ⟨hDrawn, fun hFree => hFree, fun _ _ => .inl rfl⟩

/-- A listed page need not be changed. -/
theorem widen (hLocks : Locks before after first) (hList : first ⊆ second) :
    Locks before after second where
  stocked := hLocks.stocked
  free_before := hLocks.free_before
  entries page hPage := by
    rcases hLocks.entries page hPage with hKept | ⟨hUnused, hListed, hMapped⟩
    · exact .inl hKept
    · exact .inr ⟨hUnused, hList hListed, hMapped⟩

end Locks

variable {page : VirtualPage}

/-- A mapping that is refused changes no page, however the tables are reached. -/
theorem Installs.locks_of_error (hStocked : before.Stocked) {frame : Frame} {flags : UInt32}
    {cause : LinkError} (hPage : Layout.isReserved page = false)
    (hInstalls : before.Installs page frame flags false (.error cause) after) :
    Locks before after [] where
  stocked := hInstalls.stocked hStocked (Layout.directorySlot_ne_of_not_reserved hPage)
  free_before hFree := hInstalls.freeAt_before hStocked hFree
  entries _ hOther := .inl ((hInstalls.under {}).entries_of_error
    (hStocked.navigable_under before.seenThrough_physical)
    (Layout.directorySlot_ne_of_not_reserved hPage) hOther)

/-- One page is mapped to its own frame if it is free, and keeps its entry if not. -/
theorem Sets.locks (hStocked : before.Stocked) {reply : Except MapError Unit}
    (hSets : before.Sets page (Page.ofNumber page.number) Flags.kernelReadOnly.word reply after) :
    Locks before after [page.number] := by
  cases hSets with
  | refused hUnchanged => exact (Locks.of_unchanged hStocked hUnchanged).widen (by simp)
  | failed hPage hInstalls => exact (hInstalls.locks_of_error hStocked hPage).widen (by simp)
  | present hPage hInstalls hStored =>
      exact (hInstalls.locks_of_error hStocked hPage).widen (by simp)
  | placed hPage hInstalls =>
      have hSlot := Layout.directorySlot_ne_of_not_reserved hPage
      obtain ⟨-, hUnused, hEntries⟩ := (hInstalls.under {}).entries_of_ok
        (hStocked.navigable_under before.seenThrough_physical) hSlot
      refine ⟨hInstalls.stocked hStocked hSlot, hInstalls.freeAt_before hStocked, ?_⟩
      intro other hOther
      have hEntry : after.entryAt other =
          if other = page then Entry.leaf (Page.ofNumber page.number) Flags.kernelReadOnly.word
          else before.entryAt other :=
        hEntries other hOther
      by_cases hSame : other = page
      · rw [if_pos hSame] at hEntry
        rw [hSame] at hEntry ⊢
        exact .inr ⟨hUnused rfl, List.mem_singleton_self _, hEntry⟩
      · rw [if_neg hSame] at hEntry
        exact .inl hEntry

end Machine

namespace Action

variable {size : Nat} {view : View}

/-- Mapping a frame below 4 GiB to itself ends in an answer, through every view that reaches
the tables. -/
theorem exists_run_setMapping_identity {machine : Machine (FrameBitmap size)}
    (hStocked : machine.Stocked) (hSeen : machine.SeenThrough view) {number : Nat}
    (hNumber : number < MemoryRegion.frameLimit) :
    ∃ reply after, (setMapping (Address.ofNat (number * Layout.pageBytes))
        (Address.ofNat (number * Layout.pageBytes)) Flags.kernelReadOnly.word).run
          (machine.under view) = .done reply (after.under view) ∧
      machine.Locks after [number] ∧ after.SeenThrough view := by
  let page : VirtualPage := ⟨number, hNumber⟩
  let frame : Frame := ⟨number, hNumber⟩
  obtain ⟨reply, after, hSets, hRun⟩ :=
    leads_setMapping hStocked page.base frame.base Flags.kernelReadOnly.word
  have hFrame : frame = Page.ofNumber page.number := (Page.ofNumber_number frame).symm
  rw [Page.containing_base, Page.containing_base, hFrame] at hSets
  obtain ⟨hReply, hAfter⟩ := hRun view hSeen
  exact ⟨reply, after, hReply, hSets.locks hStocked, hAfter⟩

/-- How locking ends: with an answer, and then no more than locking has been done, or because
so many frames have been counted that their number leaves its register. -/
inductive LockEnds {α : Type} (view : View) (machine : Machine (FrameBitmap size))
    (frames : List Nat) (count : Nat) : Outcome (FrameBitmap size) α → Prop
  | done {result : α} {after : Machine (FrameBitmap size)} (hLocks : machine.Locks after frames) :
      LockEnds view machine frames count (.done result (after.under view))
  | overflow {journal : Journal} (hCount : 0x100000000 ≤ count) :
      LockEnds view machine frames count (.fault .overflow journal)

/-- Locking goes on after some frames have been locked. -/
theorem LockEnds.after {α : Type} {machine next : Machine (FrameBitmap size)}
    {first second : List Nat} {less count : Nat} {outcome : Outcome (FrameBitmap size) α}
    (hEnds : LockEnds view next second less outcome) (hLocks : machine.Locks next first)
    (hLess : less ≤ count) : LockEnds view machine (first ++ second) count outcome := by
  cases hEnds with
  | done hLater => exact .done (hLocks.trans hLater)
  | overflow hCount => exact .overflow (Nat.le_trans hCount hLess)

/-- To report first changes nothing. -/
theorem lockEnds_report {α : Type} {machine : Machine (FrameBitmap size)} {frames : List Nat}
    {count : Nat} {event : Event} {next : Action (FrameBitmap size) α}
    (hStocked : machine.Stocked) (hEnds : (machine.note (.reported event)).Stocked →
      LockEnds view (machine.note (.reported event)) frames count
        (next.run ((machine.note (.reported event)).under view))) :
    LockEnds view machine frames count
      ((report event >>= fun _ => next).run (machine.under view)) := by
  have hNoted := Machine.Locks.of_unchanged hStocked (machine.unchanged_note event)
  exact (hEnds hNoted.stocked).after hNoted (Nat.le_refl count)

/-- Locking a list of frames ends in one of these ways, through every view that reaches the
tables. -/
theorem lockFrames_ends {frames : List Nat}
    (hFrames : ∀ number ∈ frames, number < MemoryRegion.frameLimit) :
    ∀ (machine : Machine (FrameBitmap size)) (mapped : Nat), machine.Stocked →
      machine.SeenThrough view → LockEnds view machine frames (mapped + frames.length)
        ((lockFrames mapped frames).run (machine.under view)) := by
  -- Induction on the frames that are left; each step starts from a stocked machine.
  induction frames with
  | nil =>
      intro machine mapped hStocked hSeen
      exact .done (.refl hStocked)
  | cons number rest ih =>
      intro machine mapped hStocked hSeen
      have hRest := ih fun other hOther => hFrames other (List.mem_cons_of_mem number hOther)
      obtain ⟨reply, next, hStep, hLocks, hNextSeen⟩ :=
        exists_run_setMapping_identity hStocked hSeen (hFrames number List.mem_cons_self)
      -- A frame that is passed over is reported and not counted.
      have hSkipped : ∀ event, LockEnds view machine (number :: rest)
          (mapped + (number :: rest).length)
          ((report event >>= fun _ => lockFrames mapped rest).run (next.under view)) := by
        intro event
        have hLater : LockEnds view next rest (mapped + rest.length)
            ((report event >>= fun _ => lockFrames mapped rest).run (next.under view)) :=
          lockEnds_report hLocks.stocked fun hNoted =>
            hRest _ mapped hNoted (hNextSeen.congr rfl rfl)
        exact hLater.after hLocks (Nat.add_le_add_left (Nat.le_succ _) mapped)
      have hStopped : ∀ result : Except MapError Nat, LockEnds view machine (number :: rest)
          (mapped + (number :: rest).length) (.done result (next.under view)) :=
        fun _ => .done (hLocks.widen (by simp))
      rw [lockFrames]
      simp only [run_bind, hStep, Outcome.andThen_done]
      cases reply with
      | ok value =>
          by_cases hFits : mapped + 1 < 0x100000000
          · have hWord : Checked.word (mapped + 1) = .ok (mapped + 1) := if_pos hFits
            simp only [hWord, run_bind, run_check_ok, Outcome.andThen_done]
            exact (hRest next (mapped + 1) hLocks.stocked hNextSeen).after hLocks
              (by rw [List.length_cons]; omega)
          · have hWord : Checked.word (mapped + 1) = .error .overflow := if_neg hFits
            simp only [hWord, run_bind, run_check_error, Outcome.andThen_fault]
            exact .overflow (by rw [List.length_cons]; omega)
      | error error =>
          cases error with
          | protectedRegion => exact hSkipped _
          | conflict => exact hSkipped _
          | _ => exact hStopped _

/-- Locking the memory that the firmware keeps locks the frames below 4 GiB that it covers. -/
theorem lockReserved_ends {machine : Machine (FrameBitmap size)} (hStocked : machine.Stocked)
    (hSeen : machine.SeenThrough view) {regions : List MemoryRegion} {frames : List Nat}
    (hFrames : MemoryRegion.reservedFrames regions = .ok frames) :
    LockEnds view machine frames frames.length
      ((lockReserved regions).run (machine.under view)) := by
  obtain ⟨listed, hListed, hMember⟩ := MemoryRegion.exists_reservedFrames_eq regions
  obtain rfl := Except.ok.inj (hFrames.symm.trans hListed)
  have hEnds := lockFrames_ends (fun number hNumber => ((hMember number).mp hNumber).1) machine 0
    hStocked hSeen
  rw [Nat.zero_add] at hEnds
  simp only [lockReserved, hFrames, run_bind, run_check_ok, Outcome.andThen_done]
  generalize (lockFrames 0 frames).run (machine.under view) = outcome at hEnds ⊢
  cases hEnds with
  | overflow hCount => exact .overflow hCount
  | done hLocks =>
      rename_i result after
      cases result with
      | error error => exact .done hLocks
      | ok mapped =>
          have hNoted := Machine.Locks.of_unchanged hLocks.stocked
            (after.unchanged_note (.reservedPagesMapped mapped))
          exact .done ((hLocks.trans hNoted).widen (by simp))

end Action

/-! ## Frames that are kept and frames that are handed out -/

namespace Machine

variable {size : Nat} {before after seeded : Machine (FrameBitmap size)} {boot : BootInfo}
  {regions : List MemoryRegion} {image : KernelImage} {frame : Frame}

/-- A frame is free after the bitmap has been filled only if an available region has all its
bytes. -/
theorem Seeded.exists_contains (hSeeded : before.Seeded seeded boot regions image)
    (hFree : seeded.Free frame) :
    ∃ usable ∈ regions, usable.isAvailable = true ∧ usable.Contains frame.number := by
  obtain ⟨-, ⟨usable, hMember, hAvailable, hWhole⟩, -⟩ := (hSeeded.free_iff _).mp hFree
  exact ⟨usable, hMember, hAvailable, MemoryRegion.mem_wholeFrames_iff.mp hWhole⟩

/-- The kept frames that are free are the disputed ones that are managed, beyond the image, and
not that of the text buffer. -/
theorem Seeded.kept_and_free_iff (hSeeded : before.Seeded seeded boot regions image) :
    MemoryRegion.Kept regions frame.number ∧ seeded.Free frame ↔
      MemoryRegion.Disputed regions MemoryRegion.Touches frame.number ∧
        frame.number < min (FrameBitmap.framesBelow boot.memoryLimit) (size * 8) ∧
        image.frames ≤ frame.number ∧ frame ≠ Layout.textFrame := by
  have hText : frame ≠ Layout.textFrame ↔ frame.number ≠ Layout.textFrame.number :=
    not_congr ⟨congrArg Page.number, Page.ext⟩
  constructor
  · rintro ⟨hKept, hFree⟩
    obtain ⟨usable, hMember, hAvailable, hContains⟩ := hSeeded.exists_contains hFree
    obtain ⟨hManaged, -, hBeyond, hOther⟩ := (hSeeded.free_iff _).mp hFree
    exact ⟨⟨usable, hMember, hAvailable, hContains, hKept⟩, hManaged, hBeyond, hText.mpr hOther⟩
  · rintro ⟨⟨usable, hMember, hAvailable, hContains, hKept⟩, hManaged, hBeyond, hOther⟩
    have hOffers : usable.Offers frame.number :=
      ⟨hAvailable, MemoryRegion.mem_wholeFrames_iff.mpr hContains⟩
    exact ⟨hKept, (hSeeded.free_iff _).mpr
      ⟨hManaged, ⟨usable, hMember, hOffers⟩, hBeyond, hText.mp hOther⟩⟩

/-- The pages that have changed are mapped to their own frames, read-only.  Of these, only
frames with `shared` could be handed out before, and no frame has become free. -/
structure MapsIdentical (before after : Machine (FrameBitmap size)) (shared : Nat → Prop) :
    Prop where
  free_before : ∀ {frame : Frame}, after.Free frame → before.Free frame
  mapped : ∀ page : VirtualPage, page.directorySlot ≠ Layout.selfMapSlot →
    after.entryAt page ≠ before.entryAt page →
      after.entryAt page = Entry.leaf (Page.ofNumber page.number) Flags.kernelReadOnly.word ∧
        (before.Free (Page.ofNumber page.number) → shared page.number)

/-- The pages that have changed are mapped to their own frames, and these could not be handed
out before and cannot be handed out now. -/
def MapsOccupied (before after : Machine (FrameBitmap size)) : Prop :=
  MapsIdentical before after fun _ => False

theorem MapsIdentical.mono {first second : Nat → Prop} (hMaps : MapsIdentical before after first)
    (hImplies : ∀ number, first number → second number) : MapsIdentical before after second where
  free_before := hMaps.free_before
  mapped page hPage hChanged := by
    obtain ⟨hMapped, hShared⟩ := hMaps.mapped page hPage hChanged
    exact ⟨hMapped, fun hFree => hImplies _ (hShared hFree)⟩

theorem Locks.mapsIdentical {frames : List Nat} {shared : Nat → Prop}
    (hLocks : Locks before after frames)
    (hFrames : ∀ frame : Frame, frame.number ∈ frames → before.Free frame →
      shared frame.number) :
    MapsIdentical before after shared where
  free_before := hLocks.free_before
  mapped page hPage hChanged := by
    rcases hLocks.entries page hPage with hKept | ⟨-, hListed, hMapped⟩
    · exact absurd hKept hChanged
    · have hNumber : (Page.ofNumber page.number : Frame).number = page.number :=
        Nat.mod_eq_of_lt page.number_lt
      have hShared := hFrames (Page.ofNumber page.number)
      rw [hNumber] at hShared
      exact ⟨hMapped, hShared hListed⟩

end Machine

namespace Action

variable {size : Nat}

/-- Locking maps only frames that can be handed out of those that are listed and free. -/
theorem lockReserved_mapsIdentical {current after : Machine (FrameBitmap size)} {view : View}
    {regions : List MemoryRegion} {frames : List Nat} {shared : Nat → Prop}
    {result : Except MapError Nat}
    (hStocked : current.Stocked) (hSeen : current.SeenThrough view)
    (hFrames : MemoryRegion.reservedFrames regions = .ok frames)
    (hShared : ∀ frame : Frame, frame.number ∈ frames → current.Free frame →
      shared frame.number)
    (hRun : (lockReserved regions).run (current.under view) = .done result after) :
    current.MapsIdentical after shared := by
  have hEnds := lockReserved_ends hStocked hSeen hFrames
  rw [hRun] at hEnds
  cases hEnds with
  | done hLocks =>
      have hMaps := hLocks.mapsIdentical hShared
      exact ⟨hMaps.free_before, hMaps.mapped⟩

/-- After the bitmap has been filled, the frames that share a byte with a region that the
firmware keeps and are free are exactly the managed ones beyond the image, other than that of
the text buffer, of which an available region has all bytes.  Locking maps a frame that can be
handed out only if an available region has all its bytes and a kept one is rounded outward to
it: right after the bitmap has been filled, and later on as long as no other frames have become
free.  If no byte belongs to both kinds of regions, no frame with a kept byte is free or handed
out, and if moreover the kept regions have bytes or start with a frame, locking goes through
frames that are not free and maps none that can be handed out. -/
theorem seeding_spares_kept (hSize : size ≤ FrameBitmap.fullSize)
    (machine : Machine (FrameBitmap size)) (boot : BootInfo) (regions : List MemoryRegion)
    (image : KernelImage) :
    ∃ free seeded,
      (seedFrames boot regions image).run (machine.under {}) = .done free seeded ∧
      (∀ frame : Frame, MemoryRegion.Kept regions frame.number ∧ seeded.Free frame ↔
        MemoryRegion.Disputed regions MemoryRegion.Touches frame.number ∧
          frame.number < min (FrameBitmap.framesBelow boot.memoryLimit) (size * 8) ∧
          image.frames ≤ frame.number ∧ frame ≠ Layout.textFrame) ∧
      (∀ (current : Machine (FrameBitmap size)) (view : View), current.Stocked →
        current.SeenThrough view → (∀ frame, current.Free frame → seeded.Free frame) →
        ∀ result after, (lockReserved regions).run (current.under view) = .done result after →
          current.MapsIdentical after (MemoryRegion.Disputed regions MemoryRegion.Covers) ∧
          (MemoryRegion.Apart regions → MemoryRegion.Sharp regions →
            current.MapsOccupied after)) ∧
      (MemoryRegion.Apart regions →
        (∀ frame : Frame, MemoryRegion.Kept regions frame.number →
          ¬ seeded.Free frame ∧ seeded.source.Retains frame.number) ∧
        (MemoryRegion.Sharp regions →
          ∃ frames, MemoryRegion.reservedFrames regions = .ok frames ∧
            ∀ frame : Frame, frame.number ∈ frames → ¬ seeded.Free frame)) := by
  have hWords : size * 8 < 0x100000000 := by
    unfold FrameBitmap.fullSize at hSize
    omega
  obtain ⟨free, seeded, hRun, hSeeded, -⟩ :=
    (leads_seedFrames hWords (machine.under {}) boot regions image).run
      (Machine.seenThrough_physical _)
  obtain ⟨frames, hFrames, hMember⟩ := MemoryRegion.exists_reservedFrames_eq regions
  -- A listed frame that is free is covered by a kept region, and an available one has it all.
  have hListed : ∀ frame : Frame, frame.number ∈ frames → (seeded.under {}).Free frame →
      MemoryRegion.Disputed regions MemoryRegion.Covers frame.number := by
    intro frame hFrame hFree
    obtain ⟨usable, hUsable, hAvailable, hContains⟩ := hSeeded.exists_contains hFree
    exact ⟨usable, hUsable, hAvailable, hContains, ((hMember _).mp hFrame).2⟩
  refine ⟨free, seeded.under {}, hRun, fun _ => hSeeded.kept_and_free_iff, ?_, ?_⟩
  · intro current view hStocked hSeen hFree result after hLock
    have hMaps := lockReserved_mapsIdentical hStocked hSeen hFrames
      (fun frame hFrame hCurrent => hListed frame hFrame (hFree frame hCurrent)) hLock
    exact ⟨hMaps, fun hApart hSharp =>
      hMaps.mono fun _ hDisputed => hApart.not_disputed_of_sharp hSharp hDisputed⟩
  · intro hApart
    constructor
    · intro frame hKept
      have hOccupied : ¬ (seeded.under {}).Free frame := fun hFree =>
        hApart.not_disputed (hSeeded.kept_and_free_iff.mp ⟨hKept, hFree⟩).1
      exact ⟨hOccupied, FrameBitmap.retains_of_not_freeAt hSeeded.sound hOccupied⟩
    · intro hSharp
      exact ⟨frames, hFrames, fun frame hFrame hFree =>
        hApart.not_disputed_of_sharp hSharp (hListed frame hFrame hFree)⟩

section Samples

open Machine

/-- Three usable frames, and a kept one behind them. -/
def apartRegions : List MemoryRegion :=
  [⟨0x2000, 0x3000, MemoryRegion.availableKind⟩, ⟨0x5000, 0x1000, MemoryRegion.reservedKind⟩]

/-- An image that ends at 8 KiB. -/
def lowImage : KernelImage :=
  ⟨Address.ofNat 0xC0000000, Address.ofNat 0xC0002000, Address.ofNat 0x100000⟩

theorem apart_apartRegions : MemoryRegion.Apart apartRegions := by
  intro usable hUsable hAvailable kept hKept hReserved byte hByte
  simp only [apartRegions, List.mem_cons, List.not_mem_nil, or_false] at hUsable hKept
  rcases hUsable with rfl | rfl
  · rcases hKept with rfl | rfl
    · exact absurd hReserved (by decide)
    · obtain ⟨⟨-, hStop⟩, hBase, -⟩ := hByte
      have hBelow : byte < 0x5000 := hStop
      have hAbove : 0x5000 ≤ byte := hBase
      omega
  · exact absurd hAvailable (by decide)

theorem sharp_apartRegions : MemoryRegion.Sharp apartRegions := by
  intro region hMember hReserved
  simp only [apartRegions, List.mem_cons, List.not_mem_nil, or_false] at hMember
  rcases hMember with rfl | rfl <;> decide

theorem kept_apartRegions : MemoryRegion.Kept apartRegions 5 := by
  refine ⟨_, List.mem_cons_of_mem _ List.mem_cons_self, rfl, 0x5000, by decide, ?_⟩
  constructor <;> decide

theorem stocked_of_seeded_tiny {seeded : Machine (FrameBitmap 1)}
    (hSeeded : Seeded tiny seeded ⟨640, 3072, 0, 0⟩ apartRegions lowImage) :
    seeded.Stocked := by
  have hRefilled : ∀ number, seeded.source.freeAt number = true →
      tiny.source.freeAt number = true := by
    intro number hFree
    obtain ⟨hManaged, -, hBeyond, -⟩ := (hSeeded.free_iff number).mp hFree
    have hEvery : ∀ low : Fin 8, 2 ≤ low.val → tiny.source.freeAt low.val = true := by
      decide +kernel
    exact hEvery ⟨number, Nat.lt_of_lt_of_le hManaged (Nat.min_le_right _ _)⟩ hBeyond
  have hSound := hSeeded.sound
  obtain ⟨pool, events, rfl⟩ := hSeeded.drawn
  exact pristine_tiny.wellFormed.stocked.congr (tiny.stays_draw pool events) (fun _ => rfl)
    hRefilled hSound

/-- The entry of page 5 once the bitmap has been filled and the kept frame has been locked. -/
def lockedEntry : Action (FrameBitmap 1) Entry := do
  let _ ← seedFrames ⟨640, 3072, 0, 0⟩ apartRegions lowImage
  let _ ← lockReserved apartRegions
  let last ← machine
  pure (last.entryAt (Page.ofNumber 5))

/-- Frame 5 is kept, and mapped to itself without having been free. -/
theorem seeding_spares_apartRegions : ∃ free seeded result after,
    (seedFrames ⟨640, 3072, 0, 0⟩ apartRegions lowImage).run tiny = .done free seeded ∧
      (lockReserved apartRegions).run seeded = .done result after ∧
      ¬ seeded.Free (Page.ofNumber 5) ∧ seeded.MapsOccupied after ∧
      after.entryAt (Page.ofNumber 5) =
        Entry.leaf (Page.ofNumber 5) Flags.kernelReadOnly.word := by
  obtain ⟨free, seeded, hRun, -, hLocked, hApart⟩ :=
    seeding_spares_kept (by decide) tiny ⟨640, 3072, 0, 0⟩ apartRegions lowImage
  have hSpared := (hApart apart_apartRegions).1
  obtain ⟨_, reached, hReached, hSeeded, -⟩ :=
    (leads_seedFrames (by decide) tiny ⟨640, 3072, 0, 0⟩ apartRegions lowImage).run_stays
      (seenThrough_physical tiny) fun _ after hAfter => hAfter.1.drawn.view
  obtain ⟨-, rfl⟩ := Outcome.done.inj (hRun.symm.trans hReached)
  have hStocked := stocked_of_seeded_tiny hSeeded
  have hSeen := seeded.seenThrough_physical
  have hFrames : MemoryRegion.reservedFrames apartRegions = .ok [5] := by decide +kernel
  have hSame : seeded.under {} = seeded := under_of_view_eq hSeeded.drawn.view
  have hEnds := lockReserved_ends hStocked hSeen hFrames
  have hEntry : (lockedEntry.run tiny).value? =
      some (Entry.leaf (Page.ofNumber 5) Flags.kernelReadOnly.word) := by decide +kernel
  generalize hLock : (lockReserved apartRegions).run (seeded.under {}) = outcome at hEnds
  cases hEnds with
  | overflow hCount => exact absurd hCount (by decide)
  | done hLocks =>
      have hMaps := (hLocked seeded {} hStocked hSeen (fun _ hFree => hFree) _ _ hLock).2
      rw [hSame] at hLock
      simp only [lockedEntry, run_bind, hReached, hLock, run_machine, run_pure,
        Outcome.andThen_done, Outcome.value?, Option.some.injEq] at hEntry
      exact ⟨free, seeded, _, _, hRun, hLock, (hSpared _ kept_apartRegions).1,
        hMaps apart_apartRegions sharp_apartRegions, hEntry⟩

/-- A kept frame inside of the region between 1 and 5 MiB. -/
def enclosedRegion : MemoryRegion :=
  ⟨0x200000, 0x1000, MemoryRegion.reservedKind⟩

/-- The kept frame is free after the bitmap has been filled. -/
theorem seeding_frees_enclosed : ∃ free seeded,
    (seedFrames ⟨640, 4096, 0, 0⟩ [BootBlock.extendedRegion, enclosedRegion]
        BootBlock.lateLoaderImage).run BootBlock.bareMachine = .done free seeded ∧
      MemoryRegion.Kept [BootBlock.extendedRegion, enclosedRegion] 0x200 ∧
      seeded.Free (Page.ofNumber 0x200) := by
  obtain ⟨free, seeded, hRun, hSeeded, -⟩ :=
    (leads_seedFrames (by decide) BootBlock.bareMachine ⟨640, 4096, 0, 0⟩
      [BootBlock.extendedRegion, enclosedRegion] BootBlock.lateLoaderImage).run
      (seenThrough_physical _)
  have hKept : MemoryRegion.Kept [BootBlock.extendedRegion, enclosedRegion] 0x200 := by
    refine ⟨enclosedRegion, by simp, rfl, 0x200000, by decide, ?_⟩
    constructor <;> decide
  have hOffered : BootBlock.extendedRegion.Offers 0x200 :=
    ⟨by decide, MemoryRegion.mem_wholeFrames_iff.mpr (MemoryRegion.contains_iff.mpr (by decide))⟩
  have hFree : (seeded.under {}).Free (Page.ofNumber 0x200) := by
    apply (hSeeded.free_iff 0x200).mpr
    exact ⟨by decide, ⟨BootBlock.extendedRegion, by simp, hOffered⟩, by decide, by decide⟩
  exact ⟨free, seeded.under {}, hRun, hKept, hFree⟩

end Samples

end Action

end TwoLevelPaging
