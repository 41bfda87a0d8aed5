import TwoLevelPaging.BringUp
import TwoLevelPaging.Proofs.AddressSpace.Views
import TwoLevelPaging.Proofs.FrameBitmap.Count
import TwoLevelPaging.Proofs.FrameBitmap.Ranges

/-!
# Which frames are free at the start

The bitmap is filled in three steps: every frame is occupied, the frames of the available
regions are freed, and those of the kernel image and of the text buffer are occupied again.
`draws_seedFrames` says which frames are free in the end.  The order matters: a frame below
the end of the image is never free, whatever the memory map says about it.

The address space is not touched on the way (`Drawn`), and it is not looked at either: an
action that `Draws` from the bitmap ends in one way on all machines with this bitmap.
-/

namespace TwoLevelPaging

namespace Layout

/-- The page of the display's text buffer. -/
def textPage : VirtualPage :=
  Page.containing textBufferVirtual

/-- The frame of the display's text buffer. -/
def textFrame : Frame :=
  Page.containing textBufferPhysical

end Layout

namespace Machine

variable {source : Type} {before after : Machine source}

/-- Only the source of frames has changed, and events have been reported. -/
def Drawn (before after : Machine source) : Prop :=
  ∃ pool events, after = before.draw pool events

theorem Drawn.view (hDrawn : Drawn before after) : after.view = before.view := by
  obtain ⟨pool, events, rfl⟩ := hDrawn
  rfl

end Machine

/-- A frame of an available region that lies in it as a whole. -/
def MemoryRegion.Offers (region : MemoryRegion) (frame : Nat) : Prop :=
  region.isAvailable = true ∧ frame ∈ region.wholeFrames

namespace FrameBitmap

variable {size : Nat} {bitmap before after : FrameBitmap size}

/-- The bitmap manages the same frames, and these are free now.  Neither the cursor nor a bit
behind the managed frames has changed. -/
structure Refills (before after : FrameBitmap size) (free : Nat → Prop) : Prop where
  limit : after.limit = before.limit
  cursor : after.cursor = before.cursor
  beyond : ∀ frame, before.limit ≤ frame → after.isOccupied frame = before.isOccupied frame
  free_iff : ∀ frame, after.freeAt frame = true ↔ free frame

theorem Refills.refl (bitmap : FrameBitmap size) :
    Refills bitmap bitmap fun frame => bitmap.freeAt frame = true :=
  ⟨rfl, rfl, fun _ _ => rfl, fun _ => Iff.rfl⟩

/-- A bitmap that is filled again is filled as the second time says. -/
theorem Refills.trans {middle : FrameBitmap size} {free next : Nat → Prop}
    (hFirst : Refills before middle free) (hSecond : Refills middle after next) :
    Refills before after next := by
  refine ⟨hSecond.limit.trans hFirst.limit, hSecond.cursor.trans hFirst.cursor, ?_,
    hSecond.free_iff⟩
  intro frame hBeyond
  rw [hSecond.beyond frame (by rw [hFirst.limit]; exact hBeyond), hFirst.beyond frame hBeyond]

theorem Refills.congr {free next : Nat → Prop} (hRefills : Refills before after free)
    (hSame : ∀ frame, free frame ↔ next frame) : Refills before after next :=
  ⟨hRefills.limit, hRefills.cursor, hRefills.beyond,
    fun frame => (hRefills.free_iff frame).trans (hSame frame)⟩

theorem Refills.sound {free : Nat → Prop} (hRefills : Refills before after free)
    (hSound : before.Sound) : after.Sound :=
  hSound.congr hRefills.limit

/-- A bitmap is given by what it has been filled with. -/
theorem Refills.unique {second : FrameBitmap size} {free : Nat → Prop}
    (hFirst : Refills before after free) (hSecond : Refills before second free) :
    after = second := by
  refine eq_of_isOccupied_eq (hFirst.limit.trans hSecond.limit.symm)
    (hFirst.cursor.trans hSecond.cursor.symm) ?_
  intro frame
  by_cases hManaged : frame < before.limit
  · have hSame : after.freeAt frame = second.freeAt frame := by
      rw [Bool.eq_iff_iff, hFirst.free_iff, hSecond.free_iff]
    rw [freeAt, freeAt, hFirst.limit, hSecond.limit] at hSame
    simpa [hManaged] using hSame
  · rw [hFirst.beyond frame (Nat.not_lt.mp hManaged), hSecond.beyond frame (Nat.not_lt.mp hManaged)]

end FrameBitmap

namespace Machine

variable {size : Nat} {before after last : Machine (FrameBitmap size)}

/-- The frames that are free once the bitmap has been filled: the managed ones of the available
regions that are beyond the image, but not that of the text buffer. -/
def FreeAfterSeeding (size : Nat) (boot : BootInfo) (regions : List MemoryRegion)
    (image : KernelImage) (frame : Nat) : Prop :=
  frame < min (FrameBitmap.framesBelow boot.memoryLimit) (size * 8) ∧
    (∃ region ∈ regions, region.Offers frame) ∧ image.frames ≤ frame ∧
      frame ≠ Layout.textFrame.number

/-- The bitmap has been filled, and nothing else has been changed. -/
structure Seeded (before after : Machine (FrameBitmap size)) (boot : BootInfo)
    (regions : List MemoryRegion) (image : KernelImage) : Prop where
  drawn : Drawn before after
  sound : after.source.Sound
  free_iff : ∀ frame, after.source.freeAt frame = true ↔
    FreeAfterSeeding size boot regions image frame

end Machine

namespace Action

variable {size : Nat} {α β : Type} {bitmap pool : FrameBitmap size}

/-- On every machine with this bitmap the action ends with the same value, the same new bitmap
and the same reports.  The value and the new bitmap satisfy `post`. -/
def Draws (action : Action (FrameBitmap size) α) (bitmap : FrameBitmap size)
    (post : α → FrameBitmap size → Prop) : Prop :=
  ∃ value pool events, post value pool ∧ ∀ machine : Machine (FrameBitmap size),
    machine.source = bitmap → action.run machine = .done value (machine.draw pool events)

theorem Draws.pure {value : α} {post : α → FrameBitmap size → Prop} (hPost : post value bitmap) :
    Draws (pure value) bitmap post := by
  refine ⟨value, bitmap, [], hPost, ?_⟩
  rintro machine rfl
  rfl

theorem Draws.bind {first : Action (FrameBitmap size) α} {next : α → Action (FrameBitmap size) β}
    {middle : α → FrameBitmap size → Prop} {post : β → FrameBitmap size → Prop}
    (hFirst : Draws first bitmap middle)
    (hNext : ∀ value pool, middle value pool → Draws (next value) pool post) :
    Draws (first >>= next) bitmap post := by
  obtain ⟨value, pool, events, hMiddle, hRun⟩ := hFirst
  obtain ⟨result, last, more, hPost, hRest⟩ := hNext value pool hMiddle
  refine ⟨result, last, events ++ more, hPost, ?_⟩
  rintro machine rfl
  rw [run_bind, hRun machine rfl, Outcome.andThen_done, hRest _ rfl]
  simp only [Machine.draw, Journal.reportAll, List.foldl_append]

theorem Draws.mono {action : Action (FrameBitmap size) α}
    {first second : α → FrameBitmap size → Prop} (hDraws : Draws action bitmap first)
    (hImplies : ∀ value pool, first value pool → second value pool) :
    Draws action bitmap second := by
  obtain ⟨value, pool, events, hFirst, hRun⟩ := hDraws
  exact ⟨value, pool, events, hImplies value pool hFirst, hRun⟩

/-- An action that only draws from the bitmap does not depend on the view. -/
theorem Draws.leads {machine : Machine (FrameBitmap size)} {action : Action (FrameBitmap size) α}
    {post : α → FrameBitmap size → Prop} (hDraws : Draws action machine.source post) :
    Leads action machine fun value after => Machine.Drawn machine after ∧
      post value after.source := by
  obtain ⟨value, pool, events, hPost, hRun⟩ := hDraws
  exact leads_of_run value (machine.draw pool events) ⟨⟨pool, events, rfl⟩, hPost⟩ rfl rfl
    fun view _ => hRun (machine.under view) rfl

/-- A step on the bitmap that succeeds. -/
theorem draws_onSource {step : FrameBitmap size → Except Fault (α × FrameBitmap size × List Event)}
    {value : α} {events : List Event} (hStep : step bitmap = .ok (value, pool, events)) :
    Draws (onSource step) bitmap fun result after => result = value ∧ after = pool := by
  refine ⟨value, pool, events, ⟨rfl, rfl⟩, ?_⟩
  rintro machine rfl
  simp only [run, onSource, hStep, Machine.draw]

theorem draws_report (bitmap : FrameBitmap size) (event : Event) :
    Draws (report event) bitmap fun _ after => after = bitmap := by
  refine ⟨(), bitmap, [event], rfl, ?_⟩
  rintro machine rfl
  rfl

/-- Marking a range of frames frees or occupies the managed ones of the range and leaves the
others as they are. -/
theorem draws_markFrames (hSound : bitmap.Sound) (range : FrameRange) (occupied : Bool) :
    Draws (markFrames range.first range.count occupied) bitmap fun _ after =>
      bitmap.Refills after fun frame =>
        (bitmap.freeAt frame = true ∧ ¬ (occupied = true ∧ frame ∈ range)) ∨
          (occupied = false ∧ frame < bitmap.limit ∧ frame ∈ range) := by
  obtain ⟨pool, hMark, hLimit, hCursor, hBits⟩ :=
    FrameBitmap.exists_markRange_eq hSound range.first range.count occupied
  have hStep : ((bitmap.markRange range.first range.count occupied).map
      fun after => ((), after, ([] : List Event))) = .ok ((), pool, []) := by
    rw [hMark]
    rfl
  unfold markFrames onBitmap
  refine (draws_onSource hStep).mono ?_
  rintro value after ⟨-, rfl⟩
  refine ⟨hLimit, hCursor, ?_, ?_⟩
  · intro frame hBeyond
    rw [hBits, if_neg (by omega)]
  · intro frame
    rw [FrameBitmap.freeAt_eq_true_iff, FrameBitmap.freeAt_eq_true_iff, hBits, hLimit]
    by_cases hInside : frame ∈ range
    · have hSpan : range.first ≤ frame ∧ frame < range.first + range.count := hInside
      by_cases hManaged : frame < bitmap.limit
      · cases occupied <;> simp [hSpan, hInside, hManaged]
      · simp [hManaged]
    · have hSpan : ¬ (range.first ≤ frame ∧ frame < range.first + range.count ∧
          frame < bitmap.limit) := fun hSpan => hInside ⟨hSpan.1, hSpan.2.1⟩
      rw [if_neg hSpan]
      simp [hInside]

/-- Freeing a region that is beyond the managed range frees nothing. -/
theorem draws_freeRegion (hSound : bitmap.Sound) (region : MemoryRegion) :
    Draws (freeRegion region) bitmap fun _ after =>
      bitmap.Refills after fun frame => bitmap.freeAt frame = true ∨
        (frame < bitmap.limit ∧ frame ∈ region.wholeFrames) := by
  have hNarrow := hSound.narrow
  unfold freeRegion
  by_cases hFirst : region.wholeFrames.first < 0x100000000
  · simp only [if_pos hFirst]
    refine (draws_report bitmap _).bind ?_
    rintro value same rfl
    refine (draws_markFrames hSound
      ⟨region.wholeFrames.first, min region.wholeFrames.count 0xFFFFFFFF⟩ false).mono ?_
    intro value after hRefills
    refine hRefills.congr ?_
    intro frame
    -- A count that is cut off reaches beyond the managed range all the same.
    have hMember : (frame < same.limit ∧ frame ∈ FrameRange.mk
        region.wholeFrames.first (min region.wholeFrames.count 0xFFFFFFFF)) ↔
        (frame < same.limit ∧ frame ∈ region.wholeFrames) := by
      simp only [Membership.mem]
      omega
    rw [hMember]
    simp
  · simp only [if_neg hFirst]
    refine .pure ((FrameBitmap.Refills.refl bitmap).congr ?_)
    intro frame
    have hOutside : ¬ (frame < bitmap.limit ∧ frame ∈ region.wholeFrames) := by
      rintro ⟨hBelow, hStart, -⟩
      omega
    simp only [hOutside, or_false]

/-- Freeing the available regions, one after the other. -/
theorem draws_freeRegions (regions : List MemoryRegion) :
    ∀ bitmap : FrameBitmap size, bitmap.Sound →
      Draws (freeRegions regions) bitmap fun _ after =>
        bitmap.Refills after fun frame => bitmap.freeAt frame = true ∨
          (frame < bitmap.limit ∧ ∃ region ∈ regions, region.Offers frame) := by
  -- Induction on the memory map; the frames of the regions met so far are free.
  induction regions with
  | nil =>
      intro bitmap hSound
      exact .pure ((FrameBitmap.Refills.refl bitmap).congr (by simp))
  | cons region rest ih =>
      intro bitmap hSound
      have hRegion : Draws (onlyIf region.isAvailable (freeRegion region)) bitmap
          fun _ after => bitmap.Refills after fun frame =>
            bitmap.freeAt frame = true ∨ (frame < bitmap.limit ∧ region.Offers frame) := by
        cases hAvailable : region.isAvailable with
        | true =>
            simp only [onlyIf, if_true, MemoryRegion.Offers, hAvailable, true_and]
            exact draws_freeRegion hSound region
        | false =>
            simp only [onlyIf, Bool.false_eq_true, if_false, MemoryRegion.Offers, hAvailable,
              false_and, and_false, or_false]
            exact .pure (.refl bitmap)
      refine hRegion.bind ?_
      intro value middle hMiddle
      refine (ih middle (hMiddle.sound hSound)).mono ?_
      intro value after hAfter
      refine (hMiddle.trans hAfter).congr ?_
      intro frame
      rw [hMiddle.free_iff, hMiddle.limit, or_assoc, ← and_or_left]
      simp only [List.mem_cons, exists_eq_or_imp]

/-- The number of free frames is reported as it is. -/
theorem draws_freeFrames (hSound : bitmap.Sound) :
    Draws freeFrames bitmap fun free after => after = bitmap ∧ free = bitmap.freeSet.card := by
  refine ⟨bitmap.freeSet.card, bitmap, [], ⟨rfl, rfl⟩, ?_⟩
  rintro machine rfl
  have hCount := FrameBitmap.freeCount_eq hSound
  simp only [freeFrames, run_bind, run_machine, Outcome.andThen_done, hCount, run_check_ok]
  rfl

/-- After the start every frame is occupied, whatever the bitmap was before. -/
theorem draws_startFrames (bitmap : FrameBitmap size) (bytes : Nat) :
    Draws (startFrames bytes) bitmap fun _ after => after = bitmap.start bytes := by
  have hStep : (Except.ok ((), bitmap.start bytes, bitmap.startEvents bytes) :
      Except Fault (Unit × FrameBitmap size × List Event)) =
        .ok ((), bitmap.start bytes, bitmap.startEvents bytes) := rfl
  unfold startFrames
  exact (draws_onSource hStep).mono fun _ _ hAfter => hAfter.2

/-- Filling the bitmap leaves exactly the frames free that it should, and answers with their
number. -/
theorem draws_seedFrames (hSize : size * 8 < 0x100000000) (bitmap : FrameBitmap size)
    (boot : BootInfo) (regions : List MemoryRegion) (image : KernelImage) :
    Draws (seedFrames boot regions image) bitmap fun free after =>
      (bitmap.start boot.memoryLimit).Refills after
        (Machine.FreeAfterSeeding size boot regions image) ∧ free = after.freeSet.card := by
  unfold seedFrames
  refine (draws_startFrames bitmap _).bind ?_
  rintro value started rfl
  have hSound := FrameBitmap.sound_start bitmap hSize boot.memoryLimit
  refine (draws_freeRegions regions _ hSound).bind ?_
  intro value freed hFreed
  have hFreedSound := hFreed.sound hSound
  refine (draws_markFrames hFreedSound ⟨0, image.frames⟩ true).bind ?_
  intro value kept hKept
  have hKeptSound := hKept.sound hFreedSound
  refine (draws_markFrames hKeptSound ⟨Layout.textFrame.number, 1⟩ true).bind ?_
  intro value seeded hSeeded
  refine (draws_freeFrames (hSeeded.sound hKeptSound)).bind ?_
  rintro free same ⟨rfl, rfl⟩
  let managed : Event := .framesManaged (same.manageableBytes / 0x100000) same.freeSet.card
  refine ⟨same.freeSet.card, same, [managed], ⟨?_, rfl⟩, by rintro machine rfl; rfl⟩
  refine ((hFreed.trans hKept).trans hSeeded).congr ?_
  intro frame
  have hLimit : (bitmap.start boot.memoryLimit).limit =
      min (FrameBitmap.framesBelow boot.memoryLimit) (size * 8) := rfl
  have hImage : frame ∈ FrameRange.mk 0 image.frames ↔ frame < image.frames := by
    show 0 ≤ frame ∧ frame < 0 + image.frames ↔ _
    omega
  have hText : frame ∈ FrameRange.mk Layout.textFrame.number 1 ↔
      frame = Layout.textFrame.number := by
    show Layout.textFrame.number ≤ frame ∧ frame < Layout.textFrame.number + 1 ↔ _
    omega
  rw [hKept.free_iff, hFreed.free_iff, hLimit, FrameBitmap.freeAt_start, hImage, hText]
  simp only [Bool.false_eq_true, false_or, true_and, Bool.true_eq_false, false_and, or_false,
    Nat.not_lt, and_assoc, ne_eq, Machine.FreeAfterSeeding]

theorem leads_seedFrames (hSize : size * 8 < 0x100000000)
    (machine : Machine (FrameBitmap size)) (boot : BootInfo) (regions : List MemoryRegion)
    (image : KernelImage) :
    Leads (seedFrames boot regions image) machine fun free after =>
      Machine.Seeded machine after boot regions image ∧ free = after.source.freeSet.card := by
  refine (draws_seedFrames hSize machine.source boot regions image).leads.mono ?_
  rintro free after ⟨hDrawn, hRefills, hFree⟩
  have hSound := FrameBitmap.sound_start machine.source hSize boot.memoryLimit
  exact ⟨⟨hDrawn, hRefills.sound hSound, hRefills.free_iff⟩, hFree⟩

end Action

end TwoLevelPaging
