import TwoLevelPaging.Proofs.AddressSpace.Placement
import TwoLevelPaging.Proofs.SelfMap

/-!
# What a request for a directory leaves

Making a directory is all or nothing.  `Withholds` has the two reasons for which none is made:
there is no frame left, or through the self-map the scratch page cannot be used.  Then memory
and the bitmap are as before.  Otherwise `Creates` says of every frame of memory, and of every
bit of the bitmap, what it is afterwards: one free frame has become a directory that names
itself, and nothing else differs, the entry of the scratch page included.

By physical address nothing is asked of the tables, which are not even read.  Through the
self-map the address space is to be well-formed.
-/

namespace TwoLevelPaging

namespace Table

/-- The words of a directory that only names itself. -/
theorem word_selfMap (frame : Frame) :
    (∀ slot, slot ≠ Layout.selfMapSlot →
      (zero.set Layout.selfMapSlot (Entry.link frame .selfMap)).word slot = 0) ∧
    ((zero.set Layout.selfMapSlot (Entry.link frame .selfMap)).word Layout.selfMapSlot).toNat =
      frame.number * 4096 + 0x13 := by
  constructor
  · intro slot hSlot
    rw [set, word_setWord, if_neg (Ne.symm hSlot), zero, word_filled]
  · rw [set, word_setWord, if_pos rfl, Entry.toNat_toWord]
    have hFlags : (Entry.link frame .selfMap).toFlags.bits = 0x13 := rfl
    have hAvailable : (Entry.link frame .selfMap).available.val = 0 := rfl
    have hFrame : (Entry.link frame .selfMap).frame = frame := rfl
    rw [hFlags, hAvailable, hFrame]
    omega

end Table

namespace Machine

variable {size : Nat} {machine before after drawn edited : Machine (FrameBitmap size)}
  {frame : Frame}

/-- The slot of the scratch page links a table, and the entry of the page is zero. -/
def ScratchFree (machine : Machine (FrameBitmap size)) : Prop :=
  (∃ table, machine.link? Layout.scratchSlot = some table) ∧
    machine.entryAt Layout.scratchPage = Entry.zero

/-- Why no directory is made. -/
inductive Withholds (machine : Machine (FrameBitmap size)) : MapError → Prop where
  | exhausted (hNone : ¬ machine.HasSpare) : Withholds machine .outOfMemory
  | covered (hSpare : machine.HasSpare) (hAccess : machine.view.access = .selfMap)
      (hScratch : ¬ machine.ScratchFree) : Withholds machine .unreachable

theorem Withholds.unique {error other : MapError} (hWithholds : machine.Withholds error)
    (hOther : machine.Withholds other) : error = other := by
  cases hWithholds with
  | exhausted hNone =>
      cases hOther with
      | exhausted => rfl
      | covered hSpare => exact absurd hSpare hNone
  | covered hSpare =>
      cases hOther with
      | exhausted hNone => exact absurd hSpare hNone
      | covered => rfl

/-- A free frame has become a directory that names itself in its last word and has no other
entry.  All other frames of memory, and all other bits, are as before. -/
structure Creates (before after : Machine (FrameBitmap size)) (frame : Frame) : Prop where
  positive : 0 < frame.number
  free : before.Free frame
  occupied : ¬ after.Free frame
  others_free : ∀ number, number ≠ frame.number →
    after.source.freeAt number = before.source.freeAt number
  words : ∃ table, after.memory.table? frame = some table ∧
    (∀ slot, slot ≠ Layout.selfMapSlot → table.word slot = 0) ∧
    (table.word Layout.selfMapSlot).toNat = frame.number * 4096 + 0x13
  others : ∀ number, number ≠ frame.number →
    after.memory.frames[number]? = before.memory.frames[number]?
  root : after.root = before.root
  view : after.view = before.view

/-- Memory and the bits of the bitmap are as before. -/
structure KeepsAll (before after : Machine (FrameBitmap size)) : Prop where
  memory : after.memory = before.memory
  freeAt : ∀ number, after.source.freeAt number = before.source.freeAt number
  root : after.root = before.root
  view : after.view = before.view

/-- The answer to a request for a directory, with what it says of the machine.  Whether there is
one is told from the state before. -/
structure Answers (before : Machine (FrameBitmap size)) (reply : Except MapError Frame)
    (after : Machine (FrameBitmap size)) : Prop where
  error_iff : ∀ error, reply = .error error ↔ before.Withholds error
  ok_iff : (∃ frame, reply = .ok frame) ↔ ∀ error, ¬ before.Withholds error
  created : ∀ frame, reply = .ok frame → before.Creates after frame
  kept : ∀ error, reply = .error error → before.KeepsAll after

/-- The reason is the answer if nothing has changed. -/
theorem Withholds.answers {error : MapError} (hWithholds : before.Withholds error)
    (hKeeps : before.KeepsAll after) : before.Answers (.error error) after where
  error_iff other := by
    constructor
    · intro hError
      obtain rfl := Except.error.inj hError
      exact hWithholds
    · intro hOther
      rw [hWithholds.unique hOther]
  ok_iff := by
    constructor
    · rintro ⟨frame, hOk⟩
      cases hOk
    · intro hGranted
      exact absurd hWithholds (hGranted error)
  created frame hOk := by cases hOk
  kept _ _ := hKeeps

/-- The frame is the answer if there is no reason against it. -/
theorem Creates.answers (hGranted : ∀ error, ¬ before.Withholds error)
    (hCreates : before.Creates after frame) : before.Answers (.ok frame) after where
  error_iff error := iff_of_false (fun hError => by cases hError) (hGranted error)
  ok_iff := iff_of_true ⟨frame, rfl⟩ hGranted
  created other hOk := by
    obtain rfl := Except.ok.inj hOk
    exact hCreates
  kept error hError := by cases hError

/-! ## Editing the frame -/

/-- The frame holds a new directory; the machine differs in that and in its journal only. -/
structure Furnishes (before after : Machine (FrameBitmap size)) (frame : Frame) : Prop where
  memory : after.memory = (before.found frame).memory
  source_eq : after.source = before.source
  root : after.root = before.root
  view : after.view = before.view

theorem furnishes_found (machine : Machine (FrameBitmap size)) (frame : Frame) :
    machine.Furnishes (machine.found frame) frame :=
  ⟨rfl, rfl, rfl, rfl⟩

theorem furnishes_giveUp (hWalkable : machine.Walkable) (hFresh : machine.Fresh frame)
    {table : Frame} (hLink : machine.link? Layout.scratchPage.directorySlot = some table)
    (hFree : machine.entryAt Layout.scratchPage = Entry.zero) :
    machine.Furnishes (((machine.borrow table frame).found frame).giveUp table) frame :=
  ⟨memory_giveUp_of_fresh hWalkable.traversable hFresh hLink hFree, rfl, rfl, rfl⟩

theorem installed_found (hInstalled : machine.Installed frame) :
    (machine.found frame).Installed frame := by
  have hStays := (machine.stays_clear frame).trans
    ((machine.clear frame).stays_store frame Layout.selfMapSlot (Entry.link frame .selfMap))
  exact (hStays.installed frame).mpr hInstalled

/-- A free frame that is taken and made a directory is created. -/
theorem Furnishes.creates (hFurnishes : Furnishes drawn edited frame)
    (hTaken : before.Taken (some frame) drawn) (hPositive : 0 < frame.number)
    (hFree : before.Free frame) (hMarks : before.source.Marks drawn.source frame.number true)
    (hInstalled : before.Installed frame) (event : Event) :
    Creates before (edited.note (.reported event)) frame := by
  have hSource := hFurnishes.source_eq
  obtain ⟨pool, events, -, rfl⟩ := hTaken
  have hDrawn : (before.draw pool events).Installed frame := hInstalled
  have hTable := Memory.table?_eq_content (installed_found hDrawn)
  rw [content_found hDrawn, ← hFurnishes.memory] at hTable
  refine ⟨hPositive, hFree, ?_, ?_, ⟨_, hTable, Table.word_selfMap frame⟩, ?_, hFurnishes.root,
    hFurnishes.view⟩
  · have hOccupied := hMarks.freeAt_same (FrameBitmap.lt_limit_of_freeAt hFree)
    rw [Free, source_note, hSource, hOccupied]
    decide
  · intro number hNumber
    rw [source_note, hSource]
    exact hMarks.freeAt_of_ne hNumber
  · intro number hNumber
    rw [memory_note, hFurnishes.memory]
    simp only [found, store, clear, Memory.frames_modify, if_neg (Ne.symm hNumber)]
    rfl

theorem Unchanged.keepsAll (hUnchanged : Unchanged before after) : KeepsAll before after where
  memory := hUnchanged.memory
  freeAt number := by rw [hUnchanged.source_eq]
  root := hUnchanged.root
  view := hUnchanged.view

/-- A frame that goes back at once leaves everything as before. -/
theorem keepsAll_of_released (hTaken : before.Taken (some frame) drawn)
    (hPositive : 0 < frame.number) (hFree : before.Free frame)
    (hMarks : before.source.Marks drawn.source frame.number true)
    (hSound : drawn.source.Sound) (hReleased : drawn.Released frame after) :
    KeepsAll before after := by
  obtain ⟨hLimit, hBits⟩ := hReleased.undoes_mark hSound hPositive hFree hMarks
  obtain ⟨pool, events, -, rfl⟩ := hTaken
  obtain ⟨last, reports, -, rfl⟩ := hReleased
  refine ⟨rfl, ?_, rfl, rfl⟩
  intro number
  simp only [FrameBitmap.freeAt, hLimit, hBits]

end Machine

namespace Action

variable {size : Nat} {machine : Machine (FrameBitmap size)} {frame : Frame}

/-- An installed frame can be edited by physical address, and through the self-map exactly if
the scratch page is free. -/
theorem run_withFrame_cases (hLends : machine.view.lendsFrames = true)
    (hInstalled : machine.Installed frame)
    (hLive : machine.view.access = .selfMap → machine.Walkable ∧ machine.Fresh frame) :
    (machine.view.access = .selfMap ∧ ¬ machine.ScratchFree ∧
      (withFrame frame (prepareDirectory frame)).run machine = .done none machine) ∨
    (¬ (machine.view.access = .selfMap ∧ ¬ machine.ScratchFree) ∧
      ∃ edited, (withFrame frame (prepareDirectory frame)).run machine =
        .done (some ()) edited ∧ machine.Furnishes edited frame) := by
  cases hAccess : machine.view.access with
  | physical =>
      refine .inr ⟨?_, _, run_withFrame_physical hAccess hLends hInstalled,
        machine.furnishes_found frame⟩
      rintro ⟨hSelf, -⟩
      cases hSelf
  | selfMap =>
      obtain ⟨hWalkable, hFresh⟩ := hLive hAccess
      have hSlot : Layout.scratchPage.directorySlot = Layout.scratchSlot :=
        Layout.directorySlot_scratchPage.1
      by_cases hScratch : machine.ScratchFree
      · obtain ⟨⟨table, hLink⟩, hFree⟩ := hScratch
        rw [← hSlot] at hLink
        refine .inr ⟨fun hTaken => hTaken.2 ⟨⟨table, hSlot ▸ hLink⟩, hFree⟩, _,
          run_withFrame_selfMap hAccess hLends hWalkable hLink hFree hFresh,
          Machine.furnishes_giveUp hWalkable hFresh hLink hFree⟩
      · refine .inl ⟨rfl, hScratch, run_withFrame_unavailable frame hAccess hLends hWalkable ?_⟩
        intro table hLink hFree
        exact hScratch ⟨⟨table, hSlot ▸ hLink⟩, hFree⟩

/-- A request for a directory ends with the frame of one, or with the reason why there is none,
and both are told from the state before.  The frame is created and nothing else changes; without
one, memory and the free frames stay as they are. -/
theorem newDirectory_exact (hSound : machine.source.Sound)
    (hInstalled : ∀ number, 0 < number → machine.source.freeAt number = true →
      ∃ frame : Frame, frame.number = number ∧ machine.Installed frame)
    (hLends : machine.view.lendsFrames = true)
    (hLive : machine.view.access = .selfMap → machine.WellFormed) :
    ∃ reply after, newDirectory.run machine = .done reply after ∧
      machine.Answers reply after := by
  obtain ⟨found, drawn, hTaken⟩ := Machine.exists_taken hSound
  cases found with
  | none =>
      have hWithholds : machine.Withholds .outOfMemory := .exhausted (hTaken.not_hasSpare hSound)
      exact ⟨_, _, run_newDirectory_starved hTaken,
        hWithholds.answers (hTaken.unchanged hSound).keepsAll⟩
  | some frame =>
      obtain ⟨hPositive, hFree, hMarks⟩ := hTaken.marks_of_sound hSound hInstalled
      have hSpare : machine.HasSpare := ⟨frame.number, hPositive, hFree⟩
      have hFrame : machine.Installed frame := by
        obtain ⟨known, hNumber, hKnown⟩ := hInstalled _ hPositive hFree
        rwa [← Page.ext hNumber]
      have hDrawn := hTaken
      obtain ⟨pool, events, -, rfl⟩ := hDrawn
      have hDrawnLive : (machine.draw pool events).view.access = .selfMap →
          (machine.draw pool events).Walkable ∧ (machine.draw pool events).Fresh frame := by
        intro hAccess
        have hWellFormed := hLive hAccess
        have hFresh := hWellFormed.stocked.fresh_of_free hPositive hFree
        exact ⟨hWellFormed.walkable.congr (machine.stays_draw pool events) fun _ => rfl,
          hFresh.installed, hFresh.ne_root, hFresh.unlinked⟩
      have hDrawnFrame : (machine.draw pool events).Installed frame := hFrame
      have hDrawnLends : (machine.draw pool events).view.lendsFrames = true := hLends
      rcases run_withFrame_cases hDrawnLends hDrawnFrame hDrawnLive with
        ⟨hAccess, hScratch, hRun⟩ | ⟨hUsable, edited, hRun, hFurnishes⟩
      · -- The frame cannot be edited, and goes back.
        have hWithholds : machine.Withholds .unreachable := .covered hSpare hAccess hScratch
        have hDrawnSound := hTaken.sound hSound
        obtain ⟨after, hReleased⟩ := Machine.exists_released hDrawnSound frame
        exact ⟨_, after, run_newDirectory_unreachable hTaken hRun hReleased, hWithholds.answers
          (Machine.keepsAll_of_released hTaken hPositive hFree hMarks hDrawnSound hReleased)⟩
      · have hGranted : ∀ error, ¬ machine.Withholds error := by
          intro error hWithholds
          cases hWithholds with
          | exhausted hNone => exact hNone hSpare
          | covered _ hAccess hScratch => exact hUsable ⟨hAccess, hScratch⟩
        have hCreates := hFurnishes.creates hTaken hPositive hFree hMarks hFrame
          (.directoryPrepared frame)
        exact ⟨_, _, run_newDirectory_founded hTaken hRun, hCreates.answers hGranted⟩

/-- Through the self-map the tiny machine makes its first free frame a directory. -/
theorem newDirectory_tinyWithScratch :
    Machine.tinyWithScratch.source.Sound ∧ Machine.tinyWithScratch.WellFormed ∧
      ∃ after, newDirectory.run (Machine.tinyWithScratch.under { access := .selfMap }) =
          .done (.ok (Page.ofNumber 3)) after ∧
        (Machine.tinyWithScratch.under { access := .selfMap }).Creates after
          (Page.ofNumber 3) := by
  have hWellFormed := Machine.wellFormed_tinyWithScratch
  have hLive := hWellFormed.under { access := .selfMap }
  have hLends : (Machine.tinyWithScratch.under { access := .selfMap }).view.lendsFrames = true :=
    rfl
  have hInstalled : ∀ number, 0 < number →
      (Machine.tinyWithScratch.under { access := .selfMap }).source.freeAt number = true →
      ∃ frame : Frame, frame.number = number ∧
        (Machine.tinyWithScratch.under { access := .selfMap }).Installed frame :=
    fun _ => hLive.free_installed
  obtain ⟨reply, after, hRun, hAnswers⟩ :=
    newDirectory_exact hLive.sound hInstalled hLends fun _ => hLive
  have hReply : (newDirectory.run (Machine.tinyWithScratch.under { access := .selfMap })).value? =
      some (.ok (Page.ofNumber 3)) := by decide +kernel
  rw [hRun] at hReply
  obtain rfl := Option.some.inj hReply
  exact ⟨hWellFormed.sound, hWellFormed, after, hRun, hAnswers.created _ rfl⟩

end Action
end TwoLevelPaging
