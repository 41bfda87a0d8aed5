import TwoLevelPaging.Proofs.FrameBitmap.NextFit

/-!
# When a frame is handed out again

Next-fit looks at the managed frames in a circle that begins at the cursor, and `LooksFirst`
says of two frames which one it meets first.  A frame that is handed out is looked at last
from then on (`looksFirst_after`), and every frame that is free at that time is looked at later
than it (`Sound.looksFirst_of_handedOut`).  So a frame that stands before another one keeps its
place as long as it is free whenever something is handed out (`LooksFirst.step`), and the other
one cannot be handed out before it.

Calls that set frames free or occupy them do not move the cursor, so they enter only through
the bits that the next allocation finds.
-/

namespace TwoLevelPaging
namespace FrameBitmap

variable {size : Nat} {bitmap before after : FrameBitmap size} {frame other : Nat}

/-! ## The circle of frames -/

/-- With this cursor next-fit meets the one frame before it meets the other. -/
def LooksFirst (cursor frame other : Nat) : Prop :=
  if cursor ≤ frame then frame < other ∨ other < cursor else frame < other ∧ other < cursor

theorem pairwise_searchOrder (bitmap : FrameBitmap size) :
    bitmap.searchOrder.Pairwise (LooksFirst bitmap.cursor) := by
  rw [searchOrder, List.pairwise_append]
  refine ⟨?_, ?_, ?_⟩
  · refine List.Pairwise.imp_of_mem ?_ List.pairwise_lt_range'
    intro frame other hFrame _ hBefore
    rw [LooksFirst, if_pos (List.mem_range'_1.mp hFrame).1]
    exact .inl hBefore
  · refine List.Pairwise.imp_of_mem ?_ List.pairwise_lt_range'
    intro frame other hFrame hOther hBefore
    rw [List.mem_range'_1] at hFrame hOther
    rw [LooksFirst, if_neg (by omega)]
    omega
  · intro frame hFrame other hOther
    rw [List.mem_range'_1] at hFrame hOther
    rw [LooksFirst, if_pos hFrame.1]
    omega

theorem LooksFirst.asymm {cursor : Nat} (hFirst : LooksFirst cursor frame other) :
    ¬ LooksFirst cursor other frame := by
  simp only [LooksFirst] at hFirst ⊢
  split at hFirst <;> split <;> omega

/-- From behind a frame every other one is looked at before it. -/
theorem looksFirst_after (hOther : frame ≠ other) : LooksFirst (other + 1) frame other := by
  rw [LooksFirst]
  split <;> omega

/-- The frames that stand behind the one that is handed out keep their places before those
that stood behind them. -/
theorem LooksFirst.step {cursor found : Nat} (hFirst : LooksFirst cursor frame other)
    (hFound : LooksFirst cursor found frame) : LooksFirst (found + 1) frame other := by
  simp only [LooksFirst] at hFirst hFound ⊢
  split at hFirst <;> split at hFound <;> split <;> omega

/-! ## One call -/

theorem nextFree?_of_allocate {number : Nat}
    (hAllocate : bitmap.allocate = .ok (.ok number, after)) :
    bitmap.nextFree? = .ok (some number) := by
  rw [allocate] at hAllocate
  split at hAllocate
  · cases hAllocate
  · cases hAllocate
  · rename_i found hNext
    obtain ⟨occupied, -, hResult⟩ := Checked.exists_of_map_eq_ok hAllocate
    cases hResult
    exact hNext

/-- Only an allocation hands a frame out. -/
theorem exists_allocate_of_handedOut {operation : Operation} {outcome : Outcome} {page : Frame}
    (hPerform : bitmap.perform operation = .ok (outcome, after))
    (hOut : (Record.mk operation outcome).handedOut? = some page) :
    ∃ number, bitmap.allocate = .ok (.ok number, after) ∧ page = Page.ofNumber number := by
  cases operation with
  | allocate =>
      obtain ⟨⟨result, last⟩, hAllocate, hLast⟩ := Checked.exists_of_map_eq_ok hPerform
      cases hLast
      cases result with
      | ok number => exact ⟨number, hAllocate, (Option.some.inj hOut).symm⟩
      | error error => cases hOut
  | take =>
      obtain ⟨⟨taken, last, events⟩, hTake, hLast⟩ := Checked.exists_of_map_eq_ok hPerform
      cases hLast
      obtain ⟨⟨result, pool⟩, hAllocate, hReply⟩ := Checked.exists_of_bind_eq_ok hTake
      cases hReply
      cases result with
      | ok number => exact ⟨number, hAllocate, (Option.some.inj hOut).symm⟩
      | error error => cases hOut
  | start bytes =>
      cases hPerform
      cases hOut
  | mark _ _ | markRange _ _ _ | release _ | give _ | countFree | askFree _ =>
      obtain ⟨last, -, hLast⟩ := Checked.exists_of_map_eq_ok hPerform
      cases hLast
      cases hOut

/-- Every free frame but the one that is handed out is looked at later than that one. -/
theorem Sound.looksFirst_of_handedOut (hSound : bitmap.Sound) (hCursor : bitmap.CursorInRange)
    (hSize : size ≤ fullSize) {operation : Operation} {outcome : Outcome} {page : Frame}
    (hPerform : bitmap.perform operation = .ok (outcome, after))
    (hOut : (Record.mk operation outcome).handedOut? = some page) (hPositive : 1 ≤ frame)
    (hFree : bitmap.freeAt frame = true) (hOther : frame ≠ page.number) :
    LooksFirst bitmap.cursor page.number frame := by
  obtain ⟨number, hAllocate, rfl⟩ := exists_allocate_of_handedOut hPerform hOut
  have hFound : bitmap.searchOrder.find? bitmap.freeAt = some number :=
    Except.ok.inj ((hSound.nextFree?_eq hCursor).symm.trans (nextFree?_of_allocate hAllocate))
  obtain ⟨hNumber, front, behind, hOrder, hFront⟩ := List.find?_eq_some_iff_append.mp hFound
  have hListed : frame ∈ bitmap.searchOrder :=
    hCursor.mem_searchOrder.mpr ⟨hPositive, lt_limit_of_freeAt hFree⟩
  rw [number_ofNumber_of_freeAt hSize hSound hNumber] at hOther ⊢
  have hOrdered := hOrder ▸ bitmap.pairwise_searchOrder
  rw [hOrder, List.mem_append, List.mem_cons] at hListed
  rcases hListed with hBefore | hSame | hBehind
  · have hOccupied := hFront frame hBefore
    rw [hFree] at hOccupied
    cases hOccupied
  · exact absurd hSame hOther
  · exact List.rel_of_pairwise_cons (List.pairwise_append.mp hOrdered).2.1 hBehind

/-- The call starts the management over. -/
def Operation.Starts (operation : Operation) : Prop :=
  ∃ bytes, operation = .start bytes

/-- A call that neither starts over nor hands a frame out leaves the search where it is. -/
theorem Sound.cursor_eq (hSound : bitmap.Sound) (hSize : size ≤ fullSize)
    {operation : Operation} {outcome : Outcome}
    (hPerform : bitmap.perform operation = .ok (outcome, after))
    (hGoesOn : ¬ operation.Starts) :
    after.limit = bitmap.limit ∧
      after.cursor = ((Record.mk operation outcome).handedOut?.map
        fun page => page.number + 1).getD bitmap.cursor := by
  rcases hSound.cursor_cases hSize hPerform with ⟨hStarts, -⟩ | hKept
  · exact absurd hStarts hGoesOn
  · exact hKept

/-! ## Runs -/

/-- Since the earlier calls some call has handed the frame out. -/
def HandedOutSince (since : History) (frame : Nat) : Prop :=
  ∃ record ∈ since, record.handedOut?.map Page.number = some frame

/-- Since the earlier calls some call has handed out a frame, and this one was occupied at
that time. -/
def OccupiedAtAllocation (size : Nat) (since earlier : History) (frame : Nat) : Prop :=
  ∃ newer call older state, since = newer ++ call :: older ∧ call.handedOut? ≠ none ∧
    Runs size (older ++ earlier) (state : FrameBitmap size) ∧ state.isFree frame = .ok false

/-- Since the earlier calls there was a time at which the frame was occupied. -/
def OccupiedSince (size : Nat) (since earlier : History) (frame : Nat) : Prop :=
  ∃ newer older state, since = newer ++ older ∧
    Runs size (older ++ earlier) (state : FrameBitmap size) ∧ state.isFree frame = .ok false

/-- A call is made on what the calls before it have left. -/
theorem OccupiedAtAllocation.occupiedSince {since earlier : History} {record : Record}
    (hSince : OccupiedAtAllocation size (record :: since) earlier frame) :
    OccupiedSince size since earlier frame := by
  obtain ⟨newer, call, older, state, hSplit, -, hRuns, hOccupied⟩ := hSince
  cases newer with
  | nil =>
      obtain ⟨-, rfl⟩ := List.cons.inj hSplit
      exact ⟨[], since, state, rfl, hRuns, hOccupied⟩
  | cons newest newer =>
      obtain ⟨-, rfl⟩ := List.cons.inj hSplit
      exact ⟨newer ++ [call], older, state, by simp, hRuns, hOccupied⟩

theorem HandedOutSince.later {since : History} {record : Record}
    (hSince : HandedOutSince since frame) : HandedOutSince (record :: since) frame := by
  obtain ⟨call, hMember, hOut⟩ := hSince
  exact ⟨call, List.mem_cons_of_mem _ hMember, hOut⟩

theorem OccupiedAtAllocation.later {since earlier : History} {record : Record}
    (hSince : OccupiedAtAllocation size since earlier frame) :
    OccupiedAtAllocation size (record :: since) earlier frame := by
  obtain ⟨newer, call, older, state, rfl, hState⟩ := hSince
  exact ⟨record :: newer, call, older, state, rfl, hState⟩

/-- While something is handed out, the frame is occupied or keeps its place in the search. -/
theorem Runs.occupiedAtAllocation_or_free {since earlier : History} {operation : Operation}
    {outcome : Outcome} {page : Frame} (hRuns : Runs size (since ++ earlier) bitmap)
    (hSize : size ≤ fullSize)
    (hOut : (Record.mk operation outcome).handedOut? = some page) :
    OccupiedAtAllocation size (⟨operation, outcome⟩ :: since) earlier frame ∨
      bitmap.freeAt frame = true := by
  cases hFree : bitmap.freeAt frame with
  | true => exact .inr rfl
  | false =>
      refine .inl ⟨[], _, since, bitmap, rfl, by simp [hOut], hRuns, ?_⟩
      rw [isFree_eq (hRuns.sound hSize).fits, hFree]

/-- As long as a frame is neither handed out nor occupied when another one is, next-fit looks
at it before it looks at the frame that was handed out first. -/
theorem Runs.looksFirst {between earlier : History} {first : Record} {page : Frame}
    (hSize : size ≤ fullSize) (hRuns : Runs size (between ++ first :: earlier) bitmap)
    (hGoesOn : ∀ record ∈ between, ¬ record.operation.Starts)
    (hFirst : first.handedOut? = some page) (hPositive : 1 ≤ frame) (hOther : frame ≠ page.number) :
    HandedOutSince between frame ∨
      OccupiedAtAllocation size between (first :: earlier) frame ∨
      LooksFirst bitmap.cursor frame page.number := by
  induction between generalizing bitmap with
  | nil =>
      cases hRuns with
      | @next _ before after operation outcome hBefore hPerform =>
          -- A start hands nothing out, so the cursor stands behind the first frame.
          have hMoved := (hBefore.sound hSize).cursor_eq hSize hPerform <| by
            rintro ⟨bytes, rfl⟩
            cases hPerform
            cases hFirst
          refine .inr (.inr ?_)
          rw [hMoved.2, hFirst]
          exact looksFirst_after hOther
  | cons record between ih =>
      cases hRuns with
      | @next _ before after operation outcome hBefore hPerform =>
          have hSound := hBefore.sound hSize
          have hMoved := hSound.cursor_eq hSize hPerform (hGoesOn _ List.mem_cons_self)
          rcases ih hBefore fun call hCall => hGoesOn call (List.mem_cons_of_mem _ hCall) with
            hOut | hOccupied | hLooks
          · exact .inl hOut.later
          · exact .inr (.inl hOccupied.later)
          · cases hNow : (Record.mk operation outcome).handedOut? with
            | none =>
                refine .inr (.inr ?_)
                rw [hMoved.2, hNow]
                exact hLooks
            | some found =>
                by_cases hSame : frame = found.number
                · refine .inl ⟨_, List.mem_cons_self, ?_⟩
                  rw [hNow, hSame]
                  rfl
                · rcases hBefore.occupiedAtAllocation_or_free hSize hNow with hOccupied | hFree
                  · exact .inr (.inl hOccupied)
                  · have hFound := hSound.looksFirst_of_handedOut (hBefore.cursorInRange hSize)
                      hSize hPerform hNow hPositive hFree hSame
                    refine .inr (.inr ?_)
                    rw [hMoved.2, hNow]
                    exact hLooks.step hFound

/-- A frame that is handed out is occupied right after that. -/
theorem Runs.occupiedSince_of_handedOut {since earlier : History} (hSize : size ≤ fullSize)
    (hRuns : Runs size (since ++ earlier) bitmap) (hSince : HandedOutSince since frame) :
    OccupiedSince size since earlier frame := by
  induction since generalizing bitmap with
  | nil =>
      obtain ⟨record, hMember, -⟩ := hSince
      cases hMember
  | cons record since ih =>
      cases hRuns with
      | @next _ before after operation outcome hBefore hPerform =>
          obtain ⟨call, hMember, hOut⟩ := hSince
          rcases List.mem_cons.mp hMember with rfl | hRest
          · obtain ⟨page, hPage, rfl⟩ := Option.map_eq_some_iff.mp hOut
            have hSound := hBefore.sound hSize
            obtain ⟨-, hFree, hMarks⟩ := (hSound.follows hSize hPerform).handedOut page hPage
            refine ⟨[], _, bitmap, rfl, .next hBefore hPerform, ?_⟩
            rw [isFree_eq (hSound.congr hMarks.limit).fits,
              hMarks.freeAt_same (lt_limit_of_freeAt hFree)]
            rfl
          · obtain ⟨newer, older, state, rfl, hState⟩ := ih hBefore ⟨call, hRest, hOut⟩
            exact ⟨_ :: newer, older, state, rfl, hState⟩

/-- Next-fit reuses a frame only after a full round.  If a frame is handed out and later handed
out again, without a new start in between, then each other frame but frame zero was handed out
in between, or was occupied when a frame was handed out after the first time and up to the
second.  So no frame is handed out again while another one has stayed free all along. -/
theorem Runs.reuses_after_round {between earlier : History} {first second : Record} {page : Frame}
    (hSize : size ≤ fullSize) (hRuns : Runs size (second :: between ++ first :: earlier) bitmap)
    (hGoesOn : ∀ record ∈ between, ¬ record.operation.Starts)
    (hFirst : first.handedOut? = some page) (hSecond : second.handedOut? = some page)
    (hPositive : 1 ≤ frame) (hOther : frame ≠ page.number) :
    (HandedOutSince between frame ∨
      OccupiedAtAllocation size (second :: between) (first :: earlier) frame) ∧
      OccupiedSince size between (first :: earlier) frame := by
  cases hRuns with
  | @next _ before after operation outcome hBefore hPerform =>
      have hMeanwhile : HandedOutSince between frame ∨
          OccupiedAtAllocation size (⟨operation, outcome⟩ :: between) (first :: earlier) frame := by
        rcases hBefore.looksFirst hSize hGoesOn hFirst hPositive hOther with
          hOut | hOccupied | hLooks
        · exact .inl hOut
        · exact .inr hOccupied.later
        · rcases hBefore.occupiedAtAllocation_or_free hSize hSecond with hOccupied | hFree
          · exact .inr hOccupied
          · -- A free frame that is looked at first would have been handed out instead.
            have hFound := (hBefore.sound hSize).looksFirst_of_handedOut
              (hBefore.cursorInRange hSize) hSize hPerform hSecond hPositive hFree hOther
            exact absurd hFound hLooks.asymm
      refine ⟨hMeanwhile, ?_⟩
      rcases hMeanwhile with hOut | hOccupied
      · exact hBefore.occupiedSince_of_handedOut hSize hOut
      · exact hOccupied.occupiedSince

/-- Frame 2 is set free, and then frame 4 is handed out. -/
def twoFrames : History :=
  [⟨.allocate, .allocated (.ok (Page.ofNumber 4))⟩, ⟨.mark 2 false, .done⟩]

/-- Frame 2 is handed out for the first time. -/
def untilFirst : History :=
  [⟨.allocate, .allocated (.ok (Page.ofNumber 2))⟩, ⟨.mark 4 false, .done⟩,
    ⟨.mark 2 false, .done⟩, ⟨.start 0x8000, .done⟩]

theorem runs_twoFrames :
    Runs 1 (⟨.allocate, .allocated (.ok (Page.ofNumber 2))⟩ :: twoFrames ++ untilFirst)
      ⟨#v[0xFF], 8, 3⟩ := by
  have hStart : Runs 1 [⟨.start 0x8000, .done⟩] ⟨#v[0xFF], 8, 1⟩ := .next .new rfl
  have hTwo : Runs 1 (untilFirst.drop 2) ⟨#v[0xDF], 8, 1⟩ := .next hStart rfl
  have hFour : Runs 1 (untilFirst.drop 1) ⟨#v[0xD7], 8, 1⟩ := .next hTwo rfl
  have hAllocate : FrameBitmap.allocate (⟨#v[0xD7], 8, 1⟩ : FrameBitmap 1) =
      .ok (.ok 2, ⟨#v[0xF7], 8, 3⟩) := by decide +kernel
  have hFirst : Runs 1 untilFirst ⟨#v[0xF7], 8, 3⟩ := .next hFour (by rw [perform, hAllocate]; rfl)
  have hFreed : Runs 1 (twoFrames.drop 1 ++ untilFirst) ⟨#v[0xD7], 8, 3⟩ := .next hFirst rfl
  have hNext : FrameBitmap.allocate (⟨#v[0xD7], 8, 3⟩ : FrameBitmap 1) =
      .ok (.ok 4, ⟨#v[0xDF], 8, 5⟩) := by decide +kernel
  have hBoth : Runs 1 (twoFrames ++ untilFirst) ⟨#v[0xDF], 8, 5⟩ :=
    .next hFreed (by rw [perform, hNext]; rfl)
  have hSecond : FrameBitmap.allocate (⟨#v[0xDF], 8, 5⟩ : FrameBitmap 1) =
      .ok (.ok 2, ⟨#v[0xFF], 8, 3⟩) := by decide +kernel
  exact .next hBoth (by rw [perform, hSecond]; rfl)

/-- Frame 2 is free in front of the cursor, and frame 4 is handed out before it comes again. -/
theorem reuses_twoFrames :
    (HandedOutSince twoFrames 4 ∨
      OccupiedAtAllocation 1 (⟨.allocate, .allocated (.ok (Page.ofNumber 2))⟩ :: twoFrames)
        untilFirst 4) ∧ OccupiedSince 1 twoFrames untilFirst 4 := by
  refine Runs.reuses_after_round (by decide) runs_twoFrames ?_ rfl rfl (by decide) (by decide)
  intro record hRecord
  rintro ⟨bytes, hStarts⟩
  rcases List.mem_cons.mp hRecord with rfl | hRest
  · cases hStarts
  · obtain rfl := List.mem_singleton.mp hRest
    cases hStarts

end FrameBitmap
end TwoLevelPaging
