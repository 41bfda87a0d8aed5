import TwoLevelPaging.Proofs.AddressSpace.Pristine
import TwoLevelPaging.Proofs.Edited

/-!
# The self-map shows the same address space

Every request does the same through the self-map as by physical address: it gives
the same reply, leaves the same memory and the same bitmap, reports the same events
and hands the same pages to the view for invalidation.  In particular no access
through the self-map faults, although each one is looked up in the tables that are
being edited.

For all requests but one this is what `Action.Leads` says, and even the single stores
agree.  A new directory is edited in the scratch page, whose table must be there and
whose entry must be free; the self-map flushes this page of its own accord, twice, and
that is all that it flushes (`Reply.flushes`).
-/

namespace TwoLevelPaging

namespace Journal

/-- Reports are no flushes. -/
theorem flushed_reportAll (journal : Journal) (events : List Event) :
    (journal.reportAll events).flushed = journal.flushed := by
  induction events generalizing journal with
  | nil => rfl
  | cons event events ih =>
      rw [reportAll, List.foldl_cons]
      exact (ih _).trans (by simp [flushed_cons, Effect.flushed?])

end Journal

namespace Machine

variable {source : Type}

/-- Nothing tells the two machines apart but their views, and the stores and flushes on
the way. -/
structure Matches (direct live : Machine source) : Prop where
  memory : live.memory = direct.memory
  source_eq : live.source = direct.source
  root : live.root = direct.root
  events : live.journal.events = direct.journal.events
  invalidations : live.journal.invalidations = direct.journal.invalidations

theorem matches_under (machine : Machine source) (first second : View) :
    Matches (machine.under first) (machine.under second) :=
  ⟨rfl, rfl, rfl, rfl, rfl⟩

/-- A directory that was made in the scratch page is the one made in place.  The
journals differ in the stores and flushes only. -/
theorem matches_giveUp {machine : Machine source} {frame table : Frame} (view : View)
    (hInstalled : machine.Installed table)
    (hFree : (machine.memory.content table).get Layout.scratchPage.tableSlot = Entry.zero)
    (hDifferent : table ≠ frame) (event : Event) :
    Matches (((machine.under view).found frame).note (.reported event))
      ((((machine.borrow table frame).found frame).giveUp table).note (.reported event)) where
  memory := memory_giveUp hInstalled hFree hDifferent
  source_eq := by simp only [giveUp, found, borrow, source_note, source_store, source_clear, under]
  root := by simp only [giveUp, found, borrow, root_note, root_store, root_clear, under]
  events := by
    simp [note, giveUp, found, borrow, store, clear, under, Journal.events_cons, Effect.event?]
  invalidations := by
    simp [note, giveUp, found, borrow, store, clear, under, Journal.invalidations_cons,
      Effect.invalidated?]

/-! ## Flushes -/

section Flushes

variable {base machine before after : Machine source} {page : VirtualPage} {slot : Slot}
  {frame table : Frame}

theorem flushed_note (machine : Machine source) (effect : Effect) :
    (machine.note effect).journal.flushed =
      machine.journal.flushed ++ effect.flushed?.toList :=
  Journal.flushed_cons effect machine.journal

@[simp]
theorem flushed_store (machine : Machine source) (frame : Frame) (slot : Slot) (entry : Entry) :
    (machine.store frame slot entry).journal.flushed = machine.journal.flushed :=
  (Journal.flushed_cons _ machine.journal).trans (List.append_nil _)

@[simp]
theorem flushed_clear (machine : Machine source) (frame : Frame) :
    (machine.clear frame).journal.flushed = machine.journal.flushed :=
  (Journal.flushed_cons _ machine.journal).trans (List.append_nil _)

@[simp]
theorem flushed_draw (machine : Machine source) (pool : source) (events : List Event) :
    (machine.draw pool events).journal.flushed = machine.journal.flushed :=
  Journal.flushed_reportAll _ _

@[simp]
theorem flushed_relink (machine : Machine source) (slot : Slot) (table : Frame) (flags : Flags) :
    (machine.relink slot table flags).journal.flushed = machine.journal.flushed := by
  simp [relink, flushed_note, Effect.flushed?]

/-- Providing a table invalidates pages, and flushes none. -/
theorem Ensured.flushed_eq [FrameSource source] {user : Bool} {result : Except LinkError Frame}
    (hEnsured : Ensured before slot user result after) :
    after.journal.flushed = before.journal.flushed := by
  cases hEnsured with
  | present hLink =>
      rw [widen]
      split <;> simp
  | fresh hLink hTake hFresh => simp [grow, flushed_note, Effect.flushed?]
  | starved hLink hTake => simp

/-- By physical address nothing is flushed, whatever a request edits. -/
theorem Edited.flushed_eq [FrameSource source] (hAccess : base.view.access = .physical)
    (hEdited : Edited base machine) : machine.journal.flushed = base.journal.flushed := by
  induction hEdited with
  | start => rfl
  | drawn hBefore pool events ih => rw [flushed_draw, ih]
  | ensured hBefore hSlot hEnsured ih => rw [hEnsured.flushed_eq, ih]
  | placed hBefore hPage hLink hSame entry ih =>
      rw [place]
      split <;> simp [flushed_note, Effect.flushed?, ih]
  | vacated hBefore hPage ih =>
      rw [vacate]
      split <;> simp [flushed_note, Effect.flushed?, ih]
  | founded hBefore hFresh ih => simp [found, ih]
  | lent hBefore hSelfMap =>
      rw [hAccess] at hSelfMap
      cases hSelfMap

/-- A directory that is made in the scratch page has it flushed twice. -/
theorem flushed_giveUp (machine : Machine source) (frame table : Frame) :
    (((machine.borrow table frame).found frame).giveUp table).journal.flushed =
      machine.journal.flushed ++ [Layout.scratchPage, Layout.scratchPage] := by
  simp [giveUp, found, borrow, flushed_note, Effect.flushed?]

end Flushes

end Machine

/-- The pages that the self-map flushes of its own accord for a request with this answer:
the scratch page, when the frame of a new directory has been put there and when it has
been taken out. -/
def Reply.flushes : Reply → List VirtualPage
  | .created (.ok _) => [Layout.scratchPage, Layout.scratchPage]
  | _ => []

namespace Command

variable {size : Nat} {machine : Machine (FrameBitmap size)}

/-- Only a request for a new directory has the scratch page flushed. -/
theorem Ends.flushes_eq_nil {command : Command} {reply : Reply} {after : Machine (FrameBitmap size)}
    (hCommand : command ≠ .newDirectory) (hEnds : Ends machine command reply after) :
    reply.flushes = [] := by
  cases hEnds with
  | newDirectory => exact absurd rfl hCommand
  | _ => rfl

end Command

namespace Action

variable {size : Nat} {machine : Machine (FrameBitmap size)} {table : Frame}

/-- A new directory is the same, made in place or in the scratch page, but for the flushes of
the scratch page. -/
theorem exists_run_newDirectory_matches (hWellFormed : machine.WellFormed)
    (hScratch : machine.link? Layout.scratchSlot = some table)
    (hFree : machine.entryAt Layout.scratchPage = Entry.zero) :
    ∃ result direct live, newDirectory.run (machine.under {}) = .done result direct ∧
      newDirectory.run (machine.under { access := .selfMap }) = .done result live ∧
      Machine.Matches direct live ∧ direct.journal.flushed = machine.journal.flushed ∧
      live.journal.flushed = machine.journal.flushed ++ (Reply.created result).flushes := by
  obtain ⟨found, drawn, hTaken⟩ := Machine.exists_taken hWellFormed.sound
  have hTakenUnder : ∀ view, (machine.under view).Taken found (drawn.under view) := by
    intro view
    obtain ⟨pool, events, hTake, rfl⟩ := hTaken
    exact ⟨pool, events, hTake, rfl⟩
  have hDrawn : drawn.journal.flushed = machine.journal.flushed := by
    obtain ⟨pool, events, -, rfl⟩ := hTaken
    exact machine.flushed_draw pool events
  cases found with
  | none =>
      exact ⟨_, _, _, run_newDirectory_starved (hTakenUnder _),
        run_newDirectory_starved (hTakenUnder _), drawn.matches_under _ _, hDrawn,
        hDrawn.trans (List.append_nil _).symm⟩
  | some frame =>
      obtain ⟨hPositive, hFrame, -⟩ := hTaken.marks hWellFormed.stocked
      have hFresh := hWellFormed.stocked.fresh_of_free hPositive hFrame
      have hWalkable := hWellFormed.walkable
      obtain ⟨pool, events, -, rfl⟩ := hTaken
      have hSlot : machine.link? Layout.scratchPage.directorySlot = some table := by
        rw [Layout.directorySlot_scratchPage.1]
        exact hScratch
      let live := (machine.draw pool events).under { access := .selfMap }
      have hLiveFresh : live.Fresh frame := ⟨hFresh.installed, hFresh.ne_root, hFresh.unlinked⟩
      have hLiveWalkable : live.Walkable :=
        ⟨⟨hWalkable.root_installed, hWalkable.table_installed, hWalkable.table_ne_root,
          hWalkable.slot_unique⟩, hWalkable.self_linked⟩
      have hDirectRun := run_newDirectory_founded (hTakenUnder {})
        (run_withFrame_physical rfl rfl hFresh.installed)
      have hLiveRun := run_newDirectory_founded (hTakenUnder { access := .selfMap })
        (run_withFrame_selfMap rfl rfl hLiveWalkable hSlot hFree hLiveFresh)
      have hInstalled : live.Installed table := hWalkable.installed hSlot
      have hDifferent : table ≠ frame := by
        rintro rfl
        exact hFresh.unlinked _ hSlot
      have hEntry : (live.memory.content table).get Layout.scratchPage.tableSlot =
          Entry.zero := by
        rw [← Machine.entryAt_of_linked (show live.link? _ = some table from hSlot)]
        exact hFree
      refine ⟨_, _, _, hDirectRun, hLiveRun,
        Machine.matches_giveUp {} hInstalled hEntry hDifferent _, ?_, ?_⟩
      · rw [Machine.flushed_note, Machine.found, Machine.flushed_store, Machine.flushed_clear]
        exact (List.append_nil _).trans hDrawn
      · rw [Machine.flushed_note, Machine.flushed_giveUp]
        exact (List.append_nil _).trans (congrArg (· ++ _) hDrawn)

end Action

namespace Command

variable {size : Nat} {machine : Machine (FrameBitmap size)} {table : Frame}

/-- From a well-formed state with a free scratch page, a request gives the same reply
through the self-map as by physical address, and leaves the same memory, the same
bitmap and the same invalidations.  What the self-map flushes beside them is the scratch
page, twice for a new directory, and nothing else. -/
theorem selfMap_agrees (hWellFormed : machine.WellFormed)
    (hScratch : machine.link? Layout.scratchSlot = some table)
    (hFree : machine.entryAt Layout.scratchPage = Entry.zero) (command : Command) :
    ∃ reply direct live, command.perform.run (machine.under {}) = .done reply direct ∧
      command.perform.run (machine.under { access := .selfMap }) = .done reply live ∧
      Machine.Matches direct live ∧ direct.journal.flushed = machine.journal.flushed ∧
      live.journal.flushed = machine.journal.flushed ++ reply.flushes := by
  by_cases hCommand : command = .newDirectory
  · subst hCommand
    obtain ⟨result, direct, live, hDirect, hLive, hAgree⟩ :=
      Action.exists_run_newDirectory_matches hWellFormed hScratch hFree
    exact ⟨.created result, direct, live, by simp [perform, hDirect], by simp [perform, hLive],
      hAgree⟩
  · have hDirect := hWellFormed.under {}
    have hSeen : ∀ view : View, view.Unrestricted → (machine.under {}).SeenThrough view :=
      fun _ => hDirect.walkable.seenThrough
    obtain ⟨reply, after, hEnds, hRun⟩ := leads_ends hDirect hCommand
    -- The edits are those of the run by physical address, so they flush nothing.
    have hFlushed := (hEnds.edited hDirect).flushed_eq rfl
    refine ⟨reply, _, _, (hRun {} (hSeen _ ⟨rfl, rfl⟩)).1,
      (hRun { access := .selfMap } (hSeen _ ⟨rfl, rfl⟩)).1, after.matches_under _ _, hFlushed, ?_⟩
    rw [hEnds.flushes_eq_nil hCommand, List.append_nil]
    exact hFlushed

end Command

namespace Machine

/-- The tiny machine with a table for the scratch page. -/
def tinyWithScratch : Machine (FrameBitmap 1) :=
  match (Action.ensureTable Layout.scratchSlot false).run tiny with
  | .done _ after => after
  | .fault _ _ => tiny

theorem wellFormed_tinyWithScratch : tinyWithScratch.WellFormed := by
  have hTiny := pristine_tiny.wellFormed
  have hSlot : Layout.scratchSlot ≠ Layout.selfMapSlot := by decide
  obtain ⟨result, after, hEnsured⟩ := exists_ensured hTiny.stocked Layout.scratchSlot false
  have hVisible : tiny.view.hiddenSlots.contains Layout.scratchSlot = false := by simp [tiny]
  have hRun := Action.run_ensureTable hTiny.walkable.navigable hVisible hSlot hEnsured
  have hSame : tinyWithScratch = after := by
    unfold tinyWithScratch
    simp only [hRun]
  rw [hSame]
  exact ((Ledger.start tiny).ensured hTiny hSlot hEnsured).wellFormed hTiny

end Machine

/-- The scratch page of the tiny machine holds the frame of the new directory for a while,
and only the self-map flushes it. -/
theorem Command.newDirectory_tinyWithScratch_agrees :
    ∃ direct live,
      newDirectory.perform.run (Machine.tinyWithScratch.under {}) =
          .done (.created (.ok (Page.ofNumber 3))) direct ∧
        newDirectory.perform.run (Machine.tinyWithScratch.under { access := .selfMap }) =
          .done (.created (.ok (Page.ofNumber 3))) live ∧
        Machine.Matches direct live ∧ direct.journal.flushed = [] ∧
        live.journal.flushed = [Layout.scratchPage, Layout.scratchPage] := by
  have hScratch : Machine.tinyWithScratch.link? Layout.scratchSlot = some (Page.ofNumber 2) := by
    decide +kernel
  have hFree : Machine.tinyWithScratch.entryAt Layout.scratchPage = Entry.zero := by
    decide +kernel
  have hStart : Machine.tinyWithScratch.journal.flushed = [] := by decide +kernel
  have hReply : (Action.newDirectory.run (Machine.tinyWithScratch.under {})).value? =
      some (.ok (Page.ofNumber 3)) := by decide +kernel
  obtain ⟨reply, direct, live, hDirect, hLive, hMatches, hQuiet, hFlushed⟩ :=
    selfMap_agrees Machine.wellFormed_tinyWithScratch hScratch hFree .newDirectory
  have hCreated : reply = .created (.ok (Page.ofNumber 3)) := by
    rw [perform, Action.run_map] at hDirect
    cases hRun : Action.newDirectory.run (Machine.tinyWithScratch.under {}) with
    | fault cause journal =>
        rw [hRun] at hReply
        cases hReply
    | done result after =>
        rw [hRun] at hReply hDirect
        obtain rfl := Option.some.inj hReply
        exact (Outcome.done.inj hDirect).1.symm
  subst hCreated
  rw [hStart] at hQuiet hFlushed
  exact ⟨direct, live, hDirect, hLive, hMatches, hQuiet, hFlushed⟩

end TwoLevelPaging
