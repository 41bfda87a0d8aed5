import TwoLevelPaging.Proofs.AddressSpace.Pristine
import TwoLevelPaging.Proofs.AddressSpace.Requests
import TwoLevelPaging.Proofs.FrameBitmap.History

/-!
# Tables that the view withholds

A view may withhold the tables of some slots.  Providing a table stores the link first, because
the self-map shows a table only then, and asks the view afterwards.  So a slot that is withheld
has been linked or widened by the time the request fails (`Machine.Misses`), and nothing of
this is taken back: a frame that has become the table is not free any more, and still holds
what it held before, which the page walk takes for mappings (`Machine.Strands`).  Only a slot
that links a table already, and need not be widened, is left as it was
(`Machine.Strands.sameSpace_iff`).

The requests that map a page fail in this way exactly where providing a table does.  This is
read off their runs backwards, from the answer to the table (`exists_of_run_bind`); what comes
before it only reads (`Action.Observes`).
-/

namespace TwoLevelPaging

namespace Action

variable {source α β : Type} {machine after : Machine source}

/-! ## Runs from their end -/

/-- A run of two actions that ends has ended the first one. -/
theorem exists_of_run_bind {first : Action source α} {next : α → Action source β} {value : β}
    (hRun : (first >>= next).run machine = .done value after) :
    ∃ middle reached, first.run machine = .done middle reached ∧
      (next middle).run reached = .done value after := by
  rw [run_bind] at hRun
  cases hFirst : first.run machine with
  | done middle reached =>
      rw [hFirst] at hRun
      exact ⟨middle, reached, rfl, hRun⟩
  | fault cause journal =>
      rw [hFirst] at hRun
      cases hRun

/-- The action leaves the machine alone. -/
def Observes (action : Action source α) : Prop :=
  ∀ (machine : Machine source) (value : α) (after : Machine source),
    action.run machine = .done value after → after = machine

theorem observes_pure (value : α) : Observes (pure value : Action source α) := by
  intro machine result after hRun
  rw [run_pure] at hRun
  exact (Outcome.done.inj hRun).2.symm

theorem observes_machine : Observes (Action.machine : Action source (Machine source)) := by
  intro machine result after hRun
  rw [run_machine] at hRun
  exact (Outcome.done.inj hRun).2.symm

theorem Observes.bind {first : Action source α} {next : α → Action source β}
    (hFirst : Observes first) (hNext : ∀ value, Observes (next value)) :
    Observes (first >>= next) := by
  intro machine value after hRun
  obtain ⟨middle, reached, hStart, hRest⟩ := exists_of_run_bind hRun
  rw [hNext middle _ _ _ hRest, hFirst _ _ _ hStart]

theorem Observes.map {action : Action source α} (hAction : Observes action) (change : α → β) :
    Observes (change <$> action) := by
  rw [map_eq_pure_bind]
  exact hAction.bind fun _ => observes_pure _

theorem observes_loadTable (frame : Frame) : Observes (loadTable frame : Action source Table) := by
  intro machine table after hRun
  cases hTable : machine.memory.table? frame with
  | some known =>
      rw [run_loadTable_of_some hTable] at hRun
      exact (Outcome.done.inj hRun).2.symm
  | none => simp [run, loadTable, hTable] at hRun

theorem observes_resolve (location : Location) :
    Observes (resolve location : Action source Frame) := by
  intro machine frame after hRun
  cases location with
  | frame known => exact (Outcome.done.inj hRun).2.symm
  | window page =>
      cases hLeaf : machine.memory.leaf? machine.root page with
      | some entry =>
          simp only [run, resolve, hLeaf] at hRun
          exact (Outcome.done.inj hRun).2.symm
      | none => simp [run, resolve, hLeaf] at hRun

theorem observes_readTable (location : Location) :
    Observes (readTable location : Action source Table) :=
  (observes_resolve location).bind observes_loadTable

theorem observes_readEntry (location : Location) (slot : Slot) :
    Observes (readEntry location slot : Action source Entry) :=
  (observes_readTable location).bind fun _ => observes_pure _

theorem observes_locateFrame (frame : Frame) :
    Observes (locateFrame frame : Action source Location) :=
  (observes_loadTable frame).bind fun _ => observes_pure _

theorem observes_directory : Observes (directory : Action source Location) := by
  refine observes_machine.bind fun current => ?_
  split
  · exact observes_locateFrame _
  · exact observes_pure _

theorem observes_linkedTable? (slot : Slot) :
    Observes (linkedTable? slot : Action source (Option Location)) := by
  refine observes_directory.bind fun root => (observes_readEntry root slot).bind fun link => ?_
  split
  · exact observes_pure _
  · refine observes_machine.bind fun current => ?_
    split
    · exact (observes_locateFrame _).map some
    · exact observes_pure _

theorem observes_table? (slot : Slot) :
    Observes (table? slot : Action source (Option Location)) := by
  refine observes_machine.bind fun current => ?_
  split
  · exact observes_pure _
  · exact observes_linkedTable? slot

theorem observes_freeSlot? (slot start : Slot) :
    Observes (freeSlot? slot start : Action source (Option { free : Slot // start ≤ free })) := by
  refine (observes_table? slot).bind fun location => ?_
  cases location with
  | none => exact observes_pure _
  | some location => exact (observes_readTable location).bind fun _ => observes_pure _

theorem observes_findFreeIn (slot start : Slot) :
    Observes (findFreeIn slot start : Action source (Option VirtualPage)) := by
  -- Each retry starts behind the page that was reserved.
  induction hDistance : 1024 - start.val using Nat.strongRecOn generalizing start with
  | ind distance ih =>
      rw [findFreeIn]
      refine (observes_freeSlot? slot start).bind fun free => ?_
      cases free with
      | none => exact observes_pure _
      | some free =>
          simp only
          split
          · split
            case h_1 => exact observes_pure _
            case h_2 next hNext =>
              exact ih _ (hDistance ▸ Slot.distance_lt free.property hNext) next rfl
          · exact observes_pure _

theorem observes_findFreeFrom (slot start : Slot) :
    Observes (findFreeFrom slot start : Action source (Option VirtualPage)) := by
  -- The search moves to a higher slot until it meets the self-map.
  induction hDistance : 1024 - slot.val using Nat.strongRecOn generalizing slot start with
  | ind distance ih =>
      rw [findFreeFrom]
      split
      · refine (observes_findFreeIn slot start).bind fun found => ?_
        cases found with
        | some page => exact observes_pure _
        | none =>
            simp only
            split
            case h_1 => exact observes_pure _
            case h_2 next hNext =>
              exact ih _ (hDistance ▸ Slot.distance_lt (Fin.le_refl slot) hNext) next 0 rfl
      · exact observes_pure _

/-- The search for a free page only reads, whatever the view withholds. -/
theorem observes_findFree (page : VirtualPage) :
    Observes (findFree page : Action source (Option VirtualPage)) :=
  observes_findFreeFrom _ _

end Action

namespace Machine

/-! ## Missing a table -/

/-- The ways in which providing a table fails for a slot that is withheld: the slot has been
widened, or a fresh frame has been linked, or no frame is left. -/
inductive Misses {source : Type} [FrameSource source] (machine : Machine source) (slot : Slot)
    (user : Bool) : LinkError → Machine source → Prop
  | linked {table : Frame} (hLink : machine.link? slot = some table) :
      Misses machine slot user (.tableUnreachable slot.val) (machine.widen slot table user)
  | fresh {table : Frame} {pool : source} {events : List Event}
      (hLink : machine.link? slot = none)
      (hTake : FrameSource.take machine.source = .ok (some table, pool, events)) :
      Misses machine slot user (.tableUnreachable slot.val)
        ((machine.draw pool events).linkStale slot table user)
  | starved {pool : source} {events : List Event} (hLink : machine.link? slot = none)
      (hTake : FrameSource.take machine.source = .ok (none, pool, events)) :
      Misses machine slot user .outOfMemory (machine.draw pool events)

variable {size : Nat} {machine before drawn reached after : Machine (FrameBitmap size)}
  {slot : Slot} {table frame : Frame} {user : Bool} {cause : LinkError} {number : Nat}

/-- What a machine has in stock does not depend on the view. -/
theorem Stocked.under (hStocked : machine.Stocked) (view : View) :
    (machine.under view).Stocked where
  root_installed := hStocked.root_installed
  table_installed := hStocked.table_installed
  table_ne_root := hStocked.table_ne_root
  slot_unique := hStocked.slot_unique
  linked_installed := hStocked.linked_installed
  root_occupied := hStocked.root_occupied
  linked_occupied := hStocked.linked_occupied
  free_installed := hStocked.free_installed
  sound := hStocked.sound

/-- Providing a table for a slot that is withheld fails in one of these ways. -/
theorem exists_misses (hStocked : machine.Stocked) (slot : Slot) (user : Bool) :
    ∃ cause after, machine.Misses slot user cause after := by
  cases hLink : machine.link? slot with
  | some table => exact ⟨_, _, .linked hLink⟩
  | none =>
      obtain ⟨found, after, pool, events, hTake, -⟩ := exists_taken hStocked.sound
      cases found with
      | none => exact ⟨_, _, .starved hLink hTake⟩
      | some table => exact ⟨_, _, .fresh hLink hTake⟩

/-- The address space and the free frames are the same. -/
structure SameSpace (before after : Machine (FrameBitmap size)) : Prop where
  root : after.root = before.root
  contents : ∀ frame, after.memory.content frame = before.memory.content frame
  free : ∀ number, after.source.freeAt number = before.source.freeAt number

/-- What a request leaves behind that has not reached the table of a slot.  If the slot linked
a table, it is widened.  If not, a frame that was free is linked there and is not free any
more, and the pages of the slot have what it held.  Nothing else has changed. -/
structure Strands (before after : Machine (FrameBitmap size)) (slot : Slot) (user : Bool) :
    Prop where
  hidden : before.view.hiddenSlots.contains slot = true
  below : slot ≠ Layout.selfMapSlot
  stays : Stays before after
  limit : after.source.limit = before.source.limit
  links : ∀ other, slot ≠ other → after.linkAt other = before.linkAt other
  contents : ∀ frame, frame ≠ before.root →
    after.memory.content frame = before.memory.content frame
  widened : ∀ {table}, before.link? slot = some table →
    after.linkAt slot = (if user && !(before.linkAt slot).user then
        Entry.link table { (before.linkAt slot).toFlags with user := true }
      else before.linkAt slot) ∧
    ∀ number, after.source.freeAt number = before.source.freeAt number
  stranded : before.link? slot = none → ∃ table, before.Free table ∧
    after.linkAt slot = Entry.link table { Flags.kernelReadWrite with user := user } ∧
    (∀ page : VirtualPage, page.directorySlot = slot →
      after.entryAt page = (before.memory.content table).get page.tableSlot) ∧
    ∀ number, after.source.freeAt number = true ↔
      before.source.freeAt number = true ∧ number ≠ table.number

/-- A linked slot that is missed has been widened at most. -/
theorem strands_widen (hRoot : machine.Installed machine.root) (hBelow : slot ≠ Layout.selfMapSlot)
    (hHidden : machine.view.hiddenSlots.contains slot = true)
    (hLink : machine.link? slot = some table) (user : Bool) :
    machine.Strands (machine.widen slot table user) slot user := by
  refine ⟨hHidden, hBelow, machine.stays_widen slot table user, by rw [source_widen],
    ?_, ?_, ?_, ?_⟩
  · intro other hOther
    rw [linkAt_widen_eq hRoot, if_neg fun hSame => hOther hSame.1]
  · intro frame hFrame
    exact machine.content_widen slot table user hFrame
  · intro linked hLinked
    obtain rfl := Option.some.inj (hLink.symm.trans hLinked)
    rw [linkAt_widen_eq hRoot, source_widen]
    simp
  · intro hNone
    rw [hLink] at hNone
    cases hNone

/-- A frame that has been taken for a slot that is missed stays linked there as it was. -/
theorem strands_linkStale (hStocked : machine.Stocked) (hBelow : slot ≠ Layout.selfMapSlot)
    (hHidden : machine.view.hiddenSlots.contains slot = true)
    (hLink : machine.link? slot = none) (hTaken : machine.Taken (some table) drawn)
    (user : Bool) : machine.Strands (drawn.linkStale slot table user) slot user := by
  obtain ⟨hPositive, hFree, hMarks⟩ := hTaken.marks hStocked
  have hTable : table ≠ machine.root := (hStocked.fresh_of_free hPositive hFree).ne_root
  obtain ⟨pool, events, -, rfl⟩ := hTaken
  have hStays := machine.stays_draw pool events
  have hLinks := (machine.draw pool events).linkAt_linkStale hStocked.root_installed slot
  refine ⟨hHidden, hBelow, hStays.trans (stays_linkStale _ slot table user), hMarks.limit,
    ?_, ?_, ?_, ?_⟩
  · intro other hOther
    rw [hLinks, if_neg hOther]
    rfl
  · intro frame hFrame
    exact (machine.draw pool events).content_linkStale slot table user hFrame
  · intro linked hLinked
    rw [hLink] at hLinked
    cases hLinked
  · intro _
    refine ⟨table, hFree, by rw [hLinks, if_pos rfl], ?_, ?_⟩
    · rintro page rfl
      have hLinked : ((machine.draw pool events).linkStale page.directorySlot table user).link?
          page.directorySlot = some table := by
        rw [link?, hLinks, if_pos rfl, Entry.presentFrame?_link]
      have hContent := (machine.draw pool events).content_linkStale page.directorySlot table user
        hTable
      rw [entryAt_of_linked hLinked, hContent, memory_draw]
    · intro other
      exact ⟨fun hOther => ⟨hMarks.freeAt_before hFree hOther, hMarks.ne_of_freeAt hOther⟩,
        fun hOther => (hMarks.freeAt_of_ne hOther.2).trans hOther.1⟩

/-- What a failure leaves that was not for want of a frame. -/
theorem Misses.strands (hStocked : machine.Stocked) (hBelow : slot ≠ Layout.selfMapSlot)
    (hHidden : machine.view.hiddenSlots.contains slot = true)
    (hMisses : machine.Misses slot user (.tableUnreachable number) after) :
    number = slot.val ∧ machine.Strands after slot user := by
  cases hMisses with
  | linked hLink =>
      exact ⟨rfl, strands_widen hStocked.root_installed hBelow hHidden hLink user⟩
  | fresh hLink hTake =>
      exact ⟨rfl, strands_linkStale hStocked hBelow hHidden hLink ⟨_, _, hTake, rfl⟩ user⟩

/-- The directory is the same if all of its words are. -/
theorem content_root_eq (hRoot : after.root = before.root)
    (hLinks : ∀ slot, after.linkAt slot = before.linkAt slot) :
    after.memory.content before.root = before.memory.content before.root := by
  refine Table.ext fun slot => ?_
  show _ = before.linkAt slot
  rw [← hRoot, ← hLinks slot, linkAt]

/-- All of the address space and of the free frames is as it was exactly if the slot linked a
table, and its link admitted unprivileged code or need not. -/
theorem Strands.sameSpace_iff (hStrands : before.Strands after slot user) :
    before.SameSpace after ↔
      (∃ table, before.link? slot = some table) ∧
        (user = true → (before.linkAt slot).user = true) := by
  constructor
  · intro hSame
    have hLinks : ∀ other, after.linkAt other = before.linkAt other := fun other => by
      rw [linkAt, hSame.root, hSame.contents, linkAt]
    cases hLink : before.link? slot with
    | none =>
        obtain ⟨table, -, hNew, -⟩ := hStrands.stranded hLink
        rw [link?, ← hLinks, hNew, Entry.presentFrame?_link] at hLink
        cases hLink
    | some table =>
        refine ⟨⟨table, rfl⟩, ?_⟩
        intro hUser
        obtain ⟨hWord, -⟩ := hStrands.widened hLink
        rw [hLinks] at hWord
        by_contra hAdmitted
        rw [if_pos (by simp [hUser, hAdmitted])] at hWord
        rw [hWord] at hAdmitted
        exact hAdmitted rfl
  · rintro ⟨⟨table, hLink⟩, hAdmitted⟩
    obtain ⟨hWord, hFree⟩ := hStrands.widened hLink
    have hNarrow : ¬ (user && !(before.linkAt slot).user) = true := by
      rw [Bool.and_eq_true, Bool.not_eq_true']
      rintro ⟨hUser, hLinkUser⟩
      rw [hAdmitted hUser] at hLinkUser
      cases hLinkUser
    rw [if_neg hNarrow] at hWord
    refine ⟨hStrands.stays.root, ?_, hFree⟩
    intro frame
    by_cases hFrame : frame = before.root
    · rw [hFrame]
      refine content_root_eq hStrands.stays.root fun other => ?_
      by_cases hOther : slot = other
      · exact hOther ▸ hWord
      · exact hStrands.links other hOther
    · exact hStrands.contents frame hFrame

/-- A frame that is taken before and given back afterwards is free again. -/
theorem Strands.released (hStocked : before.Stocked) (hTaken : before.Taken (some frame) drawn)
    (hStrands : drawn.Strands reached slot user) (hReleased : reached.Released frame after) :
    before.Strands after slot user := by
  obtain ⟨hPositive, hFrame, hTakes⟩ := hTaken.marks hStocked
  have hManaged : frame.number < before.source.limit := FrameBitmap.lt_limit_of_freeAt hFrame
  have hLimit : reached.source.limit = before.source.limit := hStrands.limit.trans hTakes.limit
  have hGives := hReleased.marks (hStocked.sound.congr hLimit) hPositive (hLimit ▸ hManaged)
  have hAgain : after.source.freeAt frame.number = true :=
    hGives.freeAt_same (hLimit ▸ hManaged)
  have hUsed : drawn.source.freeAt frame.number = false := hTakes.freeAt_same hManaged
  obtain ⟨pool, events, -, rfl⟩ := hTaken
  obtain ⟨next, later, -, rfl⟩ := hReleased
  refine ⟨hStrands.hidden, hStrands.below, ((before.stays_draw pool events).trans
    hStrands.stays).trans (reached.stays_draw next later), hGives.limit.trans hLimit,
    hStrands.links, hStrands.contents, ?_, ?_⟩
  · intro table hLink
    obtain ⟨hWord, hFree⟩ := hStrands.widened hLink
    refine ⟨hWord, ?_⟩
    intro number
    by_cases hNumber : number = frame.number
    · rw [hNumber, hAgain]
      exact hFrame.symm
    · rw [hGives.freeAt_of_ne hNumber, hFree, hTakes.freeAt_of_ne hNumber]
  · intro hLink
    obtain ⟨table, hTable, hWord, hPages, hFree⟩ := hStrands.stranded hLink
    have hOther : table.number ≠ frame.number := by
      intro hSame
      rw [Free, hSame, hUsed] at hTable
      cases hTable
    refine ⟨table, (hTakes.freeAt_of_ne hOther).symm.trans hTable, hWord, hPages, ?_⟩
    intro number
    by_cases hNumber : number = frame.number
    · rw [hNumber, hAgain]
      exact iff_of_true rfl ⟨hFrame, hOther.symm⟩
    · rw [hGives.freeAt_of_ne hNumber, hFree, hTakes.freeAt_of_ne hNumber]

end Machine

namespace Action

variable {size : Nat} {machine after : Machine (FrameBitmap size)} {slot : Slot}
  {page : VirtualPage} {frame : Frame} {flags : UInt32} {user forced : Bool}
  {cause : LinkError} {number : Nat} {address : Address .virtual} {physical : Address .physical}

/-! ## Requests that miss a table -/

theorem run_table?_of_hidden (hHidden : machine.view.hiddenSlots.contains slot = true) :
    (table? slot).run machine = .done none machine := by
  simp only [table?, run_bind, run_machine, Outcome.andThen_done, hHidden, if_true, run_pure]

/-- A slot that is withheld is linked or widened, and then the view is asked in vain. -/
theorem run_ensureTable_of_misses (hNavigable : machine.Navigable)
    (hBelow : slot ≠ Layout.selfMapSlot)
    (hHidden : machine.view.hiddenSlots.contains slot = true)
    (hMisses : machine.Misses slot user cause after) :
    (ensureTable slot user).run machine = .done (.error cause) after := by
  cases hMisses with
  | linked hLink =>
      rename_i table
      have hStill : (machine.widen slot table user).view.hiddenSlots.contains slot = true := by
        rw [(machine.stays_widen slot table user).view]
        exact hHidden
      simp [ensureTable, hBelow, run_ensureLink_present hNavigable hLink user,
        run_table?_of_hidden hStill]
  | fresh hLink hTake =>
      rename_i table pool events
      have hStill : ((machine.draw pool events).linkStale slot table user).view.hiddenSlots.contains
          slot = true := hHidden
      simp [ensureTable, hBelow, run_ensureLink_fresh hNavigable hLink hTake user,
        run_table?_of_hidden hStill]
  | starved hLink hTake =>
      simp [ensureTable, hBelow, run_ensureLink_starved hNavigable hLink hTake user]

/-- The table of a slot is missed only if the slot is withheld, and leaves what it leaves. -/
theorem strands_of_run_ensureTable (hStocked : machine.Stocked) (hNavigable : machine.Navigable)
    (hRun : (ensureTable slot user).run machine = .done (.error (.tableUnreachable number)) after) :
    number = slot.val ∧ machine.Strands after slot user := by
  have hBelow : slot ≠ Layout.selfMapSlot := by
    rintro rfl
    simp [ensureTable] at hRun
  cases hHidden : machine.view.hiddenSlots.contains slot with
  | true =>
      obtain ⟨cause, reached, hMisses⟩ := Machine.exists_misses hStocked slot user
      rw [run_ensureTable_of_misses hNavigable hBelow hHidden hMisses] at hRun
      obtain ⟨hCause, rfl⟩ := Outcome.done.inj hRun
      obtain rfl := Except.error.inj hCause
      exact hMisses.strands hStocked hBelow hHidden
  | false =>
      -- What the view does not withhold is found, or there is no frame for it.
      obtain ⟨result, reached, hEnsured⟩ := Machine.exists_ensured hStocked slot user
      rw [run_ensureTable hNavigable hHidden hBelow hEnsured] at hRun
      obtain ⟨hResult, -⟩ := Outcome.done.inj hRun
      cases hEnsured <;> cases hResult

/-- A mapping is refused because the page is in use, or because its table is not provided. -/
theorem run_ensureTable_of_run_install
    (hRun : (install page frame flags forced).run machine = .done (.error cause) after)
    (hCause : cause ≠ .occupied) :
    (ensureTable page.directorySlot (Flags.ofWord flags).user).run machine =
      .done (.error cause) after := by
  rw [install] at hRun
  obtain ⟨table, reached, hTable, hRest⟩ := exists_of_run_bind hRun
  rw [hTable]
  cases table with
  | error error =>
      obtain ⟨hSame, rfl⟩ := Outcome.done.inj hRest
      rw [Except.error.inj hSame]
  | ok location =>
      obtain ⟨previous, read, -, hRest⟩ := exists_of_run_bind hRest
      split at hRest
      · obtain ⟨hSame, -⟩ := Outcome.done.inj hRest
        exact absurd (Except.error.inj hSame).symm hCause
      · obtain ⟨-, written, -, hRest⟩ := exists_of_run_bind hRest
        obtain ⟨-, dropped, -, hRest⟩ := exists_of_run_bind hRest
        cases (Outcome.done.inj hRest).1

theorem strands_of_run_install (hStocked : machine.Stocked) (hNavigable : machine.Navigable)
    (hRun : (install page frame flags forced).run machine = .done (.error cause) after)
    (hCause : MapError.ofLinkError cause = .unreachable) :
    machine.Strands after page.directorySlot (Flags.ofWord flags).user := by
  cases cause with
  | outOfMemory => cases hCause
  | occupied => cases hCause
  | tableUnreachable number =>
      have hTable := run_ensureTable_of_run_install hRun (by simp)
      exact (strands_of_run_ensureTable hStocked hNavigable hTable).2

/-- A request on a page passes the check of reserved pages, or fails for that reason. -/
theorem eq_of_run_refuseReserved {request : Request} {result : Except MapError Unit}
    (hRun : (refuseReserved request address).run machine = .done result after) :
    result = .error .protectedRegion ∨ result = .ok () ∧ after = machine := by
  cases hReserved : Layout.isReserved (Page.containing address) with
  | true =>
      simp only [refuseReserved, hReserved, if_true, run_bind, run_report, Outcome.andThen_done,
        run_pure] at hRun
      exact .inl (Outcome.done.inj hRun).1.symm
  | false =>
      simp only [refuseReserved, hReserved, Bool.false_eq_true, if_false, run_pure] at hRun
      obtain ⟨hResult, hAfter⟩ := Outcome.done.inj hRun
      exact .inr ⟨hResult.symm, hAfter.symm⟩

/-- A request that fails at a table has passed the checks of its addresses. -/
theorem exists_of_run_checked {α : Type} {rejectNull : Bool} {request : Request}
    {body : VirtualPage → Frame → Action (FrameBitmap size) (Except MapError α)}
    (hRun : Action.run (match alignedPair address physical rejectNull with
      | .error error => return .error error
      | .ok (page, frame) => do
        match ← refuseReserved request address with
        | .error error => return .error error
        | .ok () => body page frame) machine = .done (.error .unreachable) after) :
    ∃ frame, (body (Page.containing address) frame).run machine =
      .done (.error .unreachable) after := by
  split at hRun
  · rename_i error hPair
    obtain rfl := eq_invalidAddress_of_alignedPair hPair
    cases (Outcome.done.inj hRun).1
  · rename_i page frame hPair
    obtain ⟨passed, checked, hChecked, hRest⟩ := exists_of_run_bind hRun
    rcases eq_of_run_refuseReserved hChecked with rfl | ⟨rfl, rfl⟩
    · cases (Outcome.done.inj hRest).1
    · obtain ⟨-, -, -, rfl, -⟩ := alignedPair_eq_ok_iff.mp hPair
      exact ⟨frame, hRest⟩

theorem strands_of_run_mapPage (hStocked : machine.Stocked) (hNavigable : machine.Navigable)
    (hRun : (mapPage address physical flags).run machine = .done (.error .unreachable) after) :
    ∃ slot, machine.Strands after slot (Flags.ofWord flags).user := by
  rw [mapPage] at hRun
  obtain ⟨frame, hRest⟩ := exists_of_run_checked hRun
  obtain ⟨found, searched, hSearch, hRest⟩ := exists_of_run_bind hRest
  obtain rfl := observes_findFree _ _ _ _ hSearch
  cases found with
  | none => cases (Outcome.done.inj hRest).1
  | some free =>
      obtain ⟨result, reached, hInstall, hRest⟩ := exists_of_run_bind hRest
      cases result with
      | ok displaced =>
          obtain ⟨-, noted, -, hRest⟩ := exists_of_run_bind hRest
          cases (Outcome.done.inj hRest).1
      | error cause =>
          obtain ⟨hCause, rfl⟩ := Outcome.done.inj hRest
          exact ⟨_, strands_of_run_install hStocked hNavigable hInstall
            (Except.error.inj hCause)⟩

theorem strands_of_run_mapForced (hStocked : machine.Stocked) (hNavigable : machine.Navigable)
    (hRun : (mapForced address physical flags).run machine = .done (.error .unreachable) after) :
    machine.Strands after (Page.containing address).directorySlot (Flags.ofWord flags).user := by
  rw [mapForced] at hRun
  obtain ⟨frame, hRest⟩ := exists_of_run_checked hRun
  obtain ⟨result, reached, hInstall, hRest⟩ := exists_of_run_bind hRest
  rcases result with cause | (_ | displaced)
  · obtain ⟨hCause, rfl⟩ := Outcome.done.inj hRest
    exact strands_of_run_install hStocked hNavigable hInstall (Except.error.inj hCause)
  · cases (Outcome.done.inj hRest).1
  · obtain ⟨-, given, -, hRest⟩ := exists_of_run_bind hRest
    cases (Outcome.done.inj hRest).1

theorem strands_of_run_setMapping (hStocked : machine.Stocked) (hNavigable : machine.Navigable)
    (hRun : (setMapping address physical flags).run machine = .done (.error .unreachable) after) :
    machine.Strands after (Page.containing address).directorySlot (Flags.ofWord flags).user := by
  rw [setMapping] at hRun
  obtain ⟨frame, hRest⟩ := exists_of_run_checked hRun
  obtain ⟨result, reached, hInstall, hRest⟩ := exists_of_run_bind hRest
  split at hRest
  · cases (Outcome.done.inj hRest).1
  · -- A page in use is looked up again, and the answer is about its frame.
    obtain ⟨existing, looked, -, hRest⟩ := exists_of_run_bind hRest
    split at hRest <;> cases (Outcome.done.inj hRest).1
  · obtain ⟨hCause, rfl⟩ := Outcome.done.inj hRest
    exact strands_of_run_install hStocked hNavigable hInstall (Except.error.inj hCause)

theorem strands_of_run_allocatePage (hStocked : machine.Stocked)
    (hNavigable : machine.Navigable)
    (hRun : (allocatePage address flags).run machine = .done (.error .unreachable) after) :
    ∃ slot, machine.Strands after slot (Flags.ofWord flags).user := by
  obtain ⟨found, drawn, hTaken⟩ := Machine.exists_taken hStocked.sound
  obtain ⟨pool, events, hTake, rfl⟩ := id hTaken
  rw [allocatePage, run_bind, run_takeFrame hTake, Outcome.andThen_done] at hRun
  cases found with
  | none => cases (Outcome.done.inj hRun).1
  | some frame =>
      have hDrawn : (machine.draw pool events).Navigable :=
        hNavigable.congr (machine.stays_draw pool events) fun _ => rfl
      obtain ⟨result, reached, hMap, hRest⟩ := exists_of_run_bind hRun
      cases result with
      | ok used => cases (Outcome.done.inj hRest).1
      | error error =>
          obtain ⟨done, given, hGiven, hRest⟩ := exists_of_run_bind hRest
          obtain ⟨hError, rfl⟩ := Outcome.done.inj hRest
          obtain rfl := Except.error.inj hError
          obtain ⟨slot, hStrands⟩ :=
            strands_of_run_mapPage (hTaken.stocked hStocked) hDrawn hMap
          have hSound : reached.source.Sound :=
            (hTaken.stocked hStocked).sound.congr hStrands.limit
          obtain ⟨released, hReleased⟩ := Machine.exists_released hSound frame
          obtain ⟨next, later, hGive, rfl⟩ := id hReleased
          rw [run_giveFrame hGive] at hGiven
          obtain ⟨-, rfl⟩ := Outcome.done.inj hGiven
          exact ⟨slot, hStrands.released hStocked hTaken hReleased⟩

/-- A request that has not reached a table leaves its slot linked or widened: a frame that has
become the table stays where it is, uncleared, and is free no more.  Exactly if the slot
linked a table before, and need not be widened, the request has changed nothing. -/
theorem unreachable_strands (hStocked : machine.Stocked) (hNavigable : machine.Navigable) :
    (∀ slot user number after,
      (ensureTable slot user).run machine = .done (.error (.tableUnreachable number)) after →
        number = slot.val ∧ machine.Strands after slot user) ∧
    (∀ address physical flags after,
      (mapPage address physical flags).run machine = .done (.error .unreachable) after →
        ∃ slot, machine.Strands after slot (Flags.ofWord flags).user) ∧
    (∀ address physical flags after,
      (mapForced address physical flags).run machine = .done (.error .unreachable) after →
        machine.Strands after (Page.containing address).directorySlot (Flags.ofWord flags).user) ∧
    (∀ address physical flags after,
      (setMapping address physical flags).run machine = .done (.error .unreachable) after →
        machine.Strands after (Page.containing address).directorySlot (Flags.ofWord flags).user) ∧
    (∀ address flags after,
      (allocatePage address flags).run machine = .done (.error .unreachable) after →
        ∃ slot, machine.Strands after slot (Flags.ofWord flags).user) ∧
    ∀ slot user after, machine.Strands after slot user →
      (machine.SameSpace after ↔
        (∃ table, machine.link? slot = some table) ∧
          (user = true → (machine.linkAt slot).user = true)) :=
  ⟨fun _ _ _ _ => strands_of_run_ensureTable hStocked hNavigable,
    fun _ _ _ _ => strands_of_run_mapPage hStocked hNavigable,
    fun _ _ _ _ => strands_of_run_mapForced hStocked hNavigable,
    fun _ _ _ _ => strands_of_run_setMapping hStocked hNavigable,
    fun _ _ _ => strands_of_run_allocatePage hStocked hNavigable,
    fun _ _ _ => Machine.Strands.sameSpace_iff⟩

section Samples

open Machine

/-- The page at 4 MiB, whose slot links nothing in the tiny machine. -/
def veiledPage : VirtualPage :=
  Page.containing (Address.ofNat 0x400000)

/-- The tiny machine with a word left over in its first free frame, and the slot of that page
withheld. -/
def tinyVeiled : Machine (FrameBitmap 1) :=
  (tiny.store (Page.ofNumber 2) veiledPage.tableSlot
    (Entry.leaf (Page.ofNumber 5) Flags.kernelReadWrite.word)).under
      { hiddenSlots := [veiledPage.directorySlot] }

theorem stocked_tinyVeiled : tinyVeiled.Stocked := by
  have hRoot : (Page.ofNumber 2 : Frame) ≠ tiny.root := by decide
  have hTiny := pristine_tiny.wellFormed.stocked
  refine Stocked.under ?_ _
  exact hTiny.congr (tiny.stays_store _ _ _) (fun slot => tiny.link?_store_of_ne hRoot _ slot _)
    (fun _ hFree => hFree) hTiny.sound

theorem navigable_tinyVeiled : tinyVeiled.Navigable :=
  ⟨stocked_tinyVeiled.toSeparated, fun hAccess => nomatch hAccess⟩

/-- What mapping frame 6 to that page leaves. -/
def tinyMissed : Machine (FrameBitmap 1) :=
  match (setMapping veiledPage.base (Address.ofNat 0x6000) Flags.kernelReadWrite.word).run
      tinyVeiled with
  | .done _ after => after
  | .fault _ _ => tinyVeiled

/-- The page cannot be mapped, because its table is not reached. -/
theorem run_tinyVeiled :
    (setMapping veiledPage.base (Address.ofNat 0x6000) Flags.kernelReadWrite.word).run tinyVeiled =
      .done (.error .unreachable) tinyMissed := by
  have hReply : ((setMapping veiledPage.base (Address.ofNat 0x6000) Flags.kernelReadWrite.word).run
      tinyVeiled).value? = some (.error .unreachable) := by decide +kernel
  unfold tinyMissed
  cases hRun : (setMapping veiledPage.base (Address.ofNat 0x6000) Flags.kernelReadWrite.word).run
      tinyVeiled with
  | done reply after =>
      rw [hRun] at hReply
      rw [Option.some.inj hReply]
  | fault cause journal =>
      rw [hRun] at hReply
      cases hReply

/-- The table of that slot is left behind. -/
theorem unreachable_strands_tinyVeiled :
    tinyVeiled.Strands tinyMissed veiledPage.directorySlot false := by
  obtain ⟨-, -, -, hSet, -⟩ := unreachable_strands stocked_tinyVeiled navigable_tinyVeiled
  have hStrands := hSet _ _ _ _ run_tinyVeiled
  rwa [Page.containing_base] at hStrands

/-- A page that had no mapping maps frame 5 after the request has failed: the word was left over
in the frame that has become the table, and that frame is lost. -/
theorem unreachable_leaves_stale :
    tinyVeiled.Stocked ∧ tinyVeiled.view.access = .physical ∧
    (setMapping veiledPage.base (Address.ofNat 0x6000) Flags.kernelReadWrite.word).run tinyVeiled =
      .done (.error .unreachable) tinyMissed ∧
    tinyVeiled.entryAt veiledPage = Entry.zero ∧
    tinyMissed.entryAt veiledPage = Entry.leaf (Page.ofNumber 5) Flags.kernelReadWrite.word ∧
    tinyVeiled.Free (Page.ofNumber 2) ∧ ¬ tinyMissed.Free (Page.ofNumber 2) := by
  have hTaken : tinyVeiled.source.freeAt 2 = true ∧ ¬ tinyMissed.source.freeAt 2 = true := by
    decide +kernel
  exact ⟨stocked_tinyVeiled, rfl, run_tinyVeiled, by decide +kernel, by decide +kernel, hTaken⟩

end Samples

end Action

end TwoLevelPaging
