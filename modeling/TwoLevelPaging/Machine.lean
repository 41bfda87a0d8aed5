import TwoLevelPaging.Event
import TwoLevelPaging.FrameSource
import TwoLevelPaging.Memory

/-!
# The machine that the memory manager works on

A `Machine` is physical memory, the root directory, a source of frames, and the
view through which paging structures are reached.  An `Action` changes it and
ends with a value (`Outcome.done`), or stops with a fault, after which only the
journal is left (`Outcome.fault`).

The journal records what an action did beside its result: the events that it
reported, the pages whose cached entry it asked the view to drop, those that the
view drops of its own accord, and the stores to paging structures.  The newest
effect comes first.
-/

namespace TwoLevelPaging

/-- How paging structures are reached. -/
inductive Access where
  /-- By physical address. -/
  | physical
  /-- Through the self-map of the active directory. -/
  | selfMap
  deriving DecidableEq

/-- The view on the paging structures.  A restricted view does not lend frames
or does not reach the tables of some slots. -/
structure View where
  access : Access := .physical
  lendsFrames : Bool := true
  hiddenSlots : List Slot := []
  deriving DecidableEq

/-- What an action did, as far as it can be told from outside. -/
inductive Effect where
  | reported (event : Event)
  /-- The view was asked to drop what is cached about the page. -/
  | invalidated (page : VirtualPage)
  /-- The view dropped what is cached about the page without being asked, because it
  uses the page itself. -/
  | flushed (page : VirtualPage)
  /-- A word of a paging structure was stored. -/
  | stored (frame : Frame) (slot : Slot)
  /-- All words of a frame were stored at once. -/
  | replaced (frame : Frame)
  deriving DecidableEq

namespace Effect

/-- The event that is reported. -/
def event? : Effect → Option Event
  | reported event => some event
  | _ => none

/-- The page that the view is asked to invalidate. -/
def invalidated? : Effect → Option VirtualPage
  | invalidated page => some page
  | _ => none

/-- The page that the view flushes of its own accord. -/
def flushed? : Effect → Option VirtualPage
  | flushed page => some page
  | _ => none

end Effect

/-- The effects of an action, the newest first. -/
abbrev Journal := List Effect

namespace Journal

/-- The events that were reported, the oldest first. -/
def events (journal : Journal) : List Event :=
  journal.reverse.filterMap Effect.event?

/-- The lines of the events that pass a level. -/
def text (journal : Journal) (maximum : Option Level) : String :=
  match maximum with
  | none => ""
  | some _ =>
    String.join ((journal.events.filter fun event => event.level.passes maximum).map
      fun event => event.record.line)

/-- The pages that the view was asked to invalidate, the oldest first. -/
def invalidations (journal : Journal) : List VirtualPage :=
  journal.reverse.filterMap Effect.invalidated?

/-- The pages that the view flushed of its own accord, the oldest first. -/
def flushed (journal : Journal) : List VirtualPage :=
  journal.reverse.filterMap Effect.flushed?

/-- The journal with more events, the first of them the oldest. -/
def reportAll (journal : Journal) (events : List Event) : Journal :=
  events.foldl (fun entries event => .reported event :: entries) journal

theorem events_cons (effect : Effect) (journal : Journal) :
    events (effect :: journal) = journal.events ++ effect.event?.toList := by
  cases hEvent : effect.event? <;> simp [events, hEvent]

theorem invalidations_cons (effect : Effect) (journal : Journal) :
    invalidations (effect :: journal) = journal.invalidations ++ effect.invalidated?.toList := by
  cases hPage : effect.invalidated? <;> simp [invalidations, hPage]

theorem flushed_cons (effect : Effect) (journal : Journal) :
    flushed (effect :: journal) = journal.flushed ++ effect.flushed?.toList := by
  cases hPage : effect.flushed? <;> simp [flushed, hPage]

end Journal

/-- Memory, a source of frames, the root directory and the view on it. -/
structure Machine (source : Type) where
  memory : Memory
  source : source
  root : Frame
  view : View
  journal : Journal

/-- How an action ends. -/
inductive Outcome (source : Type) (α : Type) where
  /-- With a value and the machine as it is then. -/
  | done (value : α) (machine : Machine source)
  /-- With a violated check and what was in the journal by then. -/
  | fault (cause : Fault) (journal : Journal)

namespace Outcome

variable {source α β : Type}

/-- Go on with the value and the machine, if there are any. -/
def andThen (outcome : Outcome source α)
    (next : α → Machine source → Outcome source β) : Outcome source β :=
  match outcome with
  | .done value machine => next value machine
  | .fault cause journal => .fault cause journal

@[simp]
theorem andThen_done (value : α) (machine : Machine source)
    (next : α → Machine source → Outcome source β) :
    (done value machine).andThen next = next value machine :=
  rfl

@[simp]
theorem andThen_fault (cause : Fault) (journal : Journal)
    (next : α → Machine source → Outcome source β) :
    (fault cause journal).andThen next = .fault cause journal :=
  rfl

end Outcome

/-- A computation on a machine, which may stop with a fault. -/
def Action (source : Type) (α : Type) : Type :=
  Machine source → Outcome source α

namespace Machine

variable {source : Type}

/-- The machine with zeroed memory and nothing done yet. -/
def start (frames : Nat) (pool : source) (root : Frame) : Machine source where
  memory := Memory.zeroed frames
  source := pool
  root := root
  view := {}
  journal := []

end Machine

namespace Action

variable {source α β : Type}

/-- End with a value and change nothing. -/
@[always_inline, inline]
protected def pure (value : α) : Action source α :=
  fun machine => .done value machine

/-- One action after the other; a fault ends both. -/
@[always_inline, inline]
protected def bind (first : Action source α) (next : α → Action source β) : Action source β :=
  fun machine =>
    match first machine with
    | .done value after => next value after
    | .fault cause journal => .fault cause journal

@[always_inline]
instance : Monad (Action source) where
  pure := Action.pure
  bind := Action.bind

/-- Run the action. -/
def run (action : Action source α) (machine : Machine source) : Outcome source α :=
  action machine

/-- Do the action under a condition, or nothing. -/
def onlyIf (condition : Bool) (action : Action source Unit) : Action source Unit :=
  if condition then action else Action.pure ()

/-- The machine as it is. -/
def machine : Action source (Machine source) :=
  fun current => .done current current

/-- Stop with a fault. -/
def fault (cause : Fault) : Action source α :=
  fun machine => .fault cause machine.journal

/-- The value of a checked computation that does not touch the machine. -/
def check (result : Except Fault α) : Action source α :=
  fun machine =>
    match result with
    | .ok value => .done value machine
    | .error cause => .fault cause machine.journal

/-- Record an effect. -/
def record (effect : Effect) : Action source Unit :=
  fun ⟨memory, pool, root, view, journal⟩ =>
    .done () ⟨memory, pool, root, view, effect :: journal⟩

/-- Report an event. -/
def report (event : Event) : Action source Unit :=
  record (.reported event)

/-- Ask the view to drop what is cached about the page. -/
def invalidate (page : VirtualPage) : Action source Unit :=
  record (.invalidated page)

/-- Drop what is cached about a page that the view uses itself. -/
def flush (page : VirtualPage) : Action source Unit :=
  record (.flushed page)

/-- Change the source of frames, and report what there is to report. -/
def onSource (step : source → Except Fault (α × source × List Event)) : Action source α :=
  fun ⟨memory, pool, root, view, journal⟩ =>
    match step pool with
    | .ok (value, after, events) =>
        .done value ⟨memory, after, root, view, journal.reportAll events⟩
    | .error cause => .fault cause journal

/-- Make another frame the root directory. -/
def setRoot (root : Frame) : Action source Unit :=
  fun ⟨memory, pool, _, view, journal⟩ => .done () ⟨memory, pool, root, view, journal⟩

/-- Make another view the current one. -/
def setView (view : View) : Action source Unit :=
  fun ⟨memory, pool, root, _, journal⟩ => .done () ⟨memory, pool, root, view, journal⟩

/-- Take a frame from the source. -/
def takeFrame [FrameSource source] : Action source (Option Frame) :=
  onSource FrameSource.take

/-- Give a frame back to the source. -/
def giveFrame [FrameSource source] (frame : Frame) : Action source Unit :=
  onSource fun pool => (FrameSource.give pool frame).map fun after => ((), after.1, after.2)

/-- The content of a frame; a frame that is not installed is a fault. -/
def loadTable (frame : Frame) : Action source Table :=
  fun machine =>
    match machine.memory.table? frame with
    | some table => .done table machine
    | none => .fault .outsideMemory machine.journal

/-- Change the content of a frame, with the effect that this has. -/
def modifyTable (frame : Frame) (change : Table → Table) (effect : Effect) :
    Action source Unit :=
  fun ⟨memory, pool, root, view, journal⟩ =>
    if memory.contains frame then
      .done () ⟨memory.modify frame change, pool, root, view, effect :: journal⟩
    else
      .fault .outsideMemory journal

@[ext]
theorem ext {first second : Action source α}
    (hAgree : ∀ machine, first.run machine = second.run machine) : first = second :=
  funext hAgree

@[simp]
theorem run_pure (value : α) (machine : Machine source) :
    (pure value : Action source α).run machine = .done value machine :=
  rfl

@[simp]
theorem run_bind (first : Action source α) (next : α → Action source β)
    (machine : Machine source) :
    (first >>= next).run machine =
      (first.run machine).andThen fun value after => (next value).run after := by
  change Action.bind first next machine = _
  unfold Action.bind run
  cases first machine <;> rfl

/-- Doing nothing before or after an action does not change it, and it does not
matter how three actions are grouped. -/
instance : LawfulMonad (Action source) :=
  LawfulMonad.mk' (Action source)
    (by
      intro α action
      ext machine
      change (action >>= fun value => pure value).run machine = _
      rw [run_bind]
      cases action.run machine <;> rfl)
    (by
      intro α β value next
      ext machine
      rfl)
    (by
      intro α β γ action middle last
      ext machine
      simp only [run_bind]
      cases action.run machine <;> rfl)

@[simp]
theorem run_map (change : α → β) (action : Action source α) (machine : Machine source) :
    (change <$> action).run machine =
      (action.run machine).andThen fun value after => .done (change value) after := by
  rw [map_eq_pure_bind, run_bind]
  rfl

@[simp]
theorem run_onlyIf (condition : Bool) (action : Action source Unit) (current : Machine source) :
    (onlyIf condition action).run current =
      if condition then action.run current else .done () current := by
  cases condition <;> rfl

@[simp]
theorem run_machine (current : Machine source) :
    machine.run current = .done current current :=
  rfl

@[simp]
theorem run_fault (cause : Fault) (current : Machine source) :
    (fault cause : Action source α).run current = .fault cause current.journal :=
  rfl

@[simp]
theorem run_check_ok (value : α) (current : Machine source) :
    (check (.ok value)).run current = .done value current :=
  rfl

@[simp]
theorem run_check_error (cause : Fault) (current : Machine source) :
    (check (.error cause) : Action source α).run current = .fault cause current.journal :=
  rfl

@[simp]
theorem run_record (effect : Effect) (current : Machine source) :
    (record effect).run current =
      .done () { current with journal := effect :: current.journal } :=
  rfl

@[simp]
theorem run_report (event : Event) (current : Machine source) :
    (report event).run current =
      .done () { current with journal := .reported event :: current.journal } :=
  rfl

@[simp]
theorem run_invalidate (page : VirtualPage) (current : Machine source) :
    (invalidate page).run current =
      .done () { current with journal := .invalidated page :: current.journal } :=
  rfl

@[simp]
theorem run_flush (page : VirtualPage) (current : Machine source) :
    (flush page).run current =
      .done () { current with journal := .flushed page :: current.journal } :=
  rfl

/-- Loading a frame reads memory and changes nothing. -/
theorem run_loadTable_of_some {frame : Frame} {table : Table} {current : Machine source}
    (hInstalled : current.memory.table? frame = some table) :
    (loadTable frame).run current = .done table current := by
  simp [run, loadTable, hInstalled]

/-- An installed frame is changed in memory and the effect is recorded. -/
theorem run_modifyTable_of_contains {frame : Frame} {current : Machine source}
    (hInstalled : current.memory.contains frame = true) (change : Table → Table)
    (effect : Effect) :
    (modifyTable frame change effect).run current =
      .done () { current with
        memory := current.memory.modify frame change
        journal := effect :: current.journal } := by
  simp [run, modifyTable, hInstalled]

end Action

end TwoLevelPaging
