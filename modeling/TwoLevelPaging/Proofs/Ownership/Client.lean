import TwoLevelPaging.BringUp
import TwoLevelPaging.Command
import TwoLevelPaging.Proofs.Ownership.Requests

/-!
# Frames over whole runs

A client makes any finite sequence of calls, with arbitrary arguments, to the memory
manager and to its allocator of frames.  It may map and give back only the frames
that it holds (`Call.Permitted`); which ones these are changes with each answer
(`Call.heldAfter`).

In every state that is reached from a pristine one each frame that was free at the
start has exactly one owner, and every call that the client may make is answered
(`Client.Reachable.frames_owned_once`).  One step keeps the ledger
(`exists_run_perform`), so a run does.
-/

namespace TwoLevelPaging

/-- What a client can ask for. -/
inductive Call where
  | request (command : Command)
  | allocateFrame
  | releaseFrame (address : Address .physical)
  deriving DecidableEq

/-- The answer to a call. -/
inductive Answer where
  | reply (reply : Reply)
  /-- The number of the frame that was taken. -/
  | allocated (result : Except FrameError Nat)
  | released (result : Except FrameError Unit)

namespace Call

variable {size : Nat}

/-- Do what the call asks for. -/
def perform : Call → Action (FrameBitmap size) Answer
  | request command => .reply <$> command.perform
  | allocateFrame => .allocated <$> Action.allocateFrame
  | releaseFrame address => .released <$> Action.releaseFrame (Page.containing address)

/-- The client maps frames that it holds, and gives only such frames back. -/
def Permitted (held : Finset Frame) : Call → Prop
  | request (.mapPage _ physical _) => Page.containing physical ∈ held
  | request (.mapForced _ physical _) => Page.containing physical ∈ held
  | request (.setMapping _ physical _) => Page.containing physical ∈ held
  | releaseFrame address => Page.containing address ∈ held
  | _ => True

/-- What the client holds after a call.  A frame passes to the page that it is mapped
to.  The frame of a device page that is unmapped, of a new directory, or of an
allocation passes to the client. -/
def heldAfter (before : Machine (FrameBitmap size)) (held : Finset Frame) :
    Call → Answer → Finset Frame
  | request (.mapPage _ physical _), .reply (.mapped (.ok _)) =>
      held.erase (Page.containing physical)
  | request (.mapForced _ physical _), .reply (.mapped (.ok _)) =>
      held.erase (Page.containing physical)
  | request (.setMapping _ physical _), .reply (.settled (.ok _)) =>
      held.erase (Page.containing physical)
  | request (.unmapDevice address), .reply (.settled (.ok _)) =>
      match (before.entryAt (Page.containing address)).storedFrame? with
      | some frame => insert frame held
      | none => held
  | request .newDirectory, .reply (.created (.ok frame)) => insert frame held
  | allocateFrame, .allocated (.ok number) => insert (Page.ofNumber number) held
  | releaseFrame address, .released (.ok _) => held.erase (Page.containing address)
  | _, _ => held

end Call

/-- A machine and the frames that its client holds. -/
structure Client (size : Nat) where
  machine : Machine (FrameBitmap size)
  held : Finset Frame

/-- The states that a client reaches by permitted calls. -/
inductive Client.Reachable {size : Nat} (start : Client size) : Client size → Prop
  | start : Reachable start start
  | call {client : Client size} {call : Call} {answer : Answer}
      {after : Machine (FrameBitmap size)} (hReached : Reachable start client)
      (hPermitted : call.Permitted client.held)
      (hRun : call.perform.run client.machine = .done answer after) :
      Reachable start ⟨after, call.heldAfter client.machine client.held answer⟩

/-! ## One call -/

namespace Action

variable {size : Nat} {machine : Machine (FrameBitmap size)}

/-- A client that allocates takes a frame as the memory manager does. -/
theorem leads_allocateFrame (hSound : machine.source.Sound) :
    Leads allocateFrame machine fun result after =>
      machine.Taken (result.toOption.map Page.ofNumber) after := by
  rcases FrameBitmap.exists_allocate_eq hSound with
    ⟨number, pool, hAllocate, -⟩ | ⟨hAllocate, -⟩
  · refine leads_of_run (.ok number)
      (machine.draw pool (FrameBitmap.allocationEvents (.ok number))) ⟨pool, _, ?_, rfl⟩ rfl rfl ?_
    · simp only [FrameSource.take, hAllocate, bind, Except.bind, pure, Except.pure]
    · intro view _
      simp only [run, allocateFrame, onSource, Machine.under, hAllocate, Except.map, Machine.draw]
  · refine leads_of_run (.error .outOfMemory) (machine.draw machine.source [])
      ⟨machine.source, [], ?_, rfl⟩ rfl rfl ?_
    · simp only [FrameSource.take, hAllocate, bind, Except.bind, pure, Except.pure,
        FrameBitmap.allocationEvents]
    · intro view _
      simp only [run, allocateFrame, onSource, Machine.under, hAllocate, Except.map, Machine.draw,
        FrameBitmap.allocationEvents]

/-- A client that gives an occupied frame back gives it as the memory manager does. -/
theorem leads_releaseFrame (hSound : machine.source.Sound) {frame : Frame}
    (hPositive : 0 < frame.number) (hManaged : frame.number < machine.source.limit)
    (hOccupied : ¬ machine.Free frame) :
    Leads (releaseFrame frame) machine fun result after =>
      result = .ok () ∧ machine.Released frame after := by
  obtain ⟨result, pool, hRelease, -, -, hResult, -⟩ :=
    FrameBitmap.exists_release_eq hSound frame.number
  obtain rfl := hResult.mpr ⟨hPositive, hManaged, Bool.not_eq_true _ ▸ hOccupied⟩
  refine leads_of_run (.ok ())
    (machine.draw pool (FrameBitmap.releaseEvents frame.number (.ok ())))
    ⟨rfl, pool, _, ?_, rfl⟩ rfl rfl ?_
  · simp only [FrameSource.give, hRelease, bind, Except.bind, pure, Except.pure]
  · intro view _
    simp only [run, releaseFrame, onSource, Machine.under, hRelease, Except.map, Machine.draw]

end Action

namespace Machine
namespace Ledger

variable {size : Nat} {origin machine : Machine (FrameBitmap size)} {held : Finset Frame}

/-- A request other than for a new directory keeps the ledger, through every view. -/
theorem leads_request (hLedger : Ledger origin machine held) (hOrigin : origin.Pristine)
    {command : Command} (hPermitted : (Call.request command).Permitted held)
    (hCommand : command ≠ .newDirectory) :
    (Call.request command).perform.Leads machine fun answer after =>
      Ledger origin after ((Call.request command).heldAfter machine held answer) := by
  have hMachine := hLedger.wellFormed hOrigin.wellFormed
  cases command with
  | mapPage address physical flags =>
      refine Action.Leads.map (Action.Leads.map
        ((Action.leads_mapPage hMachine.stocked address physical flags).mono ?_))
      intro result after hMaps
      have hMoved := hLedger.mapped hOrigin.wellFormed hPermitted hMaps
      cases result <;> exact hMoved
  | mapForced address physical flags =>
      refine Action.Leads.map (Action.Leads.map
        ((Action.leads_mapForced hMachine.stocked address physical flags).mono ?_))
      intro result after hForces
      have hMoved := hLedger.forced hOrigin hPermitted hForces
      cases result <;> exact hMoved
  | setMapping address physical flags =>
      refine Action.Leads.map (Action.Leads.map
        ((Action.leads_setMapping hMachine.stocked address physical flags).mono ?_))
      intro result after hSets
      have hMoved := hLedger.settled hOrigin hPermitted hSets
      cases result <;> exact hMoved
  | unmapPage address =>
      refine Action.Leads.map (Action.Leads.map
        ((Action.leads_unmapPage hMachine.stocked address).mono ?_))
      intro result after hUnmapped
      cases result with
      | error error => exact hLedger.unchanged hUnmapped.2
      | ok value =>
          have hSlot := Layout.directorySlot_ne_of_not_reserved hUnmapped.1.not_reserved
          exact hLedger.emptied hOrigin.wellFormed hSlot (hOrigin.entryAt_eq_zero hSlot)
            hUnmapped.2
  | unmapDevice address =>
      refine Action.Leads.map (Action.Leads.map
        ((Action.leads_unmapDevice hMachine.stocked address).mono ?_))
      intro result after hUnmapped
      cases result with
      | error error => exact hLedger.unchanged hUnmapped.2
      | ok value =>
          obtain ⟨hRemovable, rfl⟩ := hUnmapped
          have hSlot := Layout.directorySlot_ne_of_not_reserved hRemovable.not_reserved
          have hVacate := rewrites_vacate hMachine.walkable.toSeparated hSlot
          simp only [Call.heldAfter]
          split
          · rename_i frame hStored
            exact hLedger.vacated hSlot (hOrigin.entryAt_eq_zero hSlot) hStored hVacate
          · rename_i hStored
            exact hLedger.vacated_unused hStored hVacate
  | allocatePage address flags =>
      refine Action.Leads.map (Action.Leads.map
        ((Action.leads_allocatePage hMachine.stocked address flags).mono ?_))
      intro result after hAllocates
      exact hLedger.allocated hOrigin.wellFormed hAllocates
  | allocatePages address bytes flags =>
      refine Action.Leads.map (Action.Leads.map
        ((Action.leads_allocatePages hOrigin.wellFormed hLedger address bytes flags).mono ?_))
      intro result after hBacked
      cases result with
      | ok value =>
          obtain ⟨start, stop, hBacked⟩ := hBacked
          exact hBacked.ledger
      | error error =>
          obtain ⟨number, hBacked⟩ := hBacked
          exact hBacked.ledger
  | lookup address =>
      refine Action.Leads.map (Action.Leads.map
        ((Action.leads_lookup hMachine.stocked address).mono ?_))
      rintro mapping after rfl
      exact hLedger
  | physicalAddress address =>
      refine Action.Leads.map (Action.Leads.map
        ((Action.leads_physicalAddress? hMachine.stocked address).mono ?_))
      rintro physical after rfl
      exact hLedger
  | newDirectory => exact absurd rfl hCommand

/-- A call other than for a new directory keeps the ledger, through every view. -/
theorem leads_perform (hLedger : Ledger origin machine held) (hOrigin : origin.Pristine)
    {call : Call} (hPermitted : call.Permitted held) (hCall : call ≠ .request .newDirectory) :
    call.perform.Leads machine fun answer after =>
      Ledger origin after (call.heldAfter machine held answer) := by
  have hMachine := hLedger.wellFormed hOrigin.wellFormed
  cases call with
  | allocateFrame =>
      refine Action.Leads.map ((Action.leads_allocateFrame hMachine.sound).mono ?_)
      intro result after hTaken
      cases result with
      | ok number => exact hLedger.taken hOrigin.wellFormed hTaken
      | error error => exact hLedger.unchanged (hTaken.unchanged hMachine.sound)
  | releaseFrame address =>
      have hFree := hLedger.free_of_mem hPermitted
      have hManaged : (Page.containing address : Frame).number < machine.source.limit := by
        rw [hLedger.limit]
        exact FrameBitmap.lt_limit_of_freeAt hFree
      have hOccupied : ¬ machine.Free (Page.containing address) := fun hStill =>
        hLedger.not_mem_of_free hStill hPermitted
      refine Action.Leads.map ((Action.leads_releaseFrame hMachine.sound
        (hLedger.held_positive hPermitted) hManaged hOccupied).mono ?_)
      rintro result after ⟨rfl, hReleased⟩
      exact hLedger.released hOrigin.wellFormed hPermitted hReleased
  | request command =>
      exact hLedger.leads_request hOrigin hPermitted fun hSame => hCall (congrArg _ hSame)

/-- The frame of a new directory is the client's. -/
theorem exists_run_newDirectory (hLedger : Ledger origin machine held)
    (hOrigin : origin.Pristine) :
    ∃ result after, Action.newDirectory.run machine = .done result after ∧
      Ledger origin after
        ((Call.request .newDirectory).heldAfter machine held (.reply (.created result))) := by
  have hMachine := hLedger.wellFormed hOrigin.wellFormed
  have hView : machine.view = {} := hLedger.stays.view.trans hOrigin.view
  obtain ⟨found, drawn, hTaken⟩ := exists_taken hMachine.sound
  cases found with
  | none =>
      exact ⟨_, _, Action.run_newDirectory_starved hTaken,
        hLedger.unchanged (hTaken.unchanged hMachine.sound)⟩
  | some frame =>
      have hDrawn := hLedger.taken hOrigin.wellFormed hTaken
      have hFresh := hDrawn.fresh_of_mem hOrigin.wellFormed (Finset.mem_insert_self frame held)
      have hDrawnView : drawn.view = {} := hDrawn.stays.view.trans hOrigin.view
      have hEdited := Action.run_withFrame_physical (by rw [hDrawnView]) (by rw [hDrawnView])
        hFresh.installed
      exact ⟨_, _, Action.run_newDirectory_founded hTaken hEdited,
        (hDrawn.aside (aside_found hFresh)).unchanged (unchanged_note _ _)⟩

/-- Every permitted call is answered and keeps the ledger. -/
theorem exists_run_perform (hLedger : Ledger origin machine held) (hOrigin : origin.Pristine)
    {call : Call} (hPermitted : call.Permitted held) :
    ∃ answer after, call.perform.run machine = .done answer after ∧
      Ledger origin after (call.heldAfter machine held answer) := by
  by_cases hCall : call = .request .newDirectory
  · subst hCall
    obtain ⟨result, after, hRun, hAfter⟩ := hLedger.exists_run_newDirectory hOrigin
    refine ⟨.reply (.created result), after, ?_, hAfter⟩
    simp [Call.perform, Command.perform, hRun]
  · have hSeen : machine.SeenThrough machine.view := by
      rw [hLedger.stays.view, hOrigin.view]
      exact machine.seenThrough_physical
    refine (hLedger.leads_perform hOrigin hPermitted hCall).run_stays hSeen ?_
    intro answer after hAfter
    exact hAfter.stays.view.trans hLedger.stays.view.symm

end Ledger
end Machine

/-! ## Whole runs -/

namespace Client

variable {size : Nat} {start client : Client size}

/-- A run keeps the ledger. -/
theorem Reachable.ledger (hReached : Reachable start client) (hStart : start.machine.Pristine)
    (hHeld : start.held = ∅) : start.machine.Ledger client.machine client.held := by
  induction hReached with
  | start =>
      rw [hHeld]
      exact Machine.Ledger.start start.machine
  | call hReached hPermitted hRun ih =>
      obtain ⟨answer, after, hDone, hAfter⟩ := ih.exists_run_perform hStart hPermitted
      rw [hRun, Outcome.done.injEq] at hDone
      rw [hDone.1, hDone.2]
      exact hAfter

/-- From a directory that maps nothing, by any calls with any arguments, the frames
that were free at the start are at any time shared out between the pool, the client,
the pages and the table slots: each has exactly one owner, and no other frame has
one.  Every call that the client may make then is answered. -/
theorem Reachable.frames_owned_once (hReached : Reachable start client)
    (hStart : start.machine.Pristine) (hHeld : start.held = ∅) :
    (∀ frame, start.machine.Free frame ↔
      ∃ owner, client.machine.Owns client.held owner frame) ∧
    (∀ frame first second, client.machine.Owns client.held first frame →
      client.machine.Owns client.held second frame → first = second) ∧
    ∀ call : Call, call.Permitted client.held →
      ∃ answer after, call.perform.run client.machine = .done answer after := by
  have hLedger := hReached.ledger hStart hHeld
  -- Nothing was in use at the start, so every owner is counted.
  have hHolds : ∀ owner frame, client.machine.Owns client.held owner frame →
      start.machine.Holds client.machine client.held owner frame := by
    intro owner frame hOwns
    refine ⟨?_, hOwns⟩
    cases owner with
    | pool => trivial
    | client => trivial
    | page page => exact hStart.entryAt_eq_zero hOwns.1
    | table slot => exact hStart.link?_of_ne hOwns.1
  refine ⟨?_, ?_, ?_⟩
  · intro frame
    constructor
    · intro hFree
      obtain ⟨owner, hOwner, -⟩ := hLedger.balanced.unique hFree
      exact ⟨owner, hOwner.2⟩
    · rintro ⟨owner, hOwns⟩
      exact hLedger.balanced.within (hHolds owner frame hOwns)
  · intro frame first second hFirst hSecond
    exact hLedger.balanced.owner_eq (hHolds first frame hFirst) (hHolds second frame hSecond)
  · intro call hPermitted
    obtain ⟨answer, after, hRun, -⟩ := hLedger.exists_run_perform hStart hPermitted
    exact ⟨answer, after, hRun⟩

/-- A page that has been backed owns its frame, and no one else does. -/
theorem owned_once_after_allocation :
    ∃ client : Client 1, Reachable ⟨Machine.tiny, ∅⟩ client ∧
      client.machine.Owns client.held (.page (Page.ofNumber 1)) (Page.ofNumber 2) ∧
      ∀ owner, client.machine.Owns client.held owner (Page.ofNumber 2) →
        owner = .page (Page.ofNumber 1) := by
  let call := Call.request (.allocatePage (Address.ofNat 0x1000) Flags.kernelReadWrite.word)
  have hStored : (match call.perform.run Machine.tiny with
      | .done _ after => (after.entryAt (Page.ofNumber 1)).storedFrame?
      | .fault _ _ => none) = some (Page.ofNumber 2) := by decide +kernel
  cases hRun : call.perform.run Machine.tiny with
  | fault cause journal =>
      rw [hRun] at hStored
      cases hStored
  | done answer after =>
      rw [hRun] at hStored
      have hReached : Reachable ⟨Machine.tiny, ∅⟩
          ⟨after, call.heldAfter Machine.tiny ∅ answer⟩ := .call .start trivial hRun
      have hOwner : after.Owns (call.heldAfter Machine.tiny ∅ answer) (.page (Page.ofNumber 1))
          (Page.ofNumber 2) := ⟨by decide, hStored⟩
      have hOwned := hReached.frames_owned_once Machine.pristine_tiny rfl
      exact ⟨_, hReached, hOwner, fun owner hOther => hOwned.2.1 _ _ _ hOther hOwner⟩

end Client

end TwoLevelPaging
