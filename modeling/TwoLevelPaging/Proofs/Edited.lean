import TwoLevelPaging.Command
import TwoLevelPaging.Proofs.AddressSpace.NewDirectory
import TwoLevelPaging.Proofs.Ownership.PageRuns

/-!
# What requests are made of

`Edited base machine` holds of every machine that a request which started at `base` can
pass through.  It has one constructor for each edit that requests are made of, so a
property that every edit keeps is a property of all requests, of those that fail and of
the roll-back of a run of pages too.

`Command.Ends` lists how each request can end.  Every request ends in one of these ways
(`exists_run_ends`), and always in an edited machine (`Ends.edited`).

What all edits have in common is said here once: the tables stay `Walkable`, and the edits
are `Sparing`, which is about the links, the self-map and the reserved pages.
-/

namespace TwoLevelPaging

namespace Layout

theorem isReserved_scratchPage : isReserved scratchPage = true := by
  decide

theorem directorySlot_stackGuardPage_ne : stackGuardPage.directorySlot ≠ selfMapSlot := by
  decide

theorem isReserved_stackGuardPage : isReserved stackGuardPage = true := by
  decide

end Layout

namespace Machine

variable {source : Type} {base machine before after last : Machine source}
  {frame table : Frame} {page : VirtualPage} {slot : Slot} {flags : UInt32}

/-! ## What all edits keep -/

/-- The self-map, the links and the entries of the reserved pages below the self-map are
as they were. -/
structure Sparing (before after : Machine source) : Prop where
  stays : Stays before after
  self_link : after.linkAt Layout.selfMapSlot = before.linkAt Layout.selfMapSlot
  links : ∀ {slot table}, before.link? slot = some table → after.link? slot = some table
  reserved : ∀ {page : VirtualPage}, page.directorySlot ≠ Layout.selfMapSlot →
    Layout.isReserved page = true → after.entryAt page = before.entryAt page

theorem Sparing.refl (machine : Machine source) : Sparing machine machine :=
  ⟨Stays.refl machine, rfl, fun hLink => hLink, fun _ _ => rfl⟩

theorem Sparing.trans (hFirst : Sparing before after)
    (hSecond : Sparing after last) : Sparing before last :=
  ⟨hFirst.stays.trans hSecond.stays, hSecond.self_link.trans hFirst.self_link,
    fun hLink => hSecond.links (hFirst.links hLink), fun hPage hReserved =>
      (hSecond.reserved hPage hReserved).trans (hFirst.reserved hPage hReserved)⟩

theorem Prepared.sparing (hPrepared : Prepared before after slot table)
    (hSlot : slot ≠ Layout.selfMapSlot)
    (hOnly : ∀ {other}, before.link? slot = some other → other = table) :
    Sparing before after where
  stays := hPrepared.stays
  self_link := hPrepared.linkAt_of_ne _ hSlot
  links := by
    intro other otherTable hOther
    by_cases hSame : slot = other
    · subst hSame
      rw [hPrepared.linked, hOnly hOther]
    · rw [hPrepared.link?_of_ne hSame, hOther]
  reserved hPage _ := hPrepared.entries _ hPage

theorem Rewrites.sparing {entry : Entry} (hRewrites : Rewrites before after page entry)
    (hPage : Layout.isReserved page = false) : Sparing before after where
  stays := hRewrites.stays
  self_link := hRewrites.links _
  links hLink := (hRewrites.link?_eq _).trans hLink
  reserved := by
    intro other hOther hReserved
    have hDifferent : other ≠ page := by
      rintro rfl
      rw [hPage] at hReserved
      cases hReserved
    rw [hRewrites.entries other hOther, if_neg hDifferent]

theorem Aside.sparing (hAside : Aside before after) : Sparing before after :=
  ⟨hAside.stays, hAside.links _, fun hLink => (hAside.link? _).trans hLink,
    fun _ _ => hAside.entries _⟩

theorem sparing_draw (machine : Machine source) (pool : source) (events : List Event) :
    Sparing machine (machine.draw pool events) :=
  ⟨stays_draw machine pool events, rfl, fun hLink => hLink, fun _ _ => rfl⟩

variable [FrameSource source]

theorem Ensured.sparing (hBefore : before.Walkable) (hSlot : slot ≠ Layout.selfMapSlot)
    {user : Bool} {result : Except LinkError Frame}
    (hEnsured : Ensured before slot user result after) : Sparing before after := by
  cases result with
  | error cause =>
      cases hEnsured with
      | starved hLink hTake => exact sparing_draw before _ _
  | ok table =>
      refine (hEnsured.prepared hBefore.navigable hSlot).sparing hSlot ?_
      intro other hOther
      exact (hEnsured.table_eq_of_linked hOther).symm

/-! ## The edits -/

/-- The machine is `base` after some edits of a request.  A mapping is only placed in a
page that this request has not changed yet. -/
inductive Edited (base : Machine source) : Machine source → Prop
  | start : Edited base base
  /-- Frames come from the source or go back, or something is reported. -/
  | drawn {before : Machine source} (hBefore : Edited base before) (pool : source)
      (events : List Event) : Edited base (before.draw pool events)
  | ensured {before after : Machine source} {slot : Slot} {user : Bool}
      {result : Except LinkError Frame} (hBefore : Edited base before)
      (hSlot : slot ≠ Layout.selfMapSlot) (hEnsured : Ensured before slot user result after) :
      Edited base after
  | placed {before : Machine source} {page : VirtualPage} {table : Frame}
      (hBefore : Edited base before) (hPage : Layout.isReserved page = false)
      (hLink : before.link? page.directorySlot = some table)
      (hSame : before.entryAt page = base.entryAt page) (entry : Entry) :
      Edited base (before.place page table entry)
  | vacated {before : Machine source} {page : VirtualPage} (hBefore : Edited base before)
      (hPage : Layout.isReserved page = false) : Edited base (before.vacate page)
  /-- A directory is made in place. -/
  | founded {before : Machine source} {frame : Frame} (hBefore : Edited base before)
      (hFresh : before.Fresh frame) : Edited base (before.found frame)
  /-- A directory is made in the scratch page, which only the self-map uses. -/
  | lent {before : Machine source} {frame table : Frame} (hBefore : Edited base before)
      (hAccess : base.view.access = .selfMap) (hFresh : before.Fresh frame)
      (hLink : before.link? Layout.scratchPage.directorySlot = some table)
      (hFree : before.entryAt Layout.scratchPage = Entry.zero) :
      Edited base (((before.borrow table frame).found frame).giveUp table)

theorem Edited.walkable (hBase : base.Walkable) (hEdited : Edited base machine) :
    machine.Walkable := by
  induction hEdited with
  | start => exact hBase
  | drawn hBefore pool events ih => exact ih.congr (stays_draw _ pool events) fun _ => rfl
  | ensured hBefore hSlot hEnsured ih => exact hEnsured.walkable ih hSlot
  | placed hBefore hPage hLink hSame entry ih =>
      exact (rewrites_place ih.toSeparated (Layout.directorySlot_ne_of_not_reserved hPage) hLink
        entry).walkable ih
  | vacated hBefore hPage ih =>
      exact (rewrites_vacate ih.toSeparated
        (Layout.directorySlot_ne_of_not_reserved hPage)).walkable ih
  | founded hBefore hFresh ih => exact (aside_found hFresh).walkable ih
  | lent hBefore hAccess hFresh hLink hFree ih =>
      exact (aside_giveUp ih.traversable hFresh hLink hFree).walkable ih

/-- No edit touches what is reserved. -/
theorem Edited.sparing (hBase : base.Walkable) (hEdited : Edited base machine) :
    Sparing base machine := by
  induction hEdited with
  | start => exact .refl base
  | drawn hBefore pool events ih => exact ih.trans (sparing_draw _ pool events)
  | ensured hBefore hSlot hEnsured ih =>
      exact ih.trans (hEnsured.sparing (hBefore.walkable hBase) hSlot)
  | placed hBefore hPage hLink hSame entry ih =>
      have hSlot := Layout.directorySlot_ne_of_not_reserved hPage
      exact ih.trans ((rewrites_place (hBefore.walkable hBase).toSeparated hSlot hLink
        entry).sparing hPage)
  | vacated hBefore hPage ih =>
      have hSlot := Layout.directorySlot_ne_of_not_reserved hPage
      exact ih.trans ((rewrites_vacate (hBefore.walkable hBase).toSeparated hSlot).sparing hPage)
  | founded hBefore hFresh ih => exact ih.trans (aside_found hFresh).sparing
  | lent hBefore hAccess hFresh hLink hFree ih =>
      exact ih.trans (aside_giveUp (hBefore.walkable hBase).traversable hFresh hLink hFree).sparing

/-! ## The parts of the requests -/

namespace Edited

theorem unchanged (hBefore : Edited base before) (hUnchanged : Unchanged before after) :
    Edited base after := by
  obtain ⟨events, rfl⟩ := hUnchanged.exists_eq_draw
  exact hBefore.drawn _ events

theorem taken (hBefore : Edited base before) {found : Option Frame}
    (hTaken : Taken before found after) : Edited base after := by
  obtain ⟨pool, events, -, rfl⟩ := hTaken
  exact hBefore.drawn pool events

theorem released (hBefore : Edited base before) (hReleased : Released before frame after) :
    Edited base after := by
  obtain ⟨pool, events, -, rfl⟩ := hReleased
  exact hBefore.drawn pool events

theorem installed (hBase : base.Walkable) (hBefore : Edited base before)
    (hPage : Layout.isReserved page = false) (hSame : before.entryAt page = base.entryAt page)
    {forced : Bool} {result : Except LinkError (Option Frame)}
    (hInstalls : Installs before page frame flags forced result after) : Edited base after := by
  have hSlot := Layout.directorySlot_ne_of_not_reserved hPage
  cases hInstalls with
  | refused hEnsured => exact hBefore.ensured hSlot hEnsured
  | occupied hEnsured hUsed hForced => exact hBefore.ensured hSlot hEnsured
  | placed hEnsured hAllowed =>
      have hPrepared := hEnsured.prepared (hBefore.walkable hBase).navigable hSlot
      exact (hBefore.ensured hSlot hEnsured).placed hPage hPrepared.linked
        ((hPrepared.entries page hSlot).trans hSame) _

theorem mapped (hBase : base.Walkable) (hBefore : Edited base before)
    (hSame : ∀ page, before.entryAt page = base.entryAt page)
    {reply : Except MapError VirtualPage} (hMaps : Maps before frame flags reply after) :
    Edited base after := by
  cases hMaps with
  | refused hUnchanged => exact hBefore.unchanged hUnchanged
  | failed hAvailable hInstalls =>
      exact hBefore.installed hBase hAvailable.2 (hSame _) hInstalls
  | mapped hAvailable hInstalls hReported =>
      exact (hBefore.installed hBase hAvailable.2 (hSame _) hInstalls).unchanged hReported

theorem forced (hBase : base.Walkable) {address : Address .virtual}
    {physical : Address .physical} {reply : Except MapError VirtualPage}
    (hForces : Forces base address physical flags reply after) : Edited base after := by
  cases hForces with
  | invalid hPair => exact .start
  | guarded hPair hReserved hUnchanged => exact start.unchanged hUnchanged
  | failed hAdmits hInstalls => exact start.installed hBase hAdmits.not_reserved rfl hInstalls
  | kept hAdmits hInstalls hKept =>
      exact start.installed hBase hAdmits.not_reserved rfl hInstalls
  | displaced hAdmits hInstalls hOther hReported hReleased =>
      have hInstalled := start.installed hBase hAdmits.not_reserved rfl hInstalls
      exact (hInstalled.unchanged hReported).released hReleased

theorem settled (hBase : base.Walkable) {reply : Except MapError Unit}
    (hSets : Sets base page frame flags reply after) : Edited base after := by
  cases hSets with
  | refused hUnchanged => exact start.unchanged hUnchanged
  | failed hPage hInstalls => exact start.installed hBase hPage rfl hInstalls
  | present hPage hInstalls hStored => exact start.installed hBase hPage rfl hInstalls
  | placed hPage hInstalls => exact start.installed hBase hPage rfl hInstalls

theorem emptied (hBefore : Edited base before) (hPage : Layout.isReserved page = false)
    (hEmpties : Empties before page after) : Edited base after := by
  cases hEmpties with
  | unused hStored => exact hBefore.vacated hPage
  | returned hStored hReleased => exact (hBefore.vacated hPage).released hReleased

theorem allocated (hBase : base.Walkable) {reply : Except MapError VirtualPage}
    (hAllocates : Allocates base flags reply after) : Edited base after := by
  have hMapped : ∀ {frame drawn} {answer : Except MapError VirtualPage} {last},
      Taken base (some frame) drawn → Maps drawn frame flags answer last → Edited base last := by
    intro frame drawn answer last hTaken hMaps
    refine (start.taken hTaken).mapped hBase ?_ hMaps
    obtain ⟨pool, events, -, rfl⟩ := hTaken
    exact fun _ => rfl
  cases hAllocates with
  | starved hTaken => exact start.taken hTaken
  | mapped hTaken hMaps => exact hMapped hTaken hMaps
  | failed hTaken hMaps hReleased => exact (hMapped hTaken hMaps).released hReleased

theorem founds {reply : Except MapError Frame} (hFounds : Founds base reply after) :
    Edited base after := by
  cases hFounds with
  | starved hTaken => exact start.taken hTaken
  | inPlace hTaken hFresh =>
      exact ((start.taken hTaken).founded hFresh).unchanged (unchanged_note _ _)
  | borrowed hTaken hAccess hFresh hLink hFree =>
      exact ((start.taken hTaken).lent hAccess hFresh hLink hFree).unchanged (unchanged_note _ _)
  | unreachable hTaken hAccess hReleased => exact (start.taken hTaken).released hReleased

/-- A page of a run is backed where nothing has changed since the request began. -/
theorem backed (hBase : base.Walkable) (hBefore : Edited base before)
    (hSame : Layout.isReserved page = false → before.entryAt page = base.entryAt page)
    {reply : Except MapError Unit} (hBacks : Backs before page flags reply after) :
    Edited base after := by
  have hInstalled : ∀ {frame drawn} {result : Except LinkError (Option Frame)} {last},
      Layout.isReserved page = false → Taken before (some frame) drawn →
      Installs drawn page frame flags false result last → Edited base last := by
    intro frame drawn result last hPage hTaken hInstalls
    refine (hBefore.taken hTaken).installed hBase hPage ?_ hInstalls
    obtain ⟨pool, events, -, rfl⟩ := hTaken
    exact hSame hPage
  cases hBacks with
  | refused hUnchanged => exact hBefore.unchanged hUnchanged
  | starved hTaken => exact hBefore.taken hTaken
  | placed hPage hTaken hInstalls => exact hInstalled hPage hTaken hInstalls
  | failed hPage hTaken hInstalls hReleased =>
      exact (hInstalled hPage hTaken hInstalls).released hReleased

end Edited

end Machine

/-! ## All requests -/

namespace Command

variable {size : Nat} {machine after : Machine (FrameBitmap size)}

/-- The ways in which the requests end. -/
inductive Ends (machine : Machine (FrameBitmap size)) :
    Command → Reply → Machine (FrameBitmap size) → Prop
  | mapPage {address physical flags result after}
      (hMaps : machine.Maps (Page.containing physical) flags result after) :
      Ends machine (.mapPage address physical flags) (.mapped result) after
  | mapForced {address physical flags result after}
      (hForces : machine.Forces address physical flags result after) :
      Ends machine (.mapForced address physical flags) (.mapped result) after
  | setMapping {address physical flags result after}
      (hSets : machine.Sets (Page.containing address) (Page.containing physical) flags result
        after) :
      Ends machine (.setMapping address physical flags) (.settled result) after
  | unmapPage {address after} (hPage : Layout.isReserved (Page.containing address) = false)
      (hEmpties : machine.Empties (Page.containing address) after) :
      Ends machine (.unmapPage address) (.settled (.ok ())) after
  | keepPage {address error after} (hUnchanged : machine.Unchanged after) :
      Ends machine (.unmapPage address) (.settled (.error error)) after
  | unmapDevice {address} (hPage : Layout.isReserved (Page.containing address) = false) :
      Ends machine (.unmapDevice address) (.settled (.ok ()))
        (machine.vacate (Page.containing address))
  | keepDevice {address error after} (hUnchanged : machine.Unchanged after) :
      Ends machine (.unmapDevice address) (.settled (.error error)) after
  | allocatePage {address flags result after} (hAllocates : machine.Allocates flags result after) :
      Ends machine (.allocatePage address flags) (.mapped result) after
  | allocatePages {address bytes flags after} (hRun : Action.IsRun address bytes)
      (hBacked : machine.Backed machine ∅ after (Page.containing address : VirtualPage).number
        ((Page.containing address : VirtualPage).number + bytes.toNat / Layout.pageBytes))
      (hEdited : machine.Edited after) :
      Ends machine (.allocatePages address bytes flags) (.settled (.ok ())) after
  | rollBack {address bytes flags error number after}
      (hBacked : machine.Backed machine ∅ after number number) (hEdited : machine.Edited after) :
      Ends machine (.allocatePages address bytes flags) (.settled (.error error)) after
  | lookup {address mapping} : Ends machine (.lookup address) (.found mapping) machine
  | physicalAddress {address physical} :
      Ends machine (.physicalAddress address) (.located physical) machine
  | newDirectory {result after} (hFounds : machine.Founds result after) :
      Ends machine .newDirectory (.created result) after

/-- However a request ends, it has only edited the machine. -/
theorem Ends.edited (hWellFormed : machine.WellFormed) {command : Command} {reply : Reply}
    (hEnds : Ends machine command reply after) : machine.Edited after := by
  have hBase := hWellFormed.walkable
  cases hEnds with
  | mapPage hMaps => exact Machine.Edited.start.mapped hBase (fun _ => rfl) hMaps
  | mapForced hForces => exact .forced hBase hForces
  | setMapping hSets => exact .settled hBase hSets
  | unmapPage hPage hEmpties => exact Machine.Edited.start.emptied hPage hEmpties
  | keepPage hUnchanged => exact Machine.Edited.start.unchanged hUnchanged
  | unmapDevice hPage => exact Machine.Edited.start.vacated hPage
  | keepDevice hUnchanged => exact Machine.Edited.start.unchanged hUnchanged
  | allocatePage hAllocates => exact .allocated hBase hAllocates
  | allocatePages hRun hBacked hEdited => exact hEdited
  | rollBack hBacked hEdited => exact hEdited
  | lookup => exact .start
  | physicalAddress => exact .start
  | newDirectory hFounds => exact .founds hFounds

/-- Both loops over a run of pages only edit the machine. -/
theorem companion_edited (hWellFormed : machine.WellFormed) (flags : UInt32) (first last : Nat) :
    Machine.Companion machine machine ∅ flags first last (fun _ => True)
      fun _ _ current => machine.Edited current where
  unchanged hUnchanged hEdited := hEdited.unchanged hUnchanged
  backed _ _ hBacked hBacks hEdited :=
    hEdited.backed hWellFormed.walkable (fun hPage => hBacked.rest _
      (Layout.directorySlot_ne_of_not_reserved hPage) (.inr (Nat.le_refl _))) hBacks
  refused _ _ hBacked hBacks hEdited :=
    ⟨hEdited.backed hWellFormed.walkable (fun hPage => hBacked.rest _
      (Layout.directorySlot_ne_of_not_reserved hPage) (.inr (Nat.le_refl _))) hBacks, trivial⟩
  released _ hBelow hBacked hEmpties hEdited :=
    hEdited.emptied (hBacked.inside _ (Nat.le_refl _) hBelow).1 hEmpties

/-- Every request but the one for a directory leads to one of its ends. -/
theorem leads_ends (hWellFormed : machine.WellFormed) {command : Command}
    (hCommand : command ≠ .newDirectory) :
    command.perform.Leads machine (Ends machine command) := by
  cases command with
  | mapPage address physical flags =>
      exact .map ((Action.leads_mapPage hWellFormed.stocked address physical flags).mono
        fun _ _ hMaps => .mapPage hMaps)
  | mapForced address physical flags =>
      exact .map ((Action.leads_mapForced hWellFormed.stocked address physical flags).mono
        fun _ _ hForces => .mapForced hForces)
  | setMapping address physical flags =>
      exact .map ((Action.leads_setMapping hWellFormed.stocked address physical flags).mono
        fun _ _ hSets => .setMapping hSets)
  | unmapPage address =>
      refine .map ((Action.leads_unmapPage hWellFormed.stocked address).mono ?_)
      intro reply after hReply
      cases reply with
      | error error => exact .keepPage hReply.2
      | ok value => exact .unmapPage hReply.1.not_reserved hReply.2
  | unmapDevice address =>
      refine .map ((Action.leads_unmapDevice hWellFormed.stocked address).mono ?_)
      intro reply after hReply
      cases reply with
      | error error => exact .keepDevice hReply.2
      | ok value =>
          obtain ⟨hRemovable, rfl⟩ := hReply
          exact .unmapDevice hRemovable.not_reserved
  | allocatePage address flags =>
      exact .map ((Action.leads_allocatePage hWellFormed.stocked address flags).mono
        fun _ _ hAllocates => .allocatePage hAllocates)
  | allocatePages address bytes flags =>
      refine .map ((Action.leads_allocatePages_of_companion hWellFormed
        (Machine.Ledger.start machine) address bytes (companion_edited hWellFormed flags _ _)
        .start).mono ?_)
      intro reply after hReply
      cases reply with
      | ok value =>
          obtain ⟨hRun, hBacked, hEdited⟩ := hReply
          exact .allocatePages hRun hBacked hEdited
      | error error =>
          rcases hReply with ⟨-, -, rfl⟩ | ⟨-, number, hBacked, hEdited⟩
          · exact .rollBack (.refl (Machine.Ledger.start _) 0) .start
          · exact .rollBack hBacked hEdited
  | lookup address =>
      refine .map ((Action.leads_lookup hWellFormed.stocked address).mono ?_)
      rintro mapping after rfl
      exact .lookup
  | physicalAddress address =>
      refine .map ((Action.leads_physicalAddress? hWellFormed.stocked address).mono ?_)
      rintro physical after rfl
      exact .physicalAddress
  | newDirectory => exact absurd rfl hCommand

/-- Every request is answered, and ends in one of its ways. -/
theorem exists_run_ends (hWellFormed : machine.WellFormed) (hOpen : machine.view.Unrestricted)
    (command : Command) :
    ∃ reply after, command.perform.run machine = .done reply after ∧
      Ends machine command reply after := by
  have hSeen := hWellFormed.walkable.seenThrough hOpen
  by_cases hCommand : command = .newDirectory
  · subst hCommand
    obtain ⟨result, after, hRun, hFounds⟩ :=
      Action.exists_run_newDirectory hWellFormed.stocked hSeen
    exact ⟨.created result, after, by simp [perform, hRun], .newDirectory hFounds⟩
  · refine (leads_ends hWellFormed hCommand).run_stays hSeen ?_
    intro reply after hEnds
    exact ((hEnds.edited hWellFormed).sparing hWellFormed.walkable).stays.view

end Command

end TwoLevelPaging
