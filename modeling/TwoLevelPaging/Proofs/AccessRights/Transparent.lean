import TwoLevelPaging.Proofs.AddressSpace.NewDirectory
import TwoLevelPaging.Proofs.BringUp.Booted

/-!
# The rights of a page

The processor grants a right on a page only if the directory entry and the table entry both
do.  A machine is `Transparent` if the directory has no say in this: every link below the
self-map admits stores, and the link above an entry for unprivileged code admits such code.
Then the rights of a page are those of its own entry (`Transparent.translate?_eq`).

A link is made or widened before the entry is placed that needs it, and it is never narrowed
again, so every edit keeps a machine transparent.  New directories and the boot tables are
transparent from the start.
-/

namespace TwoLevelPaging

namespace Machine

section Edits

variable {source : Type} {machine before after : Machine source} {frame table : Frame}
  {page : VirtualPage} {slot : Slot} {flags : UInt32} {user : Bool}

/-- Below the self-map the directory withholds no right that a table entry grants. -/
structure Transparent (machine : Machine source) : Prop where
  /-- Every link admits stores. -/
  stores : ∀ {slot}, slot ≠ Layout.selfMapSlot → (machine.linkAt slot).present = true →
    (machine.linkAt slot).writable = true
  /-- An entry for unprivileged code lies under a link that admits such code. -/
  users : ∀ {page : VirtualPage}, page.directorySlot ≠ Layout.selfMapSlot →
    (machine.entryAt page).user = true → (machine.linkAt page.directorySlot).user = true

theorem Transparent.congr (hTransparent : before.Transparent)
    (hLinks : ∀ slot, slot ≠ Layout.selfMapSlot → after.linkAt slot = before.linkAt slot)
    (hEntries : ∀ page : VirtualPage, page.directorySlot ≠ Layout.selfMapSlot →
      after.entryAt page = before.entryAt page) : after.Transparent where
  stores hSlot hPresent := by
    rw [hLinks _ hSlot] at hPresent ⊢
    exact hTransparent.stores hSlot hPresent
  users hPage hUser := by
    rw [hEntries _ hPage] at hUser
    rw [hLinks _ hPage]
    exact hTransparent.users hPage hUser

/-- A directory without links withholds nothing. -/
theorem transparent_of_unlinked
    (hLinks : ∀ slot, slot ≠ Layout.selfMapSlot → machine.linkAt slot = Entry.zero) :
    machine.Transparent where
  stores hSlot hPresent := by
    rw [hLinks _ hSlot] at hPresent
    cases hPresent
  users hPage hUser := by
    rw [entryAt_of_unlinked (by rw [link?, hLinks _ hPage, Entry.presentFrame?_zero])] at hUser
    cases hUser

/-- The rights on a page are those of its entry. -/
theorem Transparent.translate?_eq (hTransparent : machine.Transparent)
    {address : Address .virtual}
    (hPage : (Page.containing address : VirtualPage).directorySlot ≠ Layout.selfMapSlot) :
    machine.memory.translate? machine.root address =
      (machine.memory.leaf? machine.root (Page.containing address)).map fun leaf =>
        ⟨leaf.frame.join (Offset.ofAddress address), leaf.writable, leaf.user⟩ := by
  cases hLeaf : machine.memory.leaf? machine.root (Page.containing address) with
  | none =>
      rw [Memory.translate?, hLeaf]
      cases machine.memory.link? machine.root (Page.containing address : VirtualPage).directorySlot
        <;> rfl
  | some leaf =>
      obtain ⟨directory, table, hRoot, hLink, hTable, rfl, hPresent⟩ :=
        Memory.exists_of_leaf?_eq_some hLeaf
      have hLinkAt : ∀ slot, machine.linkAt slot = directory.get slot := by
        intro slot
        rw [linkAt, Memory.content, hRoot, Option.getD_some]
      have hEntryAt : machine.entryAt (Page.containing address) =
          table.get (Page.containing address : VirtualPage).tableSlot := by
        rw [entryAt, link?, hLinkAt, Entry.presentFrame?, if_pos hLink]
        simp only [Memory.content, hTable, Option.getD_some]
      have hStores := hTransparent.stores hPage
      have hUsers := hTransparent.users hPage
      rw [hLinkAt] at hStores hUsers
      rw [hEntryAt] at hUsers
      rw [Memory.translate?_of_linked hRoot hLink hTable]
      simp only [hPresent, if_true, Option.map_some, hStores hLink, Bool.true_and]
      -- The link has a say only for entries that admit unprivileged code.
      cases hUser : (table.get (Page.containing address : VirtualPage).tableSlot).user with
      | false => rw [Bool.and_false]
      | true => rw [hUsers hUser, Bool.true_and]

/-- The machine is transparent with a directory that maps nothing but itself as its root. -/
theorem transparent_of_content
    (hContent : machine.memory.content frame =
      Table.zero.set Layout.selfMapSlot (Entry.link frame .selfMap)) :
    Transparent { machine with root := frame } := by
  apply transparent_of_unlinked
  intro slot hSlot
  show (machine.memory.content frame).get slot = Entry.zero
  rw [hContent, Table.get_set_of_ne _ _ (Ne.symm hSlot), Table.get_zero]

/-! ## Links -/

/-- Widening a link takes nothing away from it. -/
theorem linkAt_widen (hRoot : machine.Installed machine.root) (slot : Slot) (table : Frame)
    (user : Bool) :
    ((machine.widen slot table user).linkAt slot).writable = (machine.linkAt slot).writable ∧
      ((machine.widen slot table user).linkAt slot).user =
        ((machine.linkAt slot).user || user) := by
  unfold widen
  by_cases hAdmit : (user && !(machine.linkAt slot).user) = true
  · rw [if_pos hAdmit, linkAt_relink hRoot, if_pos rfl]
    simp only [Bool.and_eq_true] at hAdmit
    exact ⟨rfl, by simp [Entry.link, hAdmit.1]⟩
  · rw [if_neg hAdmit]
    cases hUser : user <;> cases hLink : (machine.linkAt slot).user <;> simp_all

variable [FrameSource source]

/-- The link of a table that has been provided admits stores, the unprivileged code that is
asked for, and whatever the entries below it admit. -/
theorem Ensured.grants (hTransparent : machine.Transparent)
    (hRoot : machine.Installed machine.root) (hSlot : slot ≠ Layout.selfMapSlot)
    (hEnsured : machine.Ensured slot user (.ok table) after) :
    (after.linkAt slot).writable = true ∧
      (user = true ∨ (∃ page : VirtualPage, page.directorySlot = slot ∧
        (machine.entryAt page).user = true) → (after.linkAt slot).user = true) := by
  cases hEnsured with
  | present hLink =>
      obtain ⟨hStores, hUser⟩ := linkAt_widen hRoot slot table user
      obtain ⟨hPresent, -⟩ := (Entry.presentFrame?_eq_some_iff _ _).mp hLink
      rw [hStores, hUser]
      refine ⟨hTransparent.stores hSlot hPresent, ?_⟩
      rintro (rfl | ⟨page, rfl, hEntry⟩)
      · rw [Bool.or_true]
      · rw [hTransparent.users hSlot hEntry, Bool.true_or]
  | fresh hLink hTake hFresh =>
      rename_i pool events
      have hDrawnRoot : (machine.draw pool events).Installed (machine.draw pool events).root :=
        hRoot
      rw [linkAt_grow hDrawnRoot hFresh.ne_root, if_pos rfl]
      refine ⟨rfl, ?_⟩
      rintro (rfl | ⟨page, rfl, hEntry⟩)
      · rfl
      · rw [entryAt_of_unlinked hLink] at hEntry
        cases hEntry

theorem Ensured.transparent (hTransparent : machine.Transparent)
    (hTraversable : machine.Traversable) (hSlot : slot ≠ Layout.selfMapSlot)
    {result : Except LinkError Frame} (hEnsured : machine.Ensured slot user result after) :
    after.Transparent := by
  cases result with
  | error cause =>
      cases hEnsured with
      | starved hLink hTake => exact hTransparent.congr (fun _ _ => rfl) fun _ _ => rfl
  | ok table =>
      have hPrepared := hEnsured.prepared_physical hTraversable hSlot
      have hLinks : ∀ other, slot ≠ other → after.linkAt other = machine.linkAt other :=
        hPrepared.linkAt_of_ne
      obtain ⟨hStores, hUsers⟩ :=
        hEnsured.grants hTransparent hTraversable.root_installed hSlot
      constructor
      · intro other hOther hPresent
        by_cases hSame : slot = other
        · rw [← hSame]
          exact hStores
        · rw [hLinks other hSame] at hPresent ⊢
          exact hTransparent.stores hOther hPresent
      · intro page hPage hUser
        have hEntry : after.entryAt page = machine.entryAt page := hPrepared.entries page hPage
        rw [hEntry] at hUser
        by_cases hSame : slot = page.directorySlot
        · rw [← hSame]
          exact hUsers (.inr ⟨page, hSame.symm, hUser⟩)
        · rw [hLinks _ hSame]
          exact hTransparent.users hPage hUser

omit [FrameSource source] in
/-- An entry may be placed where its link admits what it does. -/
theorem Rewrites.transparent {entry : Entry} (hRewrites : Rewrites before after page entry)
    (hTransparent : before.Transparent)
    (hAdmits : entry.user = true → (before.linkAt page.directorySlot).user = true) :
    after.Transparent where
  stores hSlot hPresent := by
    rw [hRewrites.links] at hPresent ⊢
    exact hTransparent.stores hSlot hPresent
  users := by
    intro other hOther hUser
    rw [hRewrites.entries other hOther] at hUser
    rw [hRewrites.links]
    by_cases hSame : other = page
    · rw [if_pos hSame] at hUser
      rw [hSame]
      exact hAdmits hUser
    · rw [if_neg hSame] at hUser
      exact hTransparent.users hOther hUser

theorem Installs.transparent (hTransparent : machine.Transparent)
    (hTraversable : machine.Traversable) (hPage : page.directorySlot ≠ Layout.selfMapSlot)
    {forced : Bool} {result : Except LinkError (Option Frame)}
    (hInstalls : machine.Installs page frame flags forced result after) : after.Transparent := by
  cases hInstalls with
  | refused hEnsured => exact hEnsured.transparent hTransparent hTraversable hPage
  | occupied hEnsured hUsed hForced =>
      exact hEnsured.transparent hTransparent hTraversable hPage
  | placed hEnsured hAllowed =>
      obtain ⟨-, hUsers⟩ := hEnsured.grants hTransparent hTraversable.root_installed hPage
      exact (hEnsured.rewrites_place hTraversable hPage _).transparent
        (hEnsured.transparent hTransparent hTraversable hPage) fun hUser => hUsers (.inl hUser)

end Edits

/-! ## The boot tables -/

section Boot

variable {source : Type} {machine : Machine source} {address : Address .physical}
  {image : KernelImage} {block : BootBlock} {page : VirtualPage}

/-- A page below the self-map has an entry of a table of the block, or none. -/
theorem Boots.entryAt_cases (hBoots : machine.Boots address block)
    (hBuilt : BootBlock.Built address image block)
    (hPage : page.directorySlot ≠ Layout.selfMapSlot) :
    machine.entryAt page = Entry.zero ∨
      ∃ table, machine.entryAt page = block.leafAt table page.tableSlot := by
  cases hLink : machine.link? page.directorySlot with
  | none => exact .inl (entryAt_of_unlinked hLink)
  | some linked =>
      obtain ⟨position, hLinks, rfl⟩ := hBoots.exists_linksFrame hBuilt hLink
      have hPosition := hLinks.position_lt
      cases position with
      | zero =>
          -- The directory itself is linked by the last slot only.
          unfold BootBlock.LinksFrame at hLinks
          exact absurd (Fin.ext (show page.directorySlot.val = 1023 by omega)) hPage
      | succ table =>
          right
          exists ⟨table, by omega⟩
          have hTable := hBoots.placed.table ⟨table, by omega⟩
          rw [entryAt_of_linked hLink, Memory.content, hTable, Option.getD_some]
          rfl

theorem Boots.transparent (hBoots : machine.Boots address block)
    (hAccepts : BootBlock.Accepts address image)
    (hBuilt : BootBlock.Built address image block) : machine.Transparent where
  stores := by
    intro slot hSlot hPresent
    rw [hBoots.linkAt_eq] at hPresent ⊢
    rcases hBuilt.get_cases slot with ⟨-, -, hStores, -⟩ | ⟨-, hZero⟩
    · exact hStores
    · rw [hZero] at hPresent
      cases hPresent
  users := by
    intro page hPage hUser
    rcases hBoots.entryAt_cases hBuilt hPage with hEntry | ⟨table, hEntry⟩
    · rw [hEntry] at hUser
      cases hUser
    · -- The block has entries for the kernel alone.
      rw [hEntry] at hUser
      rcases hBuilt.leafAt_cases hAccepts table page.tableSlot with
        ⟨-, hLeaf⟩ | ⟨index, -, hLeaf⟩ | hLeaf <;> rw [hLeaf] at hUser <;> cases hUser

end Boot

end Machine

end TwoLevelPaging
