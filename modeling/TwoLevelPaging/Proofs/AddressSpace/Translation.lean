import TwoLevelPaging.Memory

/-!
# Address translation

`Memory.translate?` is what the processor makes of a virtual address: the byte of
physical memory behind it and the rights to use it.  The walk is the one of
`Memory.leaf?`; a right is granted only if both entries of the walk grant it.

Directory entries are always read as links to tables, which is how every
directory entry of this library is made (`Entry.link` never sets `large`).
-/

namespace TwoLevelPaging

/-- A byte of physical memory, and the rights of whoever came by this way. -/
structure Translation where
  physical : Address .physical
  writable : Bool
  user : Bool
  deriving DecidableEq

namespace Memory

/-- The present directory entry of a slot. -/
def link? (memory : Memory) (root : Frame) (slot : Slot) : Option Entry :=
  match memory.table? root with
  | none => none
  | some directory =>
    let entry := directory.get slot
    if entry.present then some entry else none

/-- The physical address behind a virtual one and the rights that both levels of
the walk grant. -/
def translate? (memory : Memory) (root : Frame) (address : Address .virtual) :
    Option Translation :=
  let page : VirtualPage := Page.containing address
  match memory.link? root page.directorySlot, memory.leaf? root page with
  | some link, some leaf =>
      some ⟨leaf.frame.join (Offset.ofAddress address), link.writable && leaf.writable,
        link.user && leaf.user⟩
  | _, _ => none

variable {memory : Memory} {root : Frame} {directory : Table}

theorem link?_eq (hRoot : memory.table? root = some directory) (slot : Slot) :
    memory.link? root slot =
      if (directory.get slot).present then some (directory.get slot) else none := by
  rw [link?, hRoot]

/-- A walk that finds no present directory entry goes nowhere. -/
theorem translate?_of_unlinked {address : Address .virtual}
    (hRoot : memory.table? root = some directory)
    (hLink : (directory.get (Page.containing address : VirtualPage).directorySlot).present =
      false) :
    memory.translate? root address = none := by
  simp [translate?, link?_eq hRoot, hLink]

/-- A walk through a present directory entry is decided by the entry that it finds
in the table. -/
theorem translate?_of_linked {address : Address .virtual} {table : Table}
    (hRoot : memory.table? root = some directory)
    (hLink : (directory.get (Page.containing address : VirtualPage).directorySlot).present =
      true)
    (hTable : memory.table?
      (directory.get (Page.containing address : VirtualPage).directorySlot).frame = some table) :
    memory.translate? root address =
      let link := directory.get (Page.containing address : VirtualPage).directorySlot
      let leaf := table.get (Page.containing address : VirtualPage).tableSlot
      if leaf.present then
        some ⟨leaf.frame.join (Offset.ofAddress address), link.writable && leaf.writable,
          link.user && leaf.user⟩
      else
        none := by
  have hWalk : memory.leaf? root (Page.containing address) =
      if (table.get (Page.containing address : VirtualPage).tableSlot).present then
        some (table.get (Page.containing address : VirtualPage).tableSlot)
      else none := by
    simp only [leaf?, hRoot, Entry.presentFrame?, hLink, if_true, hTable]
  simp only [translate?, link?_eq hRoot, hLink, if_true, hWalk]
  cases (table.get (Page.containing address : VirtualPage).tableSlot).present <;> rfl

/-- A walk that ends has found a present entry on both levels. -/
theorem exists_of_leaf?_eq_some {page : VirtualPage} {leaf : Entry}
    (hLeaf : memory.leaf? root page = some leaf) :
    ∃ directory table, memory.table? root = some directory ∧
      (directory.get page.directorySlot).present = true ∧
      memory.table? (directory.get page.directorySlot).frame = some table ∧
      table.get page.tableSlot = leaf ∧ leaf.present = true := by
  unfold leaf? at hLeaf
  cases hRoot : memory.table? root with
  | none =>
      rw [hRoot] at hLeaf
      cases hLeaf
  | some directory =>
      simp only [hRoot, Entry.presentFrame?] at hLeaf
      cases hLink : (directory.get page.directorySlot).present with
      | false =>
          rw [hLink, if_neg Bool.false_ne_true] at hLeaf
          cases hLeaf
      | true =>
          simp only [hLink, if_true] at hLeaf
          cases hTable : memory.table? (directory.get page.directorySlot).frame with
          | none =>
              rw [hTable] at hLeaf
              cases hLeaf
          | some table =>
              simp only [hTable] at hLeaf
              split at hLeaf
              · rename_i hPresent
                obtain rfl := Option.some.inj hLeaf
                exact ⟨directory, table, rfl, hLink, hTable, rfl, hPresent⟩
              · cases hLeaf

end Memory
end TwoLevelPaging
