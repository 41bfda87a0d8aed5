import TwoLevelPaging.Page

/-!
# Paging entries

One 32-bit word describes either the table behind a directory slot or the frame
behind a table slot.  Both have the same layout:

* bits 0 to 7 are flags that the processor defines (`Flags`);
* bits 8 to 11 are free for the operating system;
* bits 12 to 31 are the frame number.

`Entry.ofWord` and `Entry.toWord` are inverse to each other
(`toWord_ofWord`, `ofWord_toWord`), so tables may hold words and the rest of the
library speaks of entries only.

A request names the flags of a mapping by a word of its own, in which bits above
the flags mean nothing: `Flags.ofWord` drops them (`word_ofWord`), and of the
flags a leaf keeps all but the large page (`word_leaf`).
-/

namespace TwoLevelPaging

/-- The eight flags that the processor gives a meaning. -/
structure Flags where
  /-- The page walk uses the entry. -/
  present : Bool := false
  /-- Stores are allowed. -/
  writable : Bool := false
  /-- Unprivileged code is admitted. -/
  user : Bool := false
  /-- Caching writes through. -/
  writeThrough : Bool := false
  /-- Caching is off. -/
  cacheDisabled : Bool := false
  /-- The processor has used the entry. -/
  accessed : Bool := false
  /-- The processor has stored through the entry. -/
  dirty : Bool := false
  /-- The entry maps a 4 MiB span, or selects a memory type. -/
  large : Bool := false
  deriving DecidableEq, Inhabited

/-- The content of one slot: flags, four bits for the system, and a frame. -/
structure Entry extends Flags where
  available : Fin 16 := 0
  frame : Frame := Page.ofNumber 0
  deriving DecidableEq

namespace Flags

/-- The bits of a word that are flags. -/
def definedMask : UInt32 := 0xFF

/-- The flags that a table entry keeps: all but the large page. -/
def leafMask : UInt32 := 0x7F

/-- Present and writable, for the kernel only. -/
def kernelReadWrite : Flags :=
  { present := true, writable := true }

/-- Present and read-only, for the kernel only. -/
def kernelReadOnly : Flags :=
  { present := true }

/-- Present and writable, also for unprivileged code. -/
def userReadWrite : Flags :=
  { present := true, writable := true, user := true }

/-- The flags of the directory slot that names the directory itself. -/
def selfMap : Flags :=
  { present := true, writable := true, cacheDisabled := true }

/-- The flags as the low eight bits of a word. -/
def bits (flags : Flags) : Nat :=
  flags.present.toNat + 2 * flags.writable.toNat + 4 * flags.user.toNat +
    8 * flags.writeThrough.toNat + 16 * flags.cacheDisabled.toNat +
    32 * flags.accessed.toNat + 64 * flags.dirty.toNat + 128 * flags.large.toNat

/-- The flags in the low eight bits of a word. -/
def ofWord (word : UInt32) : Flags where
  present := word.toNat % 2 == 1
  writable := word.toNat / 2 % 2 == 1
  user := word.toNat / 4 % 2 == 1
  writeThrough := word.toNat / 8 % 2 == 1
  cacheDisabled := word.toNat / 16 % 2 == 1
  accessed := word.toNat / 32 % 2 == 1
  dirty := word.toNat / 64 % 2 == 1
  large := word.toNat / 128 % 2 == 1

/-- The word that holds these flags and nothing else. -/
def word (flags : Flags) : UInt32 :=
  UInt32.ofNat flags.bits

theorem bits_lt (flags : Flags) : flags.bits < 256 := by
  obtain ⟨present, writable, user, writeThrough, cacheDisabled, accessed, dirty, large⟩ := flags
  have hPresent := present.toNat_lt
  have hWritable := writable.toNat_lt
  have hUser := user.toNat_lt
  have hWriteThrough := writeThrough.toNat_lt
  have hCacheDisabled := cacheDisabled.toNat_lt
  have hAccessed := accessed.toNat_lt
  have hDirty := dirty.toNat_lt
  have hLarge := large.toNat_lt
  simp only [bits]
  omega

theorem toNat_word (flags : Flags) : flags.word.toNat = flags.bits := by
  have hBits := flags.bits_lt
  rw [word, UInt32.toNat_ofNat']
  exact Nat.mod_eq_of_lt (by omega)

private theorem bit_toNat (number : Nat) : (number % 2 == 1).toNat = number % 2 := by
  rcases Nat.mod_two_eq_zero_or_one number with hEven | hOdd
  · simp [hEven]
  · simp [hOdd]

private theorem testBit_toNat (bit : Bool) (number : Nat) (hSame : number % 2 = bit.toNat) :
    (number % 2 == 1) = bit := by
  cases bit <;> simp_all

theorem bits_ofWord (word : UInt32) : (ofWord word).bits = word.toNat % 256 := by
  simp only [ofWord, bits, bit_toNat]
  omega

/-- Of a word its low eight bits are the flags. -/
theorem word_ofWord (word : UInt32) : (ofWord word).word = word &&& definedMask := by
  apply UInt32.toNat_inj.mp
  rw [toNat_word, bits_ofWord, UInt32.toNat_and]
  exact (Nat.and_two_pow_sub_one_eq_mod word.toNat 8).symm

/-- Flags are recovered from every word that holds them in its low eight bits. -/
theorem ofWord_eq {word : UInt32} {flags : Flags} (hWord : word.toNat % 256 = flags.bits) :
    ofWord word = flags := by
  obtain ⟨present, writable, user, writeThrough, cacheDisabled, accessed, dirty, large⟩ := flags
  have hPresent := present.toNat_lt
  have hWritable := writable.toNat_lt
  have hUser := user.toNat_lt
  have hWriteThrough := writeThrough.toNat_lt
  have hCacheDisabled := cacheDisabled.toNat_lt
  have hAccessed := accessed.toNat_lt
  have hDirty := dirty.toNat_lt
  have hLarge := large.toNat_lt
  simp only [bits] at hWord
  simp only [ofWord, Flags.mk.injEq]
  refine ⟨testBit_toNat _ _ ?_, testBit_toNat _ _ ?_, testBit_toNat _ _ ?_,
    testBit_toNat _ _ ?_, testBit_toNat _ _ ?_, testBit_toNat _ _ ?_, testBit_toNat _ _ ?_,
    testBit_toNat _ _ ?_⟩
  all_goals omega

@[simp]
theorem ofWord_word (flags : Flags) : ofWord flags.word = flags :=
  ofWord_eq (by rw [toNat_word]; exact Nat.mod_eq_of_lt flags.bits_lt)

end Flags

namespace Entry

/-- The entry that a word describes. -/
def ofWord (word : UInt32) : Entry where
  toFlags := Flags.ofWord word
  available := ⟨word.toNat / 256 % 16, Nat.mod_lt _ (by decide)⟩
  frame := Page.containing ⟨word⟩

/-- The word that describes the entry. -/
def toWord (entry : Entry) : UInt32 :=
  UInt32.ofNat (entry.toFlags.bits + 256 * entry.available.val + 4096 * entry.frame.number)

/-- The entry whose word is zero. -/
def zero : Entry :=
  ofWord 0

/-- Whether the slot is free: its word is zero.  An entry that is not present
but holds other bits is in use. -/
def isFree (entry : Entry) : Bool :=
  entry.toWord == 0

/-- The frame that an entry in use holds, whether or not it is present. -/
def storedFrame? (entry : Entry) : Option Frame :=
  if entry.isFree then none else some entry.frame

/-- The frame of a present entry. -/
def presentFrame? (entry : Entry) : Option Frame :=
  if entry.present then some entry.frame else none

/-- The directory entry that links a table: present, never a 4 MiB span. -/
def link (frame : Frame) (flags : Flags) : Entry where
  toFlags := { flags with present := true, large := false }
  available := 0
  frame := frame

/-- The table entry that maps a frame with the flags of this word: present as the
word says, never a large page. -/
def leaf (frame : Frame) (flags : UInt32) : Entry where
  toFlags := { Flags.ofWord flags with large := false }
  available := 0
  frame := frame

/-- The entry that holds these flags and nothing else. -/
def ofFlags (flags : Flags) : Entry :=
  { flags with }

/-- A word is recovered from the entry that it describes. -/
@[simp]
theorem toWord_ofWord (word : UInt32) : (ofWord word).toWord = word := by
  apply UInt32.toNat_inj.mp
  have hBound := word.toNat_lt
  have hSmall : (ofWord word).toFlags.bits + 256 * (ofWord word).available.val +
      4096 * (ofWord word).frame.number = word.toNat := by
    simp only [ofWord, Flags.bits_ofWord, Page.number_containing, Address.toNat, PageSize.bytes]
    omega
  rw [toWord, hSmall, UInt32.ofNat_toNat]

theorem toNat_toWord (entry : Entry) :
    entry.toWord.toNat =
      entry.toFlags.bits + 256 * entry.available.val + 4096 * entry.frame.number := by
  have hFlags := entry.toFlags.bits_lt
  have hAvailable := entry.available.isLt
  have hFrame := entry.frame.number_lt
  simp only [PageSize.count] at hFrame
  rw [toWord, UInt32.toNat_ofNat']
  exact Nat.mod_eq_of_lt (by omega)

/-- An entry is recovered from its word. -/
@[simp]
theorem ofWord_toWord (entry : Entry) : ofWord entry.toWord = entry := by
  have hWord := entry.toNat_toWord
  have hBits := entry.toFlags.bits_lt
  have hAvailable := entry.available.isLt
  obtain ⟨flags, available, frame⟩ := entry
  simp only at hWord hBits hAvailable
  generalize Entry.toWord _ = stored at hWord ⊢
  simp only [ofWord, Entry.mk.injEq]
  refine ⟨Flags.ofWord_eq (by omega), Fin.ext (by simp only; omega), Page.ext ?_⟩
  rw [Page.number_containing]
  simp only [Address.toNat, PageSize.bytes]
  omega

theorem toWord_injective {first second : Entry} (hSame : first.toWord = second.toWord) :
    first = second := by
  rw [← ofWord_toWord first, ← ofWord_toWord second, hSame]

theorem isFree_iff (entry : Entry) : entry.isFree = true ↔ entry = zero := by
  constructor
  · intro hFree
    apply toWord_injective
    simpa [isFree, zero] using hFree
  · rintro rfl
    simp [isFree, zero]

@[simp]
theorem isFree_zero : zero.isFree = true :=
  (isFree_iff zero).mpr rfl

/-- A leaf shows the flags that it was asked for, but for the large page and for bits
that are no flags. -/
theorem word_leaf (frame : Frame) (flags : UInt32) :
    (leaf frame flags).toFlags.word = flags &&& Flags.leafMask := by
  have hBits : (leaf frame flags).toFlags.bits = flags.toNat % 128 := by
    have hKept := Flags.bits_ofWord flags
    have hLarge : (Flags.ofWord flags).large.toNat = flags.toNat / 128 % 2 :=
      Flags.bit_toNat _
    simp only [Flags.bits, leaf, Bool.toNat_false] at hKept ⊢
    omega
  apply UInt32.toNat_inj.mp
  rw [Flags.toNat_word, hBits, UInt32.toNat_and]
  exact (Nat.and_two_pow_sub_one_eq_mod flags.toNat 7).symm

end Entry

end TwoLevelPaging
