import TwoLevelPaging.Text.Hex

/-!
# Addresses

An address is a 32-bit word together with the space it points into, so that a
physical address cannot be used where a virtual one is meant.  Two page sizes
exist: the 4 KiB page, which is the grain of allocation and mapping, and the
4 MiB span that one directory entry covers.
-/

namespace TwoLevelPaging

/-- What an address points into.  A `plain` address is not yet typed. -/
inductive Space where
  | plain
  | physical
  | virtual
  deriving DecidableEq

/-- The two page sizes of the machine. -/
inductive PageSize where
  /-- 4 KiB, mapped by one entry of a page table. -/
  | small
  /-- 4 MiB, covered by one entry of the page directory. -/
  | large
  deriving DecidableEq

namespace PageSize

/-- The number of address bits inside a page. -/
def shift : PageSize → Nat
  | small => 12
  | large => 22

/-- The number of bytes of a page. -/
def bytes : PageSize → Nat
  | small => 4096
  | large => 4194304

/-- The number of pages of this size in the 4 GiB of an address space. -/
def count : PageSize → Nat
  | small => 1048576
  | large => 1024

/-- The greatest offset inside a page. -/
def mask (size : PageSize) : Nat :=
  size.bytes - 1

/-- The short name shown after a page base. -/
def name : PageSize → String
  | small => "4K"
  | large => "4M"

theorem bytes_mul_count (size : PageSize) : size.bytes * size.count = 0x100000000 := by
  cases size <;> rfl

theorem bytes_pos (size : PageSize) : 0 < size.bytes := by
  cases size <;> decide

theorem count_pos (size : PageSize) : 0 < size.count := by
  cases size <;> decide

end PageSize

/-- A byte address of the given space. -/
structure Address (space : Space) where
  word : UInt32
  deriving DecidableEq, Inhabited

namespace Address

variable {space : Space}

/-- The address as a number. -/
def toNat (address : Address space) : Nat :=
  address.word.toNat

/-- The address of a number, of which only the low 32 bits count. -/
def ofNat (number : Nat) : Address space :=
  ⟨UInt32.ofNat number⟩

theorem toNat_lt (address : Address space) : address.toNat < 0x100000000 :=
  address.word.toNat_lt

@[simp]
theorem toNat_ofNat (number : Nat) :
    (ofNat number : Address space).toNat = number % 0x100000000 := by
  simp [ofNat, toNat]

@[simp]
theorem ofNat_toNat (address : Address space) : ofNat address.toNat = address := by
  simp [ofNat, toNat]

theorem toNat_injective {first second : Address space}
    (hSame : first.toNat = second.toNat) : first = second := by
  rw [← ofNat_toNat first, ← ofNat_toNat second, hSame]

/-- Whether this is address zero. -/
def isNull (address : Address space) : Bool :=
  address.toNat == 0

/-- Whether the address is the base of a page of this size. -/
def isAligned (size : PageSize) (address : Address space) : Bool :=
  address.toNat % size.bytes == 0

/-- The address that many bytes above, unless it lies past the top. -/
def add? (address : Address space) (bytes : UInt32) : Option (Address space) :=
  if address.toNat + bytes.toNat < 0x100000000 then
    some (ofNat (address.toNat + bytes.toNat))
  else
    none

/-- The greatest page base that is not above the address. -/
def alignDown (size : PageSize) (address : Address space) : Address space :=
  ofNat (address.toNat / size.bytes * size.bytes)

/-- The least page base that is not below the address, unless adding the
page's mask to the address already leaves the space. -/
def alignUp? (size : PageSize) (address : Address space) : Option (Address space) :=
  (address.add? (UInt32.ofNat size.mask)).map (alignDown size)

/-- How the address compares with another one of its space. -/
def order (first second : Address space) : Ordering :=
  compare first.toNat second.toNat

/-- The address in eight upper-case hexadecimal digits. -/
def display (address : Address space) : String :=
  Text.hexUpper 10 address.toNat

/-- The address after a tag that names its space. -/
def debug (address : Address space) : String :=
  (match space with
    | .plain => "addr:"
    | .physical => "pa:"
    | .virtual => "va:") ++ address.display

end Address

end TwoLevelPaging
