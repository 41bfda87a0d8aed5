import TwoLevelPaging.Address
import TwoLevelPaging.Fault

/-!
# Pages and offsets

A page is kept as its number, the base address divided by the page size, which
makes every page aligned by construction.  `Frame` is a 4 KiB page of physical
memory, `VirtualPage` one of a virtual address space.  An address is a page and
an offset in it (`join_containing`), and joining loses neither
(`containing_join`, `offset_join`).
-/

namespace TwoLevelPaging

/-- A page of the given space and size, by its number. -/
structure Page (space : Space) (size : PageSize) where
  number : Nat
  number_lt : number < size.count
  deriving DecidableEq

/-- A 4 KiB page of physical memory. -/
abbrev Frame := Page .physical .small

/-- A 4 KiB page of a virtual address space. -/
abbrev VirtualPage := Page .virtual .small

/-- A distance from the base of a page that stays inside the page. -/
structure Offset (size : PageSize) where
  bytes : Nat
  bytes_lt : bytes < size.bytes
  deriving DecidableEq

namespace Page

variable {space : Space} {size : PageSize}

/-- The page of a number.  The bits of the number above the page numbers of the
space are lost, as they are when the number is shifted into an address. -/
def ofNumber (number : Nat) : Page space size :=
  ⟨number % size.count, Nat.mod_lt _ size.count_pos⟩

instance : Inhabited (Page space size) where
  default := ofNumber 0

/-- The page that contains the address. -/
def containing (address : Address space) : Page space size where
  number := address.toNat / size.bytes
  number_lt := by
    have hBound := address.toNat_lt
    rw [← size.bytes_mul_count] at hBound
    exact Nat.div_lt_of_lt_mul hBound

/-- The lowest address of the page. -/
def base (page : Page space size) : Address space :=
  Address.ofNat (page.number * size.bytes)

/-- The address at the offset in the page. -/
def join (page : Page space size) (offset : Offset size) : Address space :=
  Address.ofNat (page.number * size.bytes + offset.bytes)

/-- How the page compares with another one. -/
def order (first second : Page space size) : Ordering :=
  compare first.number second.number

/-- The base of the page and the name of its size. -/
def display (page : Page space size) : String :=
  page.base.display ++ "/" ++ size.name

/-- The page after a tag that names its space. -/
def debug (page : Page space size) : String :=
  (match space with
    | .plain => "page:"
    | .physical => "frame:"
    | .virtual => "vpage:") ++ page.display

@[ext]
theorem ext {first second : Page space size}
    (hSame : first.number = second.number) : first = second := by
  cases first
  cases second
  cases hSame
  rfl

@[simp]
theorem number_ofNumber (number : Nat) :
    (ofNumber number : Page space size).number = number % size.count :=
  rfl

@[simp]
theorem ofNumber_number (page : Page space size) : ofNumber page.number = page :=
  Page.ext (Nat.mod_eq_of_lt page.number_lt)

@[simp]
theorem number_containing (address : Address space) :
    (containing address : Page space size).number = address.toNat / size.bytes :=
  rfl

/-- An address of a page is below the top of the address space. -/
theorem number_mul_bytes_add_lt (page : Page space size) {bytes : Nat}
    (hInside : bytes < size.bytes) : page.number * size.bytes + bytes < 0x100000000 := by
  have hBound := page.number_lt
  cases size <;> simp only [PageSize.count, PageSize.bytes] at hBound hInside ⊢ <;> omega

@[simp]
theorem toNat_base (page : Page space size) :
    page.base.toNat = page.number * size.bytes := by
  have hBound := page.number_mul_bytes_add_lt size.bytes_pos
  simp only [base, Address.toNat_ofNat]
  exact Nat.mod_eq_of_lt hBound

@[simp]
theorem toNat_join (page : Page space size) (offset : Offset size) :
    (page.join offset).toNat = page.number * size.bytes + offset.bytes := by
  simp only [join, Address.toNat_ofNat]
  exact Nat.mod_eq_of_lt (page.number_mul_bytes_add_lt offset.bytes_lt)

@[simp]
theorem containing_join (page : Page space size) (offset : Offset size) :
    containing (page.join offset) = page := by
  apply Page.ext
  have hInside := offset.bytes_lt
  rw [number_containing, toNat_join]
  cases size <;> simp only [PageSize.bytes] at hInside ⊢ <;> omega

@[simp]
theorem containing_base (page : Page space size) : containing page.base = page := by
  apply Page.ext
  rw [number_containing, toNat_base, Nat.mul_div_cancel _ size.bytes_pos]

/-- An address that is the base of a page is the base of the page that contains it. -/
theorem base_containing {address : Address space} (hAligned : address.isAligned size = true) :
    (containing address : Page space size).base = address := by
  apply Address.toNat_injective
  simp only [Address.isAligned, beq_iff_eq] at hAligned
  rw [toNat_base, number_containing, Nat.div_mul_cancel (Nat.dvd_of_mod_eq_zero hAligned)]

/-- A base of a page that is not null is not the base of page zero. -/
theorem number_containing_ne_zero {address : Address space} (hSet : address.isNull = false)
    (hAligned : address.isAligned size = true) :
    (containing address : Page space size).number ≠ 0 := by
  intro hZero
  have hSame := congrArg Address.toNat (base_containing hAligned)
  rw [toNat_base, hZero, Nat.zero_mul] at hSame
  simp [Address.isNull, ← hSame] at hSet

end Page

namespace Offset

variable {space : Space} {size : PageSize}

/-- The offset of that many bytes; more than the page holds is a fault. -/
def ofNat (bytes : Nat) : Except Fault (Offset size) :=
  if hInside : bytes < size.bytes then .ok ⟨bytes, hInside⟩ else .error .violated

/-- The offset of the address in its page. -/
def ofAddress (address : Address space) : Offset size :=
  ⟨address.toNat % size.bytes, Nat.mod_lt _ size.bytes_pos⟩

/-- The offset with a plus sign, and the name of the page size. -/
def debug (offset : Offset size) : String :=
  "+" ++ Text.hexLower 0 offset.bytes ++ "/" ++ size.name

@[simp]
theorem offset_join (page : Page space size) (offset : Offset size) :
    ofAddress (page.join offset) = offset := by
  have hInside := offset.bytes_lt
  cases offset
  simp only [ofAddress, Page.toNat_join, Offset.mk.injEq]
  cases size <;> simp only [PageSize.bytes] at hInside ⊢ <;> omega

end Offset

/-- An address is the page that contains it and its offset there. -/
theorem join_containing {space : Space} (size : PageSize) (address : Address space) :
    (Page.containing address : Page space size).join (Offset.ofAddress address) = address := by
  apply Address.toNat_injective
  rw [Page.toNat_join]
  simp only [Page.number_containing, Offset.ofAddress]
  rw [Nat.mul_comm]
  exact Nat.div_add_mod address.toNat size.bytes

end TwoLevelPaging
