/-!
# Hexadecimal text

Numbers are shown with the lead `0x`.  A width counts the lead and is filled
with zeros between the lead and the first digit; a number that needs more room
takes it.
-/

namespace TwoLevelPaging
namespace Text

/-- The lead `0x` and the given digits, filled up to `width` characters. -/
def leadZeros (width : Nat) (digits : List Char) : String :=
  "0x" ++ String.ofList (List.replicate (width - 2 - digits.length) '0' ++ digits)

/-- Lower-case hexadecimal, at least `width` characters wide. -/
def hexLower (width number : Nat) : String :=
  leadZeros width (Nat.toDigits 16 number)

/-- Upper-case hexadecimal, at least `width` characters wide. -/
def hexUpper (width number : Nat) : String :=
  leadZeros width ((Nat.toDigits 16 number).map Char.toUpper)

end Text
end TwoLevelPaging
