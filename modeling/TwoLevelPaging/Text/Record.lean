/-!
# Text of structured values

A value with named fields is shown as its name and, in braces, the fields in
their order; a value with one unnamed field as its name and the field in
parentheses.
-/

namespace TwoLevelPaging
namespace Text

/-- The fields as `name: value`, separated by commas, in braces after the name. -/
def record (name : String) (fields : List (String × String)) : String :=
  name ++ " \x7b " ++
    ", ".intercalate (fields.map fun field => field.1 ++ ": " ++ field.2) ++ " \x7d"

/-- The name and its one field in parentheses. -/
def wrapped (name field : String) : String :=
  name ++ "(" ++ field ++ ")"

/-- A truth value in words. -/
def bool (value : Bool) : String :=
  if value then "true" else "false"

/-- A number in decimal. -/
def decimal (number : Nat) : String :=
  String.ofList (Nat.toDigits 10 number)

end Text
end TwoLevelPaging
