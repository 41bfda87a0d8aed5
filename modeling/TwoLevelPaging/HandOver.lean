/-!
# Handing a value over once

State that exists once, such as the frame bitmap, is given to exactly one owner.
A cell holds the value and whether it has been taken; only the owner changes it.
-/

namespace TwoLevelPaging

/-- A value that can be taken once. -/
structure HandOver (α : Type) where
  value : α
  isTaken : Bool := false
  deriving DecidableEq

namespace HandOver

variable {α : Type}

/-- Take the value, if nobody has. -/
def take (cell : HandOver α) : Option α × HandOver α :=
  if cell.isTaken then (none, cell) else (some cell.value, { cell with isTaken := true })

/-- Change the value on behalf of its owner.  The answer is the new value, or
nothing while the cell has no owner. -/
def update (cell : HandOver α) (change : α → α) : Option α × HandOver α :=
  if cell.isTaken then
    let changed := change cell.value
    (some changed, { cell with value := changed })
  else
    (none, cell)

end HandOver
end TwoLevelPaging
