/-!
# Faults and checked arithmetic

The memory manager runs with every assertion and every overflow check armed.
A violated check ends the run for good; it is not an error that a caller may
handle.  `Fault` names the checks.  Operations that can fail in the ordinary
way return a value of an error type of their own and keep faults apart from it.

Arithmetic on registers is done in `Nat` and passed through `Checked.word`,
so a result that does not fit thirty-two bits is visible as a fault.
-/

namespace TwoLevelPaging

/-- The check that stopped a run. -/
inductive Fault where
  /-- A sum, difference or product left the width of its register. -/
  | overflow
  /-- An index past the end of a table, of a bitmap or of the boot block. -/
  | outOfBounds
  /-- A physical access outside the installed memory. -/
  | outsideMemory
  /-- A virtual access for which the page walk finds no present entry. -/
  | unmapped
  /-- A precondition that the code asserts about its arguments. -/
  | violated
  deriving DecidableEq

namespace Checked

/-- The number itself if a 32-bit register holds it. -/
def word (number : Nat) : Except Fault Nat :=
  if number < 0x100000000 then .ok number else .error .overflow

/-- The difference, if it is not negative. -/
def difference (larger smaller : Nat) : Except Fault Nat :=
  if smaller ≤ larger then .ok (larger - smaller) else .error .overflow

/-- Continue only if the condition holds. -/
def require (condition : Bool) (fault : Fault) : Except Fault Unit :=
  if condition then .ok () else .error fault

@[simp]
theorem word_eq_ok_iff (number result : Nat) :
    word number = .ok result ↔ number < 0x100000000 ∧ result = number := by
  by_cases hFits : number < 0x100000000 <;> simp only [word, hFits] <;> simp [eq_comm]

@[simp]
theorem difference_eq_ok_iff (larger smaller result : Nat) :
    difference larger smaller = .ok result ↔
      smaller ≤ larger ∧ result = larger - smaller := by
  by_cases hOrdered : smaller ≤ larger <;> simp only [difference, hOrdered] <;> simp [eq_comm]

/-- A computation with a value has got it from a first step with a value. -/
theorem exists_of_bind_eq_ok {α β : Type} {first : Except Fault α}
    {next : α → Except Fault β} {result : β} (hComputed : (first >>= next) = .ok result) :
    ∃ value, first = .ok value ∧ next value = .ok result := by
  cases first with
  | error fault => cases hComputed
  | ok value => exact ⟨value, rfl, hComputed⟩

/-- A value that a function has been applied to comes from a step with a value. -/
theorem exists_of_map_eq_ok {α β : Type} {step : Except Fault α} {change : α → β} {result : β}
    (hMapped : step.map change = .ok result) :
    ∃ value, step = .ok value ∧ change value = result := by
  cases step with
  | error fault => cases hMapped
  | ok value => exact ⟨value, rfl, Except.ok.inj hMapped⟩

end Checked

end TwoLevelPaging
