import TwoLevelPaging.Table

/-!
# Runs of words

A paging structure in short: its non-zero words as runs of consecutive slots.
Along a run either all words are equal or each is one frame above the word
before, which is how a mapped range looks.
-/

namespace TwoLevelPaging

/-- Consecutive slots whose words start with `first` and grow by `step`. -/
structure WordRun where
  start : Nat
  count : Nat
  first : UInt32
  step : UInt32
  last : UInt32
  deriving DecidableEq

namespace WordRun

/-- The run of one word. -/
def single (slot : Nat) (word : UInt32) : WordRun :=
  ⟨slot, 1, word, 0, word⟩

/-- The run with one more word, if it fits: the slot follows the run, and the
word keeps the step of the run, or sets it for a run of one word. -/
def extend? (run : WordRun) (slot : Nat) (word : UInt32) : Option WordRun :=
  let difference := word - run.last
  if run.start + run.count = slot ∧ (difference = 0 ∨ difference = 4096) ∧
      (run.count = 1 ∨ difference = run.step) then
    some { run with count := run.count + 1, step := difference, last := word }
  else
    none

/-- Put a word behind the runs, the last of which comes first.  Zero is left
out. -/
def append (runs : List WordRun) (slot : Nat) (word : UInt32) : List WordRun :=
  if word = 0 then
    runs
  else
    match runs with
    | [] => [single slot word]
    | run :: rest =>
      match run.extend? slot word with
      | some longer => longer :: rest
      | none => single slot word :: run :: rest

end WordRun

/-- The runs of a paging structure in ascending order. -/
def Table.runs (table : Table) : List WordRun :=
  ((List.finRange 1024).foldl
    (fun runs slot => WordRun.append runs slot.val (table.word slot)) []).reverse

end TwoLevelPaging
