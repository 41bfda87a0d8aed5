/-!
# The debug console

Messages leave the machine as text, one line a record.  A logger passes on the
records up to a level; `none` as a maximum shuts it.
-/

namespace TwoLevelPaging

/-- How urgent a record is, from the most urgent on. -/
inductive Level where
  | error
  | warn
  | info
  | debug
  | trace
  deriving DecidableEq

namespace Level

/-- The levels from the most urgent on. -/
def all : List Level :=
  [error, warn, info, debug, trace]

/-- The place of the level in that order, counted from one. -/
def rank : Level → Nat
  | error => 1
  | warn => 2
  | info => 3
  | debug => 4
  | trace => 5

/-- The name of the level as it stands in a line. -/
def name : Level → String
  | error => "ERROR"
  | warn => "WARN"
  | info => "INFO"
  | debug => "DEBUG"
  | trace => "TRACE"

/-- Whether a record of this level passes a maximum. -/
def passes (level : Level) (maximum : Option Level) : Bool :=
  match maximum with
  | none => false
  | some bound => decide (level.rank ≤ bound.rank)

end Level

/-- A message with its level and the part of the program that it comes from. -/
structure LogRecord where
  level : Level
  target : String
  message : String
  deriving DecidableEq

namespace LogRecord

/-- The record as one line. -/
def line (record : LogRecord) : String :=
  "[" ++ record.level.name ++ "] " ++ record.target ++ ": " ++ record.message ++ "\n"

/-- What a sink with room for so many characters accepts of the line, and
whether it accepts all of it. -/
def writeWithin (record : LogRecord) (room : Nat) : String × Bool :=
  let characters := record.line.toList
  (String.ofList (characters.take room), decide (characters.length ≤ room))

end LogRecord

/-- A logger that writes to the console. -/
structure Logger where
  maximum : Option Level
  deriving DecidableEq

namespace Logger

/-- Whether the logger passes records of this level on. -/
def enabled (logger : Logger) (level : Level) : Bool :=
  level.passes logger.maximum

/-- What the logger writes for a record. -/
def write (logger : Logger) (record : LogRecord) : String :=
  if logger.enabled record.level then record.line else ""

end Logger

end TwoLevelPaging
