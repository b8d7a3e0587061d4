import MissionLint.Text

namespace MissionLint

/-!
# Log entries

What a run says about its progress.  An entry names the part that it comes from.
-/

/-- How important an entry is. -/
inductive LogLevel where
  | debug
  | info
  | warning
  | error
  deriving Repr, DecidableEq

namespace LogLevel

/-- The place of a level among the others. -/
def rank : LogLevel → Nat
  | .debug => 0
  | .info => 1
  | .warning => 2
  | .error => 3

/-- The name of a level. -/
def name : LogLevel → Text
  | .debug => "DEBUG"
  | .info => "INFO"
  | .warning => "WARNING"
  | .error => "ERROR"

/-- The name of a level in five characters. -/
def shortName (level : LogLevel) : Text :=
  (Text.padRight 5 level.name).take 5

end LogLevel

/-- One entry of a log. -/
structure LogEntry where
  level : LogLevel
  origin : Text
  message : Text
  deriving Repr, DecidableEq

namespace LogEntry

/-- The entries that are at least as important as a level. -/
def atLeast (level : LogLevel) (entries : List LogEntry) : List LogEntry :=
  entries.filter fun entry => level.rank ≤ entry.level.rank

end LogEntry

end MissionLint
