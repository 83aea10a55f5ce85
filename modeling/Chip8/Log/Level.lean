import Chip8.Text

/-!
# Levels of log messages
-/

namespace Chip8

/-- How grave a message is, from least to most. -/
inductive LogLevel
  | debug
  | info
  | warning
  | error
  | critical
deriving DecidableEq, Repr

namespace LogLevel

/-- The name of a level. -/
def name : LogLevel → String
  | debug => "DEBUG"
  | info => "INFO"
  | warning => "WARNING"
  | error => "ERROR"
  | critical => "CRITICAL"

/-- The levels from least to most grave. -/
def all : List LogLevel := [debug, info, warning, error, critical]

/-- The names of the levels from least to most grave. -/
def names : List String := all.map name

/-- The level with a name. -/
def ofName? (t : Text) : Option LogLevel := all.find? fun l => Text.ofString l.name == t

/-- The place of a level, zero for the least grave. -/
def rank (l : LogLevel) : Nat := all.idxOf l

theorem ofName?_name (l : LogLevel) : ofName? l.name = some l := by
  cases l <;> decide

end LogLevel

end Chip8
