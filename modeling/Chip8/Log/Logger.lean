import Chip8.Decimal.Fixed
import Chip8.Failure
import Chip8.Log.Level
import Chip8.Text.Capital

/-!
# Log lines

A logger drops messages below its level and writes the others as one line each: the seconds since
the logger was made, the level as it was given, the logger's name and the message. On a terminal the
level is coloured.

A message may carry any word as its level. Capitals and small letters count alike; a word that is no
level ranks as `info` and has no colour.
-/

namespace Chip8

/-- How log lines are written and which messages are dropped. -/
structure Logger where
  name : Text
  threshold : LogLevel
  colours : Bool
  timestamps : Bool

namespace Logger

/-- The name of a logger unless another is given. -/
def defaultName : Text := "chax"

/-- A logger with the level of a given name, in capital or small letters. -/
def create (name level : Text) (colours timestamps : Bool) : Except Failure Logger :=
  match LogLevel.ofName? (Text.upper level) with
  | some threshold => .ok ⟨name, threshold, colours, timestamps⟩
  | none => .error (.unknownLogLevel level LogLevel.names)

/-! ## Colours -/

/-- The terminal sequence with a code. -/
def sequence (code : String) : Text := "\x1b[" ++ code ++ "m"

/-- The terminal sequence that ends a colour. -/
def colourEnd : Text := sequence "0"

/-- The word for the end of a colour. -/
def resetWord : Text := "RESET"

/-- The code of the colour of a level. -/
def colourCode : LogLevel → String
  | .debug => "36"
  | .info => "32"
  | .warning => "33"
  | .error => "31"
  | .critical => "35"

/-- The terminal sequence that begins the colour of a word. -/
def colourStart (word : Text) : Text :=
  match LogLevel.ofName? (Text.upper word) with
  | some level => sequence (colourCode level)
  | none => if Text.upper word = resetWord then colourEnd else []

/-! ## Lines -/

/-- The rank of a word as a level. -/
def rank (word : Text) : Nat := ((LogLevel.ofName? (Text.upper word)).getD .info).rank

/-- The logger writes messages of a level. -/
def writes (l : Logger) (level : Text) : Bool := l.threshold.rank ≤ rank level

/-- The line for a message, so many seconds after the logger was made. -/
def format (l : Logger) (elapsed : Float) (level message : Text) : Text :=
  let stamp : Text := if l.timestamps then "[" ++ Decimal.fixed 8 2 elapsed ++ "s]" else []
  let word := "[" ++ Text.padLeft 8 level ++ "]"
  let shown := if l.colours then colourStart level ++ word ++ colourEnd else word
  stamp ++ shown ++ "[" ++ l.name ++ "] " ++ message

/-- The line for a message, if the logger writes it. -/
def line? (l : Logger) (elapsed : Float) (level message : Text) : Option Text :=
  if l.writes level then some (l.format elapsed level message) else none

end Logger

end Chip8
