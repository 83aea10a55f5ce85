import Chip8.CommandLine.Reading
import Chip8.Config
import Chip8.Log.Level
import Chip8.Picture.Colour
import Chip8.Picture.Image
import Chip8.Text.Capital

/-!
# The options of the console program
-/

namespace Chip8

/-- The value of an option, which is blank if the option was given without one. -/
inductive Setting (α : Type)
  | value (a : α)
  | blank
deriving DecidableEq, Repr

namespace Setting

/-- The value, which has to be there. -/
def required {α : Type} : Setting α → Except Failure α
  | value a => .ok a
  | blank => .error .wrongType

end Setting

/-- What the console program is asked to do. -/
structure Options where
  rom : Text := []
  frames : Setting Int := .value 600
  speed : Setting Int := .value 700
  seed : Setting Int := .value 0
  realtime : Bool := false
  snapshot : Option (Setting Text) := none
  scale : Setting Int := .value Image.defaultScale
  scheme : Setting ColourScheme := .value ColourScheme.classic
  printFrame : Bool := false
  logLevel : Setting LogLevel := .value .info

namespace Options

open CommandLine

/-- A flag that takes a value, which is read from a text. -/
def valueFlag {β : Type} (name : String) (read : Text → Except Text β)
    (set : Setting β → Options → Options) : Flag Options where
  names := [name]
  action := .takes (fun text o => (read text).map fun b => set (.value b) o) (set .blank)

/-- Read a whole number. -/
def readNumber (text : Text) : Except Text Int :=
  match text.chars?.bind Text.int? with
  | some v => .ok v
  | none => .error ("invalid int value: " ++ Text.quoted text)

/-- The error of a value that is none of the given ones. -/
def invalidChoice (value : Text) (choices : List String) : Text :=
  "invalid choice: " ++ Text.quoted value ++ " (choose from " ++
    Text.quotedList (choices.map Text.ofString) ++ ")"

/-- Read the name of a colour scheme; the choices are listed in alphabetical order. -/
def readScheme (text : Text) : Except Text ColourScheme :=
  match ColourScheme.find text with
  | .ok scheme => .ok scheme
  | .error _ => .error (invalidChoice text (ColourScheme.names.mergeSort (· ≤ ·)))

/-- Read the name of a log level in capitals. -/
def readLogLevel (text : Text) : Except Text LogLevel :=
  match LogLevel.ofName? (Text.upper text) with
  | some level => .ok level
  | none => .error (invalidChoice (Text.upper text) LogLevel.names)

/-- A flag that turns something on. -/
def switch (name : String) (set : Options → Options) : Flag Options := ⟨[name], .turnOn set⟩

/-- The command line of the console program. -/
def grammar : Grammar Options where
  program := "chax"
  required := "rom"
  setRequired := fun rom o => { o with rom }
  flags := [
    ⟨["-h", "--help"], .help⟩,
    valueFlag "--frames" readNumber fun frames o => { o with frames },
    valueFlag "--ips" readNumber fun speed o => { o with speed },
    valueFlag "--seed" readNumber fun seed o => { o with seed },
    switch "--realtime" fun o => { o with realtime := true },
    valueFlag "--snapshot" .ok fun file o => { o with snapshot := some file },
    valueFlag "--scale" readNumber fun scale o => { o with scale },
    valueFlag "--color-scheme" readScheme fun scheme o => { o with scheme },
    switch "--print-frame" fun o => { o with printFrame := true },
    valueFlag "--log-level" readLogLevel fun logLevel o => { o with logLevel }]

/-- The options that a command line gives. -/
def read (args : List Text) : Except Refusal Options := grammar.read args {}

/-- The settings of the machine that the options ask for; the speed is looked at first. -/
def config (o : Options) : Except Failure Config := do
  let config ← Config.validate { speed := .int (← o.speed.required), throttle := o.realtime }
  return { config with seed := ← o.seed.required }

/-- The file that the last picture is to be written to. -/
def snapshotFile? (o : Options) : Option Text :=
  match o.snapshot with
  | some (.value file) => if file.isEmpty then none else some file
  | _ => none

end Options

end Chip8
