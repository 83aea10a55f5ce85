import Chip8.Text.Numeral
import Chip8.Text.Quoted

/-!
# Command-line grammars and tokens

A grammar lists the flags of a program and names its one required argument. A flag turns something
on, takes a value, or asks for help. `Grammar.token` says what one argument is by itself:

* the full name of a flag, or a beginning of it that no other name shares, with a value attached by
  an equals sign or, after a one-letter name, directly;
* a negative number, or text that does not begin with a dash or holds a space, which is plain;
* anything else that begins with a dash, which is unknown.

After the separator `--` every argument is plain.
-/

namespace Chip8.CommandLine

/--
What a flag does to the values being read. A flag that takes a value may also be given a blank one,
by a separator that is attached to it.
-/
inductive FlagAction (α : Type)
  | help
  | turnOn (set : α → α)
  | takes (set : Text → α → Except Text α) (clear : α → α)

/-- A flag with its names. -/
structure Flag (α : Type) where
  names : List Text
  action : FlagAction α

/-- The flag as error messages name it. -/
def Flag.title {α : Type} (f : Flag α) : Text := Text.join "/" f.names

/-- The flags of a program and its required argument. -/
structure Grammar (α : Type) where
  program : Text
  flags : List (Flag α)
  required : Text
  setRequired : Text → α → α

/-- The argument behind which every argument is plain. -/
def separator : Text := "--"

/-- What one argument is. -/
inductive Token (α : Type)
  | plain (text : Text)
  | separator
  | known (flag : Flag α) (name : Text) (attached : Option Text)
  | unknown (text : Text)

/-! ## Parts of arguments -/

/-- The sign between a name and the value attached to it. -/
def equalsSign : Symbol := .char '='

/-- The sign that a flag begins with. -/
def dash : Symbol := .char '-'

/-- The text before and behind the first equals sign, if there is one. -/
def splitEquals (arg : Text) : Option (Text × Text) :=
  match arg.dropWhile (· != equalsSign) with
  | _ :: value => some (arg.takeWhile (· != equalsSign), value)
  | [] => none

/-- Every character is a decimal digit. -/
def allDigits (cs : List Char) : Bool := cs.all fun c => (Text.digit? c).isSome

/-- Digits, or digits around or behind a point, after a dash; a line feed may follow. -/
def isNegativeNumber (arg : List Char) : Bool :=
  match arg with
  | '-' :: cs =>
    let cs := if cs.getLast? = some '\n' then cs.dropLast else cs
    match cs.dropWhile (· != '.') with
    | _ :: fraction =>
      allDigits (cs.takeWhile (· != '.')) && !fraction.isEmpty && allDigits fraction
    | [] => !cs.isEmpty && allDigits cs
  | _ => false

/-- An argument that names no flag is plain all the same. -/
def isPlain (arg : Text) : Bool :=
  arg.contains (.char ' ') || arg.chars?.any isNegativeNumber

/-! ## Tokens -/

namespace Grammar

variable {α : Type}

/-- Every name with its flag, in order. -/
def named (g : Grammar α) : List (Text × Flag α) :=
  g.flags.flatMap fun f => f.names.map (·, f)

/-- The flag with a name. -/
def find? (g : Grammar α) (name : Text) : Option (Flag α) :=
  (g.named.find? (·.1 == name)).map (·.2)

/-- What an argument attaches to a name that it is the beginning of, if it is. -/
def abbreviates (arg name : Text) : Option (Option Text) :=
  match splitEquals arg with
  | some (stem, value) => if stem.isPrefixOf name then some (some value) else none
  | none => if arg.isPrefixOf name then some none else none

/-- What an argument with a single dash attaches to a name. -/
def attaches (arg name : Text) : Option (Option Text) :=
  if name = arg.take 2 then some (some (arg.drop 2))
  else if arg.isPrefixOf name then some none
  else none

/-- The flags that an argument may stand for without being the full name of one. -/
def candidates (g : Grammar α) (arg : Text) : List (Flag α × Text × Option Text) :=
  let reads := if arg.take 2 = [dash, dash] then abbreviates arg else attaches arg
  g.named.filterMap fun (name, f) => (reads name).map fun attached => (f, name, attached)

/-- The flag whose full name an argument is, alone or before an equals sign. -/
def fullName? (g : Grammar α) (arg : Text) : Option (Token α) :=
  match g.find? arg with
  | some f => some (.known f arg none)
  | none => do
    let (stem, value) ← splitEquals arg
    let f ← g.find? stem
    return .known f stem (some value)

/-- What an argument before the separator is; an error if it could be several flags. -/
def token (g : Grammar α) (arg : Text) : Except Text (Token α) :=
  if arg.head? != some dash then .ok (.plain arg)
  else
    match g.fullName? arg with
    | some t => .ok t
    | none =>
      if arg.length = 1 then .ok (.plain arg)
      else
        match g.candidates arg with
        | [(f, name, attached)] => .ok (.known f name attached)
        | [] => if isPlain arg then .ok (.plain arg) else .ok (.unknown arg)
        | several =>
          .error ("ambiguous option: " ++ arg ++ " could match " ++
            Text.join ", " (several.map fun (_, name, _) => name))

/-- What the arguments of a command line are. -/
def tokens (g : Grammar α) : List Text → Except Text (List (Token α))
  | [] => .ok []
  | arg :: args =>
    if arg = separator then .ok (.separator :: args.map .plain)
    else do
      let t ← g.token arg
      let ts ← g.tokens args
      return t :: ts

end Grammar

end Chip8.CommandLine
