import Chip8.CommandLine.Grammar

/-!
# Reading a command line

The tokens are read from left to right. A plain token is the required argument if this has not been
given, and left over otherwise. A flag that takes a value takes the one attached to it, of which a
separator leaves nothing, or else the plain token behind it. The first error ends the reading. At
the end the required argument has to be there and nothing may be left over.
-/

namespace Chip8.CommandLine

/-- Why a command line yields no values. -/
inductive Refusal
  | help
  | usage (message : Text)
deriving DecidableEq, Repr

/-- The values read so far, whether the required argument is among them, and what is left over. -/
structure Reading (α : Type) where
  values : α
  given : Bool
  extras : List Text

namespace Reading

/-- Leave texts over. -/
def leave {α : Type} (r : Reading α) (texts : List Text) : Reading α :=
  { r with extras := r.extras ++ texts }

end Reading

/-- The error of a flag that was given a value and takes none. -/
def ignoredValue {α : Type} (f : Flag α) (value : Text) : Refusal :=
  .usage ("argument " ++ f.title ++ ": ignored explicit argument " ++ Text.quoted value)

/--
Letters behind the one-letter name of the help flag, each of which has to be such a name itself. The
first that is none is left over together with what follows it; otherwise all of them ask for help.
-/
def helpCluster {α : Type} (f : Flag α) : Text → Refusal
  | [] => .help
  | letter :: rest =>
    if f.names.contains [dash, letter] then helpCluster f rest
    else ignoredValue f (letter :: rest)

/-- What is attached to the name of the help flag asks for help, too, or is left over. -/
def helpRefusal {α : Type} (f : Flag α) (name : Text) : Option Text → Refusal
  | none => .help
  | some attached =>
    if name.length = 2 && !attached.isEmpty then helpCluster f attached
    else ignoredValue f attached

namespace Grammar

variable {α : Type}

/-- Set the value of a flag. -/
def setValue (f : Flag α) (set : Text → α → Except Text α) (value : Text) (r : Reading α) :
    Except Refusal (Reading α) :=
  match set value r.values with
  | .ok values => .ok { r with values }
  | .error message => .error (.usage ("argument " ++ f.title ++ ": " ++ message))

/-- Take the required argument. -/
def give (g : Grammar α) (text : Text) (r : Reading α) : Reading α :=
  { r with values := g.setRequired text r.values, given := true }

/-- Read tokens from left to right. -/
def readTokens (g : Grammar α) : List (Token α) → Reading α → Except Refusal (Reading α)
  | [], r => .ok r
  | .plain text :: rest, r =>
    if r.given then g.readTokens rest (r.leave [text])
    else
      match rest with
      | .separator :: rest' => g.readTokens rest' (g.give text r)
      | rest => g.readTokens rest (g.give text r)
  | .separator :: rest, r =>
    if r.given then g.readTokens rest (r.leave ["--"])
    else
      match rest with
      | .plain text :: rest' => g.readTokens rest' (g.give text r)
      | rest => g.readTokens rest (r.leave ["--"])
  | .unknown text :: rest, r => g.readTokens rest (r.leave [text])
  | .known f name attached :: rest, r =>
    match f.action, attached with
    | .help, attached => .error (helpRefusal f name attached)
    | .turnOn set, none => g.readTokens rest { r with values := set r.values }
    | .turnOn _, some value => .error (ignoredValue f value)
    | .takes set clear, some value =>
      if value = separator then g.readTokens rest { r with values := clear r.values }
      else
        match setValue f set value r with
        | .ok r => g.readTokens rest r
        | .error e => .error e
    | .takes set _, none =>
      match rest with
      | .plain text :: rest' =>
        match setValue f set text r with
        | .ok r => g.readTokens rest' r
        | .error e => .error e
      | _ => .error (.usage ("argument " ++ f.title ++ ": expected one argument"))

/-- Read a command line into values that start as given. -/
def read (g : Grammar α) (args : List Text) (initial : α) : Except Refusal α :=
  match g.tokens args with
  | .error message => .error (.usage message)
  | .ok tokens => do
    let r ← g.readTokens tokens { values := initial, given := false, extras := [] }
    if !r.given then
      .error (.usage ("the following arguments are required: " ++ g.required))
    else if !r.extras.isEmpty then
      .error (.usage ("unrecognized arguments: " ++ Text.join " " r.extras))
    else return r.values

/-- The last line that is written about a wrong command line. -/
def errorLine (g : Grammar α) (message : Text) : Text := g.program ++ ": error: " ++ message

end Grammar

end Chip8.CommandLine
