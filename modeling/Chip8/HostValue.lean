import Chip8.Decimal.Shortest
import Chip8.Text.Numeral
import Chip8.Text.Quoted

/-!
# Values from the host

A host program may hand over anything where a key, a list of key states or a list of bytes is
expected. `HostValue` is such a value, `render` is how a message shows it, unless a number in it is
too long to be shown (`fitsMessage`), and `isTruthy`, `arrayShape?` and `leaves` are what the
machine asks of it: whether it counts as true, the extents of a list whose elements all have the
same extents, and what is in it.
-/

namespace Chip8

/-- A value that a host hands over. -/
inductive HostValue
  | null
  | bool (b : Bool)
  | int (v : Int)
  | float (x : Float)
  | text (t : Text)
  | list (values : List HostValue)
  | record (fields : List (Text × HostValue))
deriving Inhabited

namespace HostValue

mutual

/-- The value as a message shows it. -/
def render : HostValue → Text
  | null => "None"
  | bool true => "True"
  | bool false => "False"
  | int v => toString v
  | float x => Decimal.shortest x
  | text t => Text.quoted t
  | list values => "[" ++ Text.join ", " (renderAll values) ++ "]"
  | record fields => "\x7b" ++ Text.join ", " (renderFields fields) ++ "\x7d"

/-- The elements of a list as a message shows them. -/
def renderAll : List HostValue → List Text
  | [] => []
  | v :: vs => render v :: renderAll vs

/-- The fields of a record as a message shows them. -/
def renderFields : List (Text × HostValue) → List Text
  | [] => []
  | (name, v) :: fields => (Text.quoted name ++ ": " ++ render v) :: renderFields fields

end

mutual

/-- No number in the value has more digits than a message shows. -/
def fitsMessage : HostValue → Bool
  | int v => Text.digitCount v ≤ Text.maxDigits
  | list values => allFitMessage values
  | record fields => fieldsFitMessage fields
  | _ => true

/-- No number in the elements of a list has more digits than a message shows. -/
def allFitMessage : List HostValue → Bool
  | [] => true
  | v :: vs => fitsMessage v && allFitMessage vs

/-- No number in the fields of a record has more digits than a message shows. -/
def fieldsFitMessage : List (Text × HostValue) → Bool
  | [] => true
  | (_, v) :: fields => fitsMessage v && fieldsFitMessage fields

end

/-- The value as it stands in running text: a text as it is, anything else as messages show it. -/
def plain : HostValue → Text
  | text t => t
  | v => v.render

/-- What an error says that was made from values alone: nothing, the value, or all in brackets. -/
def caption : List HostValue → Text
  | [] => []
  | [v] => v.plain
  | vs => "(" ++ Text.join ", " (renderAll vs) ++ ")"

/-- The value counts as true: it is neither null nor false, zero or empty. -/
def isTruthy : HostValue → Bool
  | null => false
  | bool b => b
  | int v => v != 0
  | float x => x != 0
  | text t => !t.isEmpty
  | list values => !values.isEmpty
  | record fields => !fields.isEmpty

/-- The integer that a value stands for where a number is expected; a truth value counts as one. -/
def toInt? : HostValue → Option Int
  | int v => some v
  | bool b => some (if b then 1 else 0)
  | _ => none

/-- The elements that a value hands out one after the other, if it is of a kind that does. -/
def elements? : HostValue → Option (List HostValue)
  | list values => some values
  | text t => some (t.map fun s => text [s])
  | record fields => some (fields.map fun (k, _) => text k)
  | _ => none

mutual

/--
The extents of nested lists, outermost first: none for a value that is no list, and no answer if
elements differ in their extents.
-/
def shape? : HostValue → Option (List Nat)
  | list values => (commonShape? values).map (values.length :: ·)
  | _ => some []

/-- The extents that all elements of a list share; an empty list has elements without extents. -/
def commonShape? : List HostValue → Option (List Nat)
  | [] => some []
  | [v] => shape? v
  | v :: vs => do
    let extents ← shape? v
    let others ← commonShape? vs
    if extents = others then some extents else none

end

mutual

/-- The values in nested lists that are no lists themselves, in order. -/
def leaves : HostValue → List HostValue
  | list values => leavesOf values
  | v => [v]

/-- The values in the elements of a list that are no lists themselves, in order. -/
def leavesOf : List HostValue → List HostValue
  | [] => []
  | v :: vs => leaves v ++ leavesOf vs

end

/-- The greatest number of lists in each other that make up an array. -/
def maxNesting : Nat := 64

/-- The extents of nested lists that make up an array. -/
def arrayShape? (v : HostValue) : Option (List Nat) :=
  v.shape?.filter fun extents => extents.length ≤ maxNesting

end HostValue

end Chip8
