import Chip8.Failure
import Chip8.Text.Numeral
import Chip8.Word

/-!
# Numbers from the host

A host gives speeds, scales, times and frequencies as whole numbers of any size, as doubles or as
truth values, which count as one and zero. `HostNumber` is such a number. Where a number of few bits
is expected, `HostValue.toNumber` also takes a numeral in a text and the whole part of a double.

Going from a whole number to a double or back is refused where there is nothing to go to: a whole
number may be larger than every finite double, and an infinity and no number have no whole part.
-/

namespace Chip8

/-- A number that a host hands over. -/
inductive HostNumber
  | bool (b : Bool)
  | int (v : Int)
  | float (x : Float)
deriving Repr, Inhabited

namespace HostNumber

/-! ## Doubles and whole numbers -/

/-- The double nearest to a whole number. -/
def double (v : Int) : Except Failure Float :=
  match Decimal.ofInt? v with
  | some x => .ok x
  | none => .error .outOfRange

/-- The whole part of a double, toward zero. -/
def whole (x : Float) : Except Failure Int :=
  match Decimal.truncate? x with
  | some v => .ok v
  | none => .error (if x.isNaN then .malformed else .outOfRange)

/-! ## Numbers and values -/

/-- The number that a value is. -/
def ofValue : HostValue → Except Failure HostNumber
  | .bool b => .ok (.bool b)
  | .int v => .ok (.int v)
  | .float x => .ok (.float x)
  | _ => .error .wrongType

/-- The number as a value. -/
def toValue : HostNumber → HostValue
  | bool b => .bool b
  | int v => .int v
  | float x => .float x

/-- The number as a double. -/
def toDouble : HostNumber → Except Failure Float
  | bool b => .ok (if b then 1.0 else 0.0)
  | int v => double v
  | float x => .ok x

/-- The number as a count of things, which is no double. -/
def toCount : HostNumber → Except Failure Int
  | bool b => .ok (if b then 1 else 0)
  | int v => .ok v
  | float _ => .error .wrongType

/-- The whole part of the number, toward zero; zero if there is none. -/
def truncate : HostNumber → Int
  | bool b => if b then 1 else 0
  | int v => v
  | float x => (Decimal.truncate? x).getD 0

/-- The least whole number that is not less; zero for a double below zero, if there is one. -/
def ceiling? : HostNumber → Option Int
  | float x => if x < 0.0 then some 0 else Decimal.truncate? x.ceil
  | n => some n.truncate

/-- How many whole numbers from zero on are less; none is given if all are. -/
def countBelow? : HostNumber → Option Int
  | float x => if x.isNaN then some 0 else (float x).ceiling?
  | n => n.ceiling?

/-! ## Comparison with whole numbers -/

/-- The number is less than a whole number. -/
def below (n : HostNumber) (v : Int) : Bool :=
  match n with
  | float x => x < Float.ofInt v
  | n => n.truncate < v

/-- The number is greater than a whole number. -/
def above (n : HostNumber) (v : Int) : Bool :=
  match n with
  | float x => Float.ofInt v < x
  | n => v < n.truncate

/-- The number is a whole number or less. -/
def atMost (n : HostNumber) (v : Int) : Bool :=
  match n with
  | float x => x ≤ Float.ofInt v
  | n => n.truncate ≤ v

/-! ## Shares and seconds -/

/-- The whole number next to a double, the lower one of two. -/
def nearestBelow (x : Float) : Float := if 0.5 < x - x.floor then x.floor + 1.0 else x.floor

/-- The whole part of the number divided by a positive one, toward negative infinity. -/
def share (n : HostNumber) (parts : Nat) : HostNumber :=
  match n with
  | float x =>
    match Decimal.truncate? x with
    | some v => float (nearestBelow (Float.ofInt (v - v % parts) / Float.ofInt parts))
    | none => float (x - x)
  | n => int (n.truncate / parts)

/-- The seconds in a number of microseconds. -/
def secondsOfMicroseconds (us : HostNumber) : Except Failure Float := do
  return (← us.toDouble) / 1.0e6

end HostNumber

namespace HostValue

/-! ## Numbers of few bits -/

/-- The whole number that a value stands for where a number of few bits is expected. -/
def toNumber : HostValue → Except Failure Int
  | text t =>
    match t.chars?.bind Text.int? with
    | some n => .ok n
    | none => .error .malformed
  | float x => HostNumber.whole x
  | v =>
    match v.toInt? with
    | some n => .ok n
    | none => .error .wrongType

/-- The whole number of a value that may not be null. -/
def toScalar : HostValue → Except Failure Int
  | null => .error .malformed
  | v => v.toNumber

/-- The byte that a value stands for where a byte is expected. -/
def toByte (v : HostValue) : Except Failure Byte := do
  match byteOfInt? (← v.toNumber) with
  | some b => return b
  | none => .error .outOfRange

/-! ## Numbers in messages -/

/-- The whole number that a message shows in hexadecimal. -/
def hexNumber : HostValue → Except Failure Int
  | null | list _ | record _ => .error .wrongType
  | v =>
    match v.toInt? with
    | some n => .ok n
    | none => .error .malformed

end HostValue

end Chip8
