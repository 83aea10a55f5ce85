import Chip8.Decimal.Binary

/-!
# The shortest decimal that reads back

A double is written with the fewest digits that no other double is nearer to. For one digit, two
digits and so on, the two neighbours of the exact value with that many digits are tried; the first
count at which one of them rounds to the double wins, and of two the nearer is taken.

Numbers from `10⁻⁴` up to `10¹⁶` are written in positional form with at least one digit after the
point, all others with an exponent of at least two digits.
-/

namespace Chip8.Decimal

/-- The decimal number `coefficient · 10 ^ exponent`. -/
structure Scientific where
  coefficient : Nat
  exponent : Int
deriving DecidableEq, Repr

/-- A power of ten as a quotient of two whole numbers. -/
def powerOfTen : Int → Nat × Nat
  | .ofNat e => (Nat.pow 10 e, 1)
  | .negSucc e => (1, Nat.pow 10 (e + 1))

/-- The largest `e` with `10 ^ e ≤ num / den`, for a positive quotient. -/
def decimalExponent (num den : Nat) : Int :=
  if den ≤ num then ((toString (num / den)).length : Int) - 1
  else
    let places := (toString (den / num)).length
    if den ≤ num * Nat.pow 10 (places - 1) then -((places - 1 : Nat) : Int) else -(places : Int)

/--
The decimals with `digits` digits that round to a double, nearest first. The double is four units,
numbers within `below` and `above` units of it round to it, and the bounds themselves do so for an
even significand.
-/
def Binary.candidates (b : Binary) (digits : Nat) : List Scientific :=
  let (num, den) := b.ratio
  let exponent := decimalExponent num den - (digits - 1 : Nat)
  let (tenNum, tenDen) := powerOfTen exponent
  let floor := num * tenDen / (den * tenNum)
  let value := 4 * num * tenDen
  let unit := if b.significand = 0 then 0 else value / b.significand / 4
  let below := if b.isPowerOfTwo then unit else 2 * unit
  let above := 2 * unit
  let distance (c : Nat) : Int := 4 * (c * den * tenNum : Nat) - (value : Nat)
  let inside (c : Nat) : Bool :=
    let d := distance c
    if b.significand % 2 = 0 then -(below : Int) ≤ d && d ≤ above
    else -(below : Int) < d && d < above
  let nearest :=
    if (distance floor).natAbs < (distance (floor + 1)).natAbs then [floor, floor + 1]
    else if (distance floor).natAbs = (distance (floor + 1)).natAbs && floor % 2 == 0 then
      [floor, floor + 1]
    else [floor + 1, floor]
  (nearest.filter inside).map fun c => ⟨c, exponent⟩

/-- The greatest number of digits that a double needs. -/
def maxDoubleDigits : Nat := 17

/-- The shortest decimal that rounds to a positive double. -/
def Binary.shortest (b : Binary) : Scientific :=
  (((List.range maxDoubleDigits).flatMap fun n => b.candidates (n + 1)).head?).getD ⟨0, 0⟩

/-- Digits and the power of ten of the first, without zeros at the end. -/
def Scientific.normal (s : Scientific) : List Char × Int :=
  let digits := (toString s.coefficient).toList
  let kept := (digits.reverse.dropWhile (· == '0')).reverse
  (if kept.isEmpty then ['0'] else kept, s.exponent + (digits.length - 1 : Nat))

/-- The form of a decimal: positional in the middle range, otherwise with an exponent. -/
def Scientific.render (s : Scientific) : String :=
  let (digits, e) := s.normal
  if -4 ≤ e ∧ e < 16 then
    if 0 ≤ e then
      let whole := e.toNat + 1
      let filled := digits ++ List.replicate (whole - digits.length) '0'
      let rest := filled.drop whole
      String.ofList (filled.take whole ++ '.' :: (if rest.isEmpty then ['0'] else rest))
    else
      String.ofList ('0' :: '.' :: List.replicate (e.natAbs - 1) '0' ++ digits)
  else
    let point := if digits.length = 1 then [] else ['.']
    let size := (toString e.natAbs).toList
    let filled := List.replicate (2 - size.length) '0' ++ size
    let sign := if e < 0 then '-' else '+'
    String.ofList (digits.take 1 ++ point ++ digits.drop 1 ++ 'e' :: sign :: filled)

/-- A double in the shortest form that reads back. -/
def shortest (x : Float) : String :=
  match Binary.ofFloat? x with
  | some b =>
    let sign := if b.negative then "-" else ""
    if b.significand = 0 then sign ++ "0.0" else sign ++ b.shortest.render
  | none => if x.isNaN then "nan" else if x < 0 then "-inf" else "inf"

end Chip8.Decimal
