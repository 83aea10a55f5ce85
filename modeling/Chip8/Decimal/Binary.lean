/-!
# Doubles as exact numbers

A finite double is a sign and `significand · 2 ^ exponent`. What is written about a double, and the
whole number that it truncates to, is computed from this form without rounding.
-/

namespace Chip8.Decimal

/-- A finite double. -/
structure Binary where
  negative : Bool
  significand : Nat
  exponent : Int
deriving DecidableEq, Repr

namespace Binary

/-- The number of stored bits of a significand. -/
def fractionBits : Nat := 52

/-- The exponent of the smallest positive double. -/
def leastExponent : Int := -1074

/-- The finite double with the given bits; `none` for an infinity or no number. -/
def ofBits? (bits : Nat) : Option Binary :=
  let negative := bits >>> 63 == 1
  let biased : Nat := bits >>> fractionBits % 0x800
  let fraction : Nat := bits % 1 <<< fractionBits
  if biased = 2047 then none
  else if biased = 0 then some ⟨negative, fraction, leastExponent⟩
  else some ⟨negative, 1 <<< fractionBits + fraction, leastExponent + (biased - 1 : Nat)⟩

/-- The exact value of a double; `none` for an infinity or no number. -/
def ofFloat? (x : Float) : Option Binary := ofBits? x.toBits.toNat

/-- The magnitude as a quotient of two whole numbers. -/
def ratio (b : Binary) : Nat × Nat :=
  match b.exponent with
  | .ofNat e => (b.significand <<< e, 1)
  | .negSucc e => (b.significand, 1 <<< (e + 1))

/-- The whole part of the number, toward zero. -/
def truncate (b : Binary) : Int :=
  let (num, den) := b.ratio
  if b.negative then -((num / den : Nat) : Int) else ((num / den : Nat) : Int)

/-- The double is the smaller of two neighbours that are further apart above it than below. -/
def isPowerOfTwo (b : Binary) : Bool :=
  b.significand = 1 <<< fractionBits && leastExponent < b.exponent

end Binary

/-- The whole part of a double, toward zero; an infinity and no number have none. -/
def truncate? (x : Float) : Option Int := (Binary.ofFloat? x).map (·.truncate)

/--
Half way from the greatest finite double to `2 ^ 1024`. From here on, whole numbers round to no
finite double.
-/
def overflowBound : Nat := 1 <<< 1024 - 1 <<< 970

/-- The double nearest to a whole number, unless that is too large for a finite one. -/
def ofInt? (v : Int) : Option Float :=
  if v.natAbs < overflowBound then some (Float.ofInt v) else none

/-- The whole number nearest to a quotient; of two equally near, the even one. -/
def roundHalfEven (num den : Nat) : Nat :=
  let q := num / den
  let r := num % den
  if 2 * r < den ∨ (2 * r = den ∧ q % 2 = 0) then q else q + 1

end Chip8.Decimal
