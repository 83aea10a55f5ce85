import Chip8.Decimal.Binary

/-!
# Doubles from decimal digits

A number that is written with decimal digits and a power of ten stands for the double nearest to
it. Far outside the range of doubles this is zero or infinity, whatever the digits are.
-/

namespace Chip8.Decimal

/-- No number of tens beyond this is in the range of doubles. -/
def maxTens : Int := 400

/-- A double above all others. -/
def infinity : Float := 1.0 / 0.0

/-- No number. -/
def noNumber : Float := 0.0 / 0.0

/-- The double nearest to a whole number times a power of ten. -/
def scientific (digits : Nat) (exponent : Int) : Float :=
  let tens := exponent + (Nat.toDigits 10 digits).length
  if digits = 0 ∨ tens < -maxTens then 0.0
  else if maxTens < tens then infinity
  else Float.ofScientific digits (exponent < 0) exponent.natAbs

end Chip8.Decimal
