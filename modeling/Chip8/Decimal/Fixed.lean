import Chip8.Decimal.Binary
import Chip8.Text

/-!
# Numbers with a fixed number of decimal places

The exact value of the double is rounded to the given places, a half to the even neighbour. A
negative number keeps its sign even when it rounds to zero.
-/

namespace Chip8.Decimal

/-- A finite double with a number of decimal places. -/
def Binary.toFixed (places : Nat) (b : Binary) : String :=
  let (num, den) := b.ratio
  let scaled := roundHalfEven (num * Nat.pow 10 places) den
  let digits := (toString scaled).toList
  let filled := List.replicate (places + 1 - digits.length) '0' ++ digits
  let cut := filled.length - places
  let sign := if b.negative then ['-'] else []
  String.ofList (sign ++ filled.take cut ++ '.' :: filled.drop cut)

/-- A double with a number of decimal places and a least width. -/
def fixed (width places : Nat) (x : Float) : Text :=
  Text.padLeft width <| Text.ofString <|
    match Binary.ofFloat? x with
    | some b => b.toFixed places
    | none => if x.isNaN then "nan" else if x < 0 then "-inf" else "inf"

end Chip8.Decimal
