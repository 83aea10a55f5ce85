/-!
# Hexadecimal numbers in messages

Addresses and instruction words are written in capital hexadecimal with a least width. Zeros fill
the width between the sign and the digits, and the sign counts towards it.
-/

namespace Chip8.Text

/-- The digits of a number in capital hexadecimal. -/
def hexDigits (n : Nat) : String := (String.ofList (Nat.toDigits 16 n)).toUpper

/-- A number in capital hexadecimal, filled with zeros to a least width that counts the sign. -/
def hex (width : Nat) (v : Int) : String :=
  let sign := if v < 0 then "-" else ""
  let digits := hexDigits v.natAbs
  let zeros := String.ofList (List.replicate (width - sign.length - digits.length) '0')
  sign ++ zeros ++ digits

end Chip8.Text
