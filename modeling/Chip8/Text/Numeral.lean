import Chip8.Decimal.Scientific

/-!
# Reading numbers

A numeral is an optional sign and decimal digits, with blanks allowed around it and single
underscores between digits. Digits of every script count. A numeral of more than `maxDigits` digits
is refused, and no message shows one. Other numbers have a point or a power of ten, or are named.
-/

namespace Chip8.Text

/-- The blank characters. -/
def blanks : List Nat := [
  0x9, 0xA, 0xB, 0xC, 0xD, 0x20, 0x85, 0xA0, 0x1680, 0x2000, 0x2001, 0x2002, 0x2003, 0x2004,
  0x2005, 0x2006, 0x2007, 0x2008, 0x2009, 0x200A, 0x2028, 0x2029, 0x202F, 0x205F, 0x3000]

/-- The character is blank. -/
def isBlank (c : Char) : Bool := blanks.contains c.toNat

/-- The digits zero of the scripts that have decimal digits; the other nine follow each. -/
def zeroDigits : List Nat := [
  0x30, 0x660, 0x6F0, 0x7C0, 0x966, 0x9E6, 0xA66, 0xAE6, 0xB66, 0xBE6, 0xC66, 0xCE6, 0xD66, 0xDE6,
  0xE50, 0xED0, 0xF20, 0x1040, 0x1090, 0x17E0, 0x1810, 0x1946, 0x19D0, 0x1A80, 0x1A90, 0x1B50,
  0x1BB0, 0x1C40, 0x1C50, 0xA620, 0xA8D0, 0xA900, 0xA9D0, 0xA9F0, 0xAA50, 0xABF0, 0xFF10, 0x104A0,
  0x10D30, 0x11066, 0x110F0, 0x11136, 0x111D0, 0x112F0, 0x11450, 0x114D0, 0x11650, 0x116C0,
  0x11730, 0x118E0, 0x11950, 0x11C50, 0x11D50, 0x11DA0, 0x16A60, 0x16AC0, 0x16B50, 0x1D7CE,
  0x1D7D8, 0x1D7E2, 0x1D7EC, 0x1D7F6, 0x1E140, 0x1E2F0, 0x1E950, 0x1FBF0]

/-- The value of a decimal digit of any script. -/
def digit? (c : Char) : Option Nat :=
  (zeroDigits.find? fun z => z ≤ c.toNat && c.toNat < z + 10).map (c.toNat - ·)

/-- The greatest number of digits of a numeral. -/
def maxDigits : Nat := 4300

/-- The number of digits that a whole number is written with. -/
def digitCount (v : Int) : Nat := (Nat.toDigits 10 v.natAbs).length

/-- The values of digits with single underscores between them. -/
def digits? : List Char → Option (List Nat)
  | [] => none
  | [c] => (digit? c).map ([·])
  | c :: '_' :: d :: cs => do
    let n ← digit? c
    let ns ← digits? (d :: cs)
    return n :: ns
  | c :: cs => do
    let n ← digit? c
    let ns ← digits? cs
    return n :: ns

/-- The number that digits stand for, the first digit the most significant. -/
def ofDigits (ns : List Nat) : Nat := ns.foldl (fun acc n => 10 * acc + n) 0

/-- The text without the blanks around it. -/
def trimBlanks (s : List Char) : List Char :=
  ((s.dropWhile isBlank).reverse.dropWhile isBlank).reverse

/-- The number of an unsigned numeral. -/
def unsigned? (s : List Char) : Option Nat := do
  let ns ← digits? s
  if ns.length ≤ maxDigits then some (ofDigits ns) else none

/-- The whole number that characters stand for. -/
def int? (s : List Char) : Option Int :=
  match trimBlanks s with
  | '-' :: cs => (unsigned? cs).map fun n => -(n : Int)
  | '+' :: cs => (unsigned? cs).map fun n => (n : Int)
  | cs => (unsigned? cs).map fun n => (n : Int)

/-! ## Other numbers -/

/-- A text without its sign, and whether the sign is a dash. -/
def unsigned : List Char → Bool × List Char
  | '-' :: cs => (true, cs)
  | '+' :: cs => (false, cs)
  | cs => (false, cs)

/-- Digits, or nothing at all. -/
def digitsOrNone? (s : List Char) : Option (List Nat) := if s.isEmpty then some [] else digits? s

/-- Digits with or without a point before, among or behind them, and how many are behind it. -/
def fraction? (s : List Char) : Option (Nat × Nat) := do
  let whole ← digitsOrNone? (s.takeWhile (· != '.'))
  let parts ← digitsOrNone? ((s.dropWhile (· != '.')).drop 1)
  if whole.isEmpty && parts.isEmpty then none
  else return (ofDigits (whole ++ parts), parts.length)

/-- A letter begins the exponent of a number. -/
def beginsExponent (c : Char) : Bool := c == 'e' || c == 'E'

/-- The power of ten behind a number, with its letter; there may be none. -/
def exponent? : List Char → Option Int
  | [] => some 0
  | _ :: cs => do
    let (negative, cs) := unsigned cs
    let ns ← digits? cs
    return if negative then -(ofDigits ns : Int) else ofDigits ns

/-- The number that a fraction with or without an exponent stands for. -/
def scaled? (s : List Char) : Option Float := do
  let (digits, places) ← fraction? (s.takeWhile fun c => !beginsExponent c)
  let exponent ← exponent? (s.dropWhile fun c => !beginsExponent c)
  return Decimal.scientific digits (exponent - places)

/-- The names of infinity. -/
def infinityNames : List String := ["inf", "infinity"]

/-- The name of what is no number. -/
def noNumberName : String := "nan"

/-- The number, whole or not, that characters stand for. -/
def float? (s : List Char) : Option Float :=
  let (negative, number) := unsigned (trimBlanks s)
  let name := (String.ofList number).toLower
  let size :=
    if name = noNumberName then some Decimal.noNumber
    else if infinityNames.contains name then some Decimal.infinity
    else scaled? number
  size.map fun x => if negative then -x else x

end Chip8.Text
