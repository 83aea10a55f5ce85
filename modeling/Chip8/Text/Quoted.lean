import Chip8.Text
import Chip8.Text.Printable

/-!
# Quoted text

Text is quoted with apostrophes, or with quotation marks if it holds an apostrophe and no quotation
mark. The quote in use and the backslash are escaped by a backslash; line feed, carriage return and
tab have letters; every other unprintable character is written by its code point in two, four or
eight hexadecimal digits. A half of a pair is written by its number in four digits.
-/

namespace Chip8.Text

/-- The apostrophe. -/
def apostrophe : Char := Char.ofNat 0x27

/-- The quotation mark. -/
def quotationMark : Char := Char.ofNat 0x22

/-- The character that quotes a text. -/
def quoteFor (t : Text) : Char :=
  if t.contains (.char apostrophe) && !t.contains (.char quotationMark) then quotationMark
  else apostrophe

/-- The digits of a number in small hexadecimal, filled with zeros to a least width. -/
def lowerHex (width n : Nat) : List Char :=
  let digits := Nat.toDigits 16 n
  List.replicate (width - digits.length) '0' ++ digits

/-- One character as it stands between quotes. -/
def escapeChar (quote c : Char) : List Char :=
  if c = quote || c = '\\' then ['\\', c]
  else if c = '\n' then ['\\', 'n']
  else if c = '\r' then ['\\', 'r']
  else if c = '\t' then ['\\', 't']
  else if isPrintable c then [c]
  else if c.toNat < 0x100 then '\\' :: 'x' :: lowerHex 2 c.toNat
  else if c.toNat < 0x10000 then '\\' :: 'u' :: lowerHex 4 c.toNat
  else '\\' :: 'U' :: lowerHex 8 c.toNat

/-- One symbol as it stands between quotes. -/
def escape (quote : Char) : Symbol → List Char
  | .char c => escapeChar quote c
  | s => '\\' :: 'u' :: lowerHex 4 s.number

/-- A text in quotes. -/
def quoted (t : Text) : Text :=
  let quote := quoteFor t
  (quote :: t.flatMap (escape quote) ++ [quote]).map .char

/-- Texts in quotes, separated by commas. -/
def quotedList (texts : List Text) : Text := join ", " (texts.map quoted)

end Chip8.Text
