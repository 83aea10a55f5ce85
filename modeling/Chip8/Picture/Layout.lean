import Chip8.Decimal.Binary
import Chip8.Picture.Encoding.Bytes
import Chip8.Picture.Model

/-!
# Layouts of pixels

How the pixels of an image are laid out in the bytes of a file. Rows follow each other from the
bottom of the image to its top. `PixelLayout.size` is the number of bytes that they take, and
`PixelLayout.rows` is what they look like.
-/

namespace Chip8

/-- How a number is kept in bytes. -/
structure NumberLayout where
  bytes : Nat
  bigEndian : Bool := false
  signed : Bool := false
  floating : Bool := false
deriving DecidableEq, Repr

/-- How the pixels of an image are laid out in bytes. -/
inductive PixelLayout
  /-- So many bits for each pixel, the highest bits of a byte first. -/
  | packed (bits : Nat)
  /-- So many bits for each pixel, the lowest bits of a byte first. -/
  | stream (bits : Nat)
  /-- A byte for each pixel. -/
  | single
  /-- A byte for each pixel, which is a number in a table. -/
  | indices
  /-- The three parts of each pixel next to each other. -/
  | mixed
  /-- The green, the red and the blue parts of all pixels, one after the other. -/
  | planes
  /-- The parts of each row that a model has, one after the other. -/
  | parts (model : ColourModel)
  /-- A number for each pixel, laid out for a model. -/
  | numbers (model : ColourModel) (number : NumberLayout)
  /-- A layout that no reader knows. -/
  | unknown
deriving DecidableEq, Repr

namespace PixelLayout

/-- The number of bytes that rows take. -/
def size (layout : PixelLayout) (width height : Nat) : Nat :=
  match layout with
  | packed bits | stream bits => (bits * width + 7) / 8 * height
  | single | indices => width * height
  | mixed | planes => 3 * width * height
  | parts model => model.partCount * width * height
  | numbers _ number => number.bytes * width * height
  | unknown => 0

/-- The layout is one of bits that may go from one byte to the next. -/
def isStream : PixelLayout → Bool
  | stream _ => true
  | _ => false

/-- Pixels that are laid out in this way can be those of an image in a model. -/
def goesWith (layout : PixelLayout) (model : ColourModel) : Bool :=
  match layout, model with
  | packed bits, .bilevel => bits == 1
  | packed bits, .indexed => bits != 1
  | stream _, .real => true
  | single, .grey | single, .indexed | indices, .indexed => true
  | mixed, .rgb | mixed, .rgbx => true
  | planes, .rgb | planes, .rgba => true
  | parts .rgb, .rgbx | parts .rgbx, .rgb | parts .rgba, .rgb => true
  | parts layoutModel, model => layoutModel == model
  | numbers .short _, .whole | numbers .shortBig _, .whole | numbers .shortBig _, .short => true
  | numbers layoutModel _, model => layoutModel == model
  | _, _ => false

/-! ## Numbers as shades -/

/-- The nearest shade to a number. -/
def shade (v : Int) : Colour := .grey (ColourModel.part v)

/-- The whole number that bytes stand for. -/
def whole (number : NumberLayout) (bytes : List Byte) : Int :=
  let n := if number.bigEndian then ofBigEndian bytes else ofLittleEndian bytes
  if number.signed ∧ 1 <<< (8 * number.bytes - 1) ≤ n then
    (n : Int) - (1 <<< (8 * number.bytes) : Nat)
  else n

/-- The nearest shade to a double; what is no number is black. -/
def shadeOfFloat (x : Float) : Colour :=
  match Decimal.truncate? x with
  | some v => shade v
  | none => shade (if 0.0 < x then 255 else 0)

/-- The shade of a number in bytes. -/
def shadeOfBytes (number : NumberLayout) (bytes : List Byte) : Colour :=
  if number.floating then
    shadeOfFloat (Float32.ofBits (ofLittleEndian bytes).toUInt32).toFloat
  else shade (whole number bytes)

/-! ## Bits -/

/-- The numbers of so many bits in a byte, the highest bits first. -/
def numbersOfByte (bits : Nat) (b : Byte) : List Nat :=
  (List.range (8 / bits)).map fun i => b.toNat >>> (8 - bits * (i + 1)) % 1 <<< bits

/-- The part that a number of so many bits stands for: black or white, or as it is. -/
def partOfNumber (bits n : Nat) : Byte := BitVec.ofNat 8 (if bits = 1 then 255 * n else n)

/-- So many numbers of so many bits, the lowest bits first, and the bits that are left over. -/
def digits (bits : Nat) : Nat → Nat → List Nat × Nat
  | 0, n => ([], n)
  | count + 1, n =>
    let (rest, left) := digits bits count (n >>> bits)
    (n % 1 <<< bits :: rest, left)

/--
The numbers in rows of bytes, so many in each row. A row starts with a new byte, which is laid over
the bits that were left over in the row before.
-/
def streamRows (bits width : Nat) (left : Nat) : List (List Byte) → List (List Nat)
  | [] => []
  | row :: rows =>
    let (first, left) := digits bits width (ofLittleEndian row ||| left)
    first :: streamRows bits width left rows

/-! ## Rows -/

/-- The first pieces of so many bytes, as many as there are to be. -/
def cut (size : Nat) : Nat → List Byte → List (List Byte)
  | 0, _ => []
  | n + 1, bytes => bytes.take size :: cut size n (bytes.drop size)

/-- The bytes of each pixel in a row that holds so many parts one after the other. -/
def gather (count width : Nat) (bytes : List Byte) : List (List Byte) :=
  let bytes := bytes.toArray
  (List.range width).map fun x => (List.range count).map fun i => bytes.getD (width * i + x) 0

/-- The colours of a row in its bytes. -/
def row (layout : PixelLayout) (model : ColourModel) (table : ColourTable) (width : Nat)
    (bytes : List Byte) : List Colour :=
  match layout with
  | packed bits =>
    ((bytes.flatMap (numbersOfByte bits)).take width).map fun n =>
      model.colour table [partOfNumber bits n]
  | single | indices => (bytes.take width).map fun b => model.colour table [b]
  | mixed => Colour.triples bytes
  | parts layoutModel => (gather layoutModel.partCount width bytes).map (layoutModel.colour table)
  | numbers _ number => (cut number.bytes width bytes).map (shadeOfBytes number)
  | stream _ | planes | unknown => []

/-- The rows from top to bottom, of which the last comes first in the bytes. -/
def rows (layout : PixelLayout) (model : ColourModel) (table : ColourTable) (width height : Nat)
    (bytes : List Byte) : List (List Colour) :=
  match layout with
  | planes =>
    let plane (i : Nat) := cut width height (bytes.drop (i * (width * height)))
    ((plane 0).zip ((plane 1).zip (plane 2))).reverse.map fun (green, red, blue) =>
      (red.zip (green.zip blue)).map fun (r, g, b) => ⟨r, g, b⟩
  | stream bits =>
    (streamRows bits width 0 (cut (layout.size width 1) height bytes)).reverse.map fun row =>
      row.map fun (n : Nat) => shade n
  | layout =>
    (cut (layout.size width 1) height bytes).reverse.map (layout.row model table width)

end PixelLayout

end Chip8
