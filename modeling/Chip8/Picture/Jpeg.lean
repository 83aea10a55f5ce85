import Chip8.Picture.Image
import Chip8.Picture.Jpeg.Sampling
import Chip8.Picture.Jpeg.Transform
import Chip8.Picture.Runs

/-!
# What is left of an image in a JPEG file

Colours are split into brightness and two differences of colour, of which the differences are kept
for two by two pixels. Each part is cut into squares of eight by eight, and their frequencies are
kept as multiples of the numbers in a table. `reread` is the image that comes out in the end.
-/

namespace Chip8.Jpeg

/-! ## Brightness and differences of colour -/

/-- The bits behind the point of the factors of a colour. -/
def factorBits : Nat := 16

/-- The value of a colour part in the middle. -/
def middle : Int := 128

/-- A part of a pixel: a sum of products of its red, green and blue parts. -/
def mixed (red green blue offset : Int) (c : Colour) : Int :=
  (red * c.red.toNat + green * c.green.toNat + blue * c.blue.toNat + offset) >>> factorBits

/-- The rounding of a difference of colour, and the value from which it is counted. -/
def differenceOffset : Int := middle <<< factorBits + 1 <<< (factorBits - 1) - 1

/-- The brightness of a colour. -/
def brightness : Colour → Int := mixed 19595 38470 7471 (1 <<< (factorBits - 1))

/-- How much bluer a colour is than it is bright. -/
def blueDifference : Colour → Int := mixed (-11059) (-21709) 32768 differenceOffset

/-- How much redder a colour is than it is bright. -/
def redDifference : Colour → Int := mixed 32768 (-27439) (-5329) differenceOffset

/-- The nearest value of a colour part. -/
def clamp (v : Int) : Int := max 0 (min 255 v)

/-- A product with a factor of a colour, rounded. -/
def scaled (v : Int) : Int := (v + 1 <<< (factorBits - 1)) >>> factorBits

/-- The colour of a brightness and two differences. -/
def colour (y blue red : Int) : Colour :=
  let cb := blue - middle
  let cr := red - middle
  let byte (v : Int) : Byte := BitVec.ofInt 8 (clamp v)
  ⟨byte (y + scaled (91881 * cr)), byte (y + scaled (-22554 * cb - 46802 * cr)),
    byte (y + scaled (116130 * cb))⟩

/-! ## Tables -/

/-- The table for brightness. -/
def brightnessTable : Square := [
  [8, 6, 5, 8, 12, 20, 26, 31],
  [6, 6, 7, 10, 13, 29, 30, 28],
  [7, 7, 8, 12, 20, 29, 35, 28],
  [7, 9, 11, 15, 26, 44, 40, 31],
  [9, 11, 19, 28, 34, 55, 52, 39],
  [12, 18, 28, 32, 41, 52, 57, 46],
  [25, 32, 39, 44, 52, 61, 60, 51],
  [36, 46, 48, 49, 56, 50, 52, 50]]

/-- The table for differences of colour. -/
def differenceTable : Square := [
  [9, 9, 12, 24, 50, 50, 50, 50],
  [9, 11, 13, 33, 50, 50, 50, 50],
  [12, 13, 28, 50, 50, 50, 50, 50],
  [24, 33, 50, 50, 50, 50, 50, 50],
  [50, 50, 50, 50, 50, 50, 50, 50],
  [50, 50, 50, 50, 50, 50, 50, 50],
  [50, 50, 50, 50, 50, 50, 50, 50],
  [50, 50, 50, 50, 50, 50, 50, 50]]

/-! ## Squares -/

/-- The multiple of a table's number that is nearest to an eighth of a frequency. -/
def quantised (step frequency : Int) : Int :=
  let steps : Int := (2 * frequency.natAbs + 8 * step.natAbs : Nat) / (16 * step)
  step * (if frequency < 0 then -steps else steps)

/-- What is left of a square of samples. -/
def rereadSquare (table : Square) (s : Square) : Square :=
  let frequencies := forward (s.map (·.map (· - middle)))
  let kept := table.zipWith (List.zipWith quantised) frequencies
  (backward kept).map (·.map fun v => clamp (v + middle))

/-- The side of a square. -/
def side : Nat := 8

/-- The list cut into pieces of the length of a side; `n` is their number. -/
def cut {α : Type} : Nat → List α → List (List α)
  | 0, _ => []
  | n + 1, xs => xs.take side :: cut n (xs.drop side)

/-- Rows cut into squares of the length of a side; `n` is their number. -/
def cutBand {α : Type} : Nat → List (List α) → List (List (List α))
  | 0, _ => []
  | n + 1, rows => rows.map (·.take side) :: cutBand n (rows.map (·.drop side))

/-- What is left of rows of samples, whose numbers are multiples of a side. -/
def rereadBand (table : Square) (rows : List (List Int)) : List (List Int) :=
  let squares := cutBand ((rows.headD []).length / side) rows
  let kept := Runs.mapRuns (rereadSquare table) squares
  (List.range side).map fun y => kept.flatMap fun square => square.getD y []

/-- What is left of rows of samples, row by row; both numbers are multiples of a side. -/
def rereadBands (table : Square) (rows : List (List Int)) : List (List Int) :=
  (Runs.mapRuns (rereadBand table) (cut (rows.length / side) rows)).flatten

/-- What is left of a part of all pixels. -/
def rereadPlane (table : Square) (rows : List (List Int)) : List (List Int) :=
  let width := (rows.headD []).length
  let filled := extend (roundUp side rows.length) (rows.map (extend (roundUp side width)))
  ((rereadBands table filled).take rows.length).map (·.take width)

/-! ## Images -/

/-- What is left of a difference of colour. -/
def rereadDifference (rows : List (List Int)) : List (List Int) :=
  let width := (rows.headD []).length
  let means := halve (rows.map (extend (roundUp (2 * side) width)))
  let kept := rereadBands differenceTable (extend (roundUp side means.length) means)
  double ((kept.take means.length).map (·.take ((width + 1) / 2)))

/-- A part of all pixels of an image. -/
def plane (i : Image) (part : Colour → Int) : List (List Int) :=
  Image.repeatEach i.side (i.squares.map fun row => Image.repeatEach i.side (row.map part))

/-- The image that is read from a JPEG file of an image. -/
def reread (i : Image) : Image :=
  let y := rereadPlane brightnessTable (plane i brightness)
  let blue := rereadDifference (plane i blueDifference)
  let red := rereadDifference (plane i redDifference)
  let row (parts : List Int × List Int × List Int) : List Colour :=
    (parts.1.zip (parts.2.1.zip parts.2.2)).map fun (y, b, r) => colour y b r
  ⟨i.width, Runs.mapRuns row (y.zip (blue.zip red)), 1⟩

end Chip8.Jpeg
