import Chip8.Decimal.Binary
import Chip8.Picture.Image

/-!
# Images of another size

Each pixel of the new image is a weighted mean of the pixels around its centre in the old one. A
kernel gives the weights by distance, and is stretched when the image gets smaller. Weights are
rounded to whole numbers. Rows are resampled first, then columns, unless the image is very tall.
-/

namespace Chip8.Resample

/-- Weights by distance, and the distance from which they are zero. -/
structure Kernel where
  support : Float
  weight : Float → Float

/-- The half circle in radians. -/
def pi : Float := 3.14159265358979323846

/-- The sine of a multiple of `pi`, divided by the same. -/
def sinc (x : Float) : Float := if x == 0.0 then 1.0 else (x * pi).sin / (x * pi)

/-- A wave cut off smoothly by the middle of a wider one. -/
def lanczos : Kernel where
  support := 3.0
  weight := fun x => if -3.0 ≤ x && x < 3.0 then sinc x * sinc (x / 3.0) else 0.0

/-- Two pieces of cubic curves. -/
def bicubic : Kernel where
  support := 2.0
  weight := fun x =>
    let a := -0.5
    let x := x.abs
    if x < 1.0 then ((a + 2.0) * x - (a + 3.0)) * x * x + 1.0
    else if x < 2.0 then (((x - 5.0) * x + 8.0) * x - 4.0) * a
    else 0.0

/-- The bits behind the point of a weight. -/
def weightBits : Nat := 22

/-- The first sample that counts, and the weights of it and those after it. -/
structure Window where
  first : Nat
  weights : List Int

/-- A weight as a whole number, a half away from zero. -/
def wholeWeight (w : Float) : Int :=
  let scaled := w * (1 <<< weightBits : Nat).toFloat
  (Decimal.truncate? (if w < 0.0 then scaled - 0.5 else scaled + 0.5)).getD 0

/-- The whole part of a number that is not negative; zero for one that is. -/
def wholePart (x : Float) : Nat := x.toUInt64.toNat

/-- What counts for the sample with a number, of `target` ones in place of `size`. -/
def window (kernel : Kernel) (size target x : Nat) : Window :=
  let scale := size.toFloat / target.toFloat
  let stretch := if scale < 1.0 then 1.0 else scale
  let support := kernel.support * stretch
  let centre := (x.toFloat + 0.5) * scale
  let first := wholePart (centre - support + 0.5)
  let last := min size (wholePart (centre + support + 0.5))
  let weights := (List.range (last - first)).map fun i =>
    kernel.weight (((i + first).toFloat - centre + 0.5) * (1.0 / stretch))
  let sum := weights.foldl (· + ·) 0.0
  ⟨first, weights.map fun w => wholeWeight (w / sum)⟩

/-- The nearest value of a colour part to a sum of weighted ones. -/
def settle (sum : Int) : Byte :=
  BitVec.ofInt 8 (max 0 (min 255 ((sum + 1 <<< (weightBits - 1)) >>> weightBits)))

/-- The weighted mean of colours. -/
def mean (colours : Array Colour) (w : Window) : Colour :=
  let part (f : Colour → Byte) : Byte :=
    settle <| ((List.range w.weights.length).zip w.weights).foldl (fun sum (i, weight) =>
      sum + weight * ((colours[w.first + i]?).map (f · |>.toNat)).getD 0) 0
  ⟨part (·.red), part (·.green), part (·.blue)⟩

/-- Each row with a number of colours in place of its own. -/
def resampleRows (kernel : Kernel) (size target : Nat) (rows : List (List Colour)) :
    List (List Colour) :=
  if size = target then rows
  else
    let windows := (List.range target).map (window kernel size target)
    rows.map fun row =>
      let colours := row.toArray
      windows.map (mean colours)

/-- Rows of a length as columns. -/
def transpose (width : Nat) (rows : List (List Colour)) : List (List Colour) :=
  let rows := rows.map (·.toArray)
  (List.range width).map fun x => rows.map fun row => row.getD x ⟨0, 0, 0⟩

/-- Rows of a length with another number of rows in place of their own. -/
def resampleColumns (kernel : Kernel) (width size target : Nat) (rows : List (List Colour)) :
    List (List Colour) :=
  transpose target (resampleRows kernel size target (transpose width rows))

/-- The image is so tall that columns are resampled first when there will be fewer rows. -/
def columnsFirst (image : Image) (height : Nat) : Bool :=
  2 * image.width < image.height && height < image.height

/--
The image in another size. The rows of pixels in a row of squares are equal, and so are the columns
in a column of squares: those that are resampled first are resampled once for all of them.
-/
def resize (kernel : Kernel) (image : Image) (width height : Nat) : Image :=
  let pixels :=
    if columnsFirst image height then
      let columns := (transpose image.columns image.squares).map (Image.repeatEach image.side)
      let rows := transpose height (resampleRows kernel image.height height columns)
      resampleRows kernel image.width width (rows.map (Image.repeatEach image.side))
    else
      let rows := image.squares.map (Image.repeatEach image.side)
      resampleColumns kernel width image.height height
        (Image.repeatEach image.side (resampleRows kernel image.width width rows))
  ⟨width, pixels, 1⟩

end Chip8.Resample
