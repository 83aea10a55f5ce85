import Chip8.Picture.Resample

/-!
# Images in icon files

An icon file holds an image in several sizes. Some files hold those of a few standard sizes that are
not larger than the image, with its proportions; the largest is what is read. An image that is
smaller than all of them is kept as it is. Other files hold squares of all standard sizes, into
which the image is pressed.
-/

namespace Chip8.Icon

/-- The sides of the squares into which an image is fitted, from small to large. -/
def sides : List Nat := [16, 24, 32, 48, 64, 128, 256]

/-- The largest side that is not larger than an image. -/
def side? (image : Image) : Option Nat :=
  (sides.filter fun side => side ≤ image.width && side ≤ image.height).getLast?

/-- The whole number next to a quotient for which a distance is smaller; at least one. -/
def nearest (num den : Nat) (distance : Nat → Float) : Nat :=
  let floor := num / den
  let ceiling := (num + den - 1) / den
  max 1 (if distance ceiling < distance floor then ceiling else floor)

/-- The extent of an image that has been fitted into a square. -/
def fitted (image : Image) (side : Nat) : Nat × Nat :=
  let aspect := image.width.toFloat / image.height.toFloat
  if image.width ≤ image.height then
    (nearest (side * image.width) image.height fun n => (aspect - n.toFloat / side.toFloat).abs,
      side)
  else
    (side, nearest (side * image.height) image.width fun n =>
      if n = 0 then 0.0 else (aspect - side.toFloat / n.toFloat).abs)

/-- The greatest number of pixels on a side of an image that is kept as it is. -/
def maxSide : Nat := 256

/-- An image can be kept in an icon file, in a standard size or as it is. -/
def accepts (image : Image) : Bool :=
  (side? image).isSome || (image.width ≤ maxSide && image.height ≤ maxSide)

/-- The image that is read from an icon file that keeps proportions. -/
def reread (image : Image) : Image :=
  match side? image with
  | none => image
  | some side =>
    if image.width = side ∧ image.height = side then image
    else
      let (width, height) := fitted image side
      Resample.resize Resample.lanczos image width height

/-- The side of the largest square. -/
def squareSide : Nat := 1024

/-- The image that is read from an icon file of squares. -/
def rereadSquare (image : Image) : Image :=
  Resample.resize Resample.bicubic image squareSide squareSide

end Chip8.Icon
