import Chip8.Picture.Format

/-!
# Snapshots

A snapshot is an image for a file, in the format that the file's name asks for.
-/

namespace Chip8

/-- An image for a file. -/
structure Snapshot where
  file : Text
  format : ImageFormat
  image : Image

namespace Snapshot

/-- The greatest number of pixels on a side of an image that is written. -/
def maxExtent : Nat := 0x7FFFFFFF

/--
The snapshot of a bitmap in a colour scheme. The scheme is looked at first, then the scale and the
size, the file's extension, the outcome of opening the file, and last whether the format takes the
image.
-/
def create (b : Bitmap) (file : Text) (scale : HostNumber) (scheme : Text)
    (opened : Except Failure Unit) (room : Image.Room := .unlimited) :
    Except Failure Snapshot := do
  let scheme ← ColourScheme.find scheme
  let image ← Image.ofBitmap b scale scheme.on.parts scheme.off.parts room
  if maxExtent < image.width ∨ maxExtent < image.height then .error .outOfRange
  let format ← ImageFormat.ofFile file
  opened
  format.accept file image
  return { file, format, image }

end Snapshot

end Chip8
