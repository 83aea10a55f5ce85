import Chip8.Picture.Heading
import Chip8.Picture.Jpeg
import Chip8.Picture.Snapshot
import Chip8.Picture.Webp

/-!
# Reading images back

What a reader finds in the file of a snapshot: how the format calls itself, how it keeps colours,
and the image. Most formats keep an image as it is. Some files hold no image that can be read.
-/

namespace Chip8

/-- What is found in an image file. -/
structure View where
  format : String
  mode : String
  image : Image

namespace ImageFormat

/-- The name by which files in a format are recognised. -/
def name : ImageFormat → String
  | png => "PNG"
  | gif => "GIF"
  | ppm => "PPM"
  | bmp => "BMP"
  | dib => "DIB"
  | tiff => "TIFF"
  | tga => "TGA"
  | pcx => "PCX"
  | im => "IM"
  | dds => "DDS"
  | qoi => "QOI"
  | sgi => "SGI"
  | jpeg2000 => "JPEG2000"
  | jpeg => "JPEG"
  | webp => "WEBP"
  | avif => "AVIF"
  | ico => "ICO"
  | icns => "ICNS"
  | pdf => "PDF"
  | eps => "EPS"
  | blp => "BLP"
  | colourless => ""

/--
How a format keeps colours: `P` for numbers into a palette, `RGB` for the colours themselves, and
`RGBA` if they may be transparent.
-/
def mode : ImageFormat → String
  | gif => "P"
  | icns => "RGBA"
  | _ => "RGB"

/-- An image is not too large to be read. -/
def checkPixels (image : Image) : Except Failure Unit :=
  if Heading.maxPixels < image.width * image.height then .error .tooManyPixels else .ok ()

/-- An image has rows that can be read. -/
def checkReadable (file : Text) (image : Image) : Except Failure Unit :=
  if image.height = 0 then .error (.unreadableImage file) else .ok ()

/-- How the file of an image keeps colours, and the image that is read from it, if there is one. -/
def reread (format : ImageFormat) (file : Text) (image : Image) :
    Except Failure (String × Image) :=
  match format with
  | pdf => .error (.unreadableImage file)
  | eps => .error (.missingInterpreter file)
  | im => Heading.reread file (writtenName file) image
  | _ => do
    let image ←
      match format with
      | jpeg => checkPixels image; pure (Jpeg.reread image)
      | ico => pure (Icon.reread image)
      | icns => pure (Icon.rereadSquare image)
      | webp => checkReadable file image; checkPixels image; pure (Webp.reread image)
      | _ => checkReadable file image; pure image
    return (format.mode, image)

end ImageFormat

/-- What a reader finds in the file of a snapshot. -/
def Snapshot.view (s : Snapshot) : Except Failure View := do
  let (mode, image) ← s.format.reread s.file s.image
  ImageFormat.checkPixels image
  return ⟨s.format.name, mode, image⟩

end Chip8
