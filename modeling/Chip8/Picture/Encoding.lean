import Chip8.Picture.Encoding.Gif
import Chip8.Picture.Encoding.Planar
import Chip8.Picture.Encoding.Png
import Chip8.Picture.Encoding.Uncompressed
import Chip8.Picture.Snapshot

/-!
# Image files

The bytes of an image in each of the formats that keep it as it is and need no compression.
-/

namespace Chip8

/-- The bytes of an image in a format, in a file of a name. -/
def ImageFormat.encode? (format : ImageFormat) (file : Text) (image : Image) :
    Option (List Byte) :=
  match format with
  | png => some (Png.encode image)
  | gif => some (Gif.encode image)
  | ppm => some (Ppm.encode image)
  | bmp => some (Bmp.encode image)
  | dib => some (Bmp.encodeImage image)
  | tiff => some (Tiff.encode image)
  | tga => some (Tga.encode image)
  | pcx => some (Pcx.encode image)
  | im => some (Im.encode (writtenName file) image)
  | dds => some (Dds.encode image)
  | qoi => some (Qoi.encode image)
  | sgi => some (Sgi.encode image)
  | _ => none

/-- The content of a snapshot's file. -/
def Snapshot.content (s : Snapshot) : Except Failure ByteArray :=
  match s.format.encode? s.file s.image with
  | some bytes => .ok ⟨(bytes.map UInt8.ofBitVec).toArray⟩
  | none => .error (.unsupportedImageFormat s.file)

end Chip8
