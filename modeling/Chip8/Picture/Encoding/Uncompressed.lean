import Chip8.Picture.Encoding.Bytes

/-!
# Uncompressed image files

Formats that are a header in front of the pixels, three bytes each.
-/

namespace Chip8

/-- All pixels from the top left, red first. -/
def Image.redFirst (i : Image) : List Byte := i.rows.flatMap fun row => row.flatMap Colour.redFirst

/-! ## Portable pixel maps -/

namespace Ppm

/-- The file of an image: the width, the height and the greatest part of a colour as text. -/
def encode (i : Image) : List Byte :=
  asciiBytes s!"P6\n{i.width} {i.height}\n255\n" ++ i.redFirst

end Ppm

/-! ## Bitmap files -/

namespace Bmp

/-- The bytes of a row, blue first, filled up with zeros to a multiple of four. -/
def row (colours : List Colour) : List Byte :=
  let bytes := colours.flatMap Colour.blueFirst
  bytes ++ List.replicate ((4 - bytes.length % 4) % 4) 0

/-- The rows from the bottom up. -/
def pixels (i : Image) : List Byte := i.rows.reverse.flatMap row

/-- The size of the header of an image, which is its first entry. -/
def headerSize : Nat := 40

/-- The size of the header of a file. -/
def fileHeaderSize : Nat := 14

/-- Pixels for a metre, in either direction. -/
def resolution : Nat := 3780

/-- The header of an image: its extent, one plane of 24 bits and how many bytes its pixels take. -/
def header (i : Image) (size : Nat) : List Byte :=
  littleEndian 4 headerSize ++ littleEndian 4 i.width ++ littleEndian 4 i.height ++
    littleEndian 2 1 ++ littleEndian 2 24 ++ littleEndian 4 0 ++ littleEndian 4 size ++
    littleEndian 4 resolution ++ littleEndian 4 resolution ++ littleEndian 4 0 ++ littleEndian 4 0

/-- The image without the header of a file. -/
def encodeImage (i : Image) : List Byte :=
  let bytes := pixels i
  header i bytes.length ++ bytes

/-- The file of an image: its size and where the pixels start are in front. -/
def encode (i : Image) : List Byte :=
  let content := encodeImage i
  asciiBytes "BM" ++ littleEndian 4 (fileHeaderSize + content.length) ++ littleEndian 4 0 ++
    littleEndian 4 (fileHeaderSize + headerSize) ++ content

end Bmp

/-! ## Tagged image files -/

namespace Tiff

/-- A directory entry with values of two bytes; the place of the values if there are several. -/
def short (tag count value : Nat) : List Byte :=
  littleEndian 2 tag ++ littleEndian 2 3 ++ littleEndian 4 count ++ littleEndian 4 value

/-- A directory entry with one value of four bytes. -/
def long (tag value : Nat) : List Byte :=
  littleEndian 2 tag ++ littleEndian 2 4 ++ littleEndian 4 1 ++ littleEndian 4 value

/-- The number of directory entries. -/
def entryCount : Nat := 10

/-- Where the bits of the three parts of a colour stand: behind the header and the directory. -/
def bitsOffset : Nat := 8 + 2 + 12 * entryCount + 4

/-- Where the pixels stand. -/
def pixelOffset : Nat := bitsOffset + 6

/-- The entries of the directory, by their tags in ascending order. -/
def entries (i : Image) (size : Nat) : List Byte :=
  long 256 i.width ++ long 257 i.height ++ short 258 3 bitsOffset ++ short 259 1 1 ++
    short 262 1 2 ++ long 273 pixelOffset ++ short 277 1 3 ++ long 278 i.height ++
    long 279 size ++ short 284 1 1

/-- The file of an image. -/
def encode (i : Image) : List Byte :=
  let bytes := i.redFirst
  asciiBytes "II" ++ littleEndian 2 42 ++ littleEndian 4 8 ++ littleEndian 2 entryCount ++
    entries i bytes.length ++ littleEndian 4 0 ++
    littleEndian 2 8 ++ littleEndian 2 8 ++ littleEndian 2 8 ++ bytes

end Tiff

/-! ## Targa files -/

namespace Tga

/-- The file of an image: true colours of 24 bits, the top row first. -/
def encode (i : Image) : List Byte :=
  [0, 0, 2, 0, 0, 0, 0, 0, 0, 0, 0, 0] ++ littleEndian 2 i.width ++ littleEndian 2 i.height ++
    [24, 0x20] ++ i.rows.flatMap fun row => row.flatMap Colour.blueFirst

end Tga

/-! ## Surface files -/

namespace Dds

/-- The bits of a pixel that hold a part of its colour, from red to blue. -/
def masks : List Nat := [0xFF0000, 0xFF00, 0xFF]

/-- The extent of the image, the bytes in a row, and where the parts of a colour stand. -/
def header (i : Image) : List Byte :=
  littleEndian 4 124 ++ littleEndian 4 0x100F ++ littleEndian 4 i.height ++
    littleEndian 4 i.width ++ littleEndian 4 (3 * i.width) ++ List.replicate 52 0 ++
    littleEndian 4 32 ++ littleEndian 4 0x40 ++ littleEndian 4 0 ++ littleEndian 4 24 ++
    masks.flatMap (littleEndian 4) ++ littleEndian 4 0 ++ littleEndian 4 0x1000 ++
    List.replicate 16 0

/-- The file of an image. -/
def encode (i : Image) : List Byte :=
  asciiBytes "DDS " ++ header i ++ i.rows.flatMap fun row => row.flatMap Colour.blueFirst

end Dds

/-! ## Named image files -/

namespace Im

/-- The lines in front of the pixels. -/
def description (name : Text) (i : Image) : Text :=
  "Image type: RGB image\r\nName: " ++ name ++
    s!"\r\nImage size (x*y): {i.width}*{i.height}\r\nFile size (no of images): 1\r\n"

/-- The size of the description with what fills it up, and the byte that ends it. -/
def headerSize : Nat := 512

/-- The parts of the colours in a row, one after the other. -/
def row (colours : List Colour) : List Byte :=
  colours.map (·.red) ++ colours.map (·.green) ++ colours.map (·.blue)

/-- The description, filled up with zeros, and the byte that ends it. -/
def heading (name : Text) (i : Image) : List Byte :=
  let text := asciiBytes (description name i)
  text ++ List.replicate (headerSize - 1 - text.length) 0 ++ [0x1A]

/-- The rows from the bottom up. -/
def pixels (i : Image) : List Byte := i.rows.reverse.flatMap row

/-- The file of an image with a name: the description and the pixels. -/
def encode (name : Text) (i : Image) : List Byte := heading name i ++ pixels i

end Im

/-! ## Files of single pixels -/

namespace Qoi

/-- A pixel that is written by its colour. -/
def pixel (c : Colour) : List Byte := 0xFE :: c.redFirst

/-- The file of an image: its extent, three parts for a pixel, the pixels and an end mark. -/
def encode (i : Image) : List Byte :=
  asciiBytes "qoif" ++ bigEndian 4 i.width ++ bigEndian 4 i.height ++ [3, 0] ++
    (i.rows.flatMap fun row => row.flatMap pixel) ++ List.replicate 7 0 ++ [1]

end Qoi

end Chip8
