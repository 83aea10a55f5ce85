import Chip8.Picture.Encoding.Bytes

/-!
# GIF files

The pixels are numbers into a palette of 128 colours. They are written as codes of eight bits: the
number of a palette entry stands for itself, `clear` empties the reader's table of sequences and
`stop` ends the image. The table is emptied before it grows so far that codes would need nine bits,
so that every code is one byte.
-/

namespace Chip8.Gif

/-- The number of colours in a palette. -/
def paletteSize : Nat := 128

/-- The code that empties the table. -/
def clear : Byte := 0x80

/-- The code that ends the image. -/
def stop : Byte := 0x81

/-- The number of pixels after which the table is emptied. -/
def runLength : Nat := 120

/-- The greatest number of bytes in a block. -/
def blockSize : Nat := 255

/-- The colours of an image. -/
def colours (i : Image) : List Colour := i.rows.flatten.eraseDups

/-- The palette of an image, filled up with black. -/
def palette (i : Image) : List Colour :=
  (colours i ++ List.replicate paletteSize (Colour.mk 0 0 0)).take paletteSize

/-- Pixels as codes. -/
def codes (table : List Colour) (pixels : List Colour) : List Byte :=
  (pieces runLength pixels).flatMap
    (fun run => clear :: run.map fun c => BitVec.ofNat 8 (table.idxOf c)) ++ [stop]

/-- Bytes as blocks, each behind its length, with an empty block at the end. -/
def blocks (bytes : List Byte) : List Byte :=
  (pieces blockSize bytes).flatMap (fun content => BitVec.ofNat 8 content.length :: content) ++ [0]

/-- The width and the height in two bytes each. -/
def extent (i : Image) : List Byte := littleEndian 2 i.width ++ littleEndian 2 i.height

/-- The file of an image. -/
def encode (i : Image) : List Byte :=
  asciiBytes "GIF87a" ++ extent i ++ [0xF6, 0, 0] ++ (palette i).flatMap Colour.redFirst ++
    [0x2C, 0, 0, 0, 0] ++ extent i ++ [0, 7] ++
    blocks (codes (palette i) i.rows.flatten) ++ [0x3B]

end Chip8.Gif
