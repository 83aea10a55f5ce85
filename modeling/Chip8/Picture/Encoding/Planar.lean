import Chip8.Picture.Encoding.Bytes

/-!
# Image files with separate colour parts

Formats that keep the red, the green and the blue parts of colours apart, in each row or in the
whole image.
-/

namespace Chip8

/-- The three parts of colours, each by itself. -/
def Colour.planes (colours : List Colour) : List (List Byte) :=
  [colours.map (·.red), colours.map (·.green), colours.map (·.blue)]

/-! ## Paintbrush files -/

namespace Pcx

/-- The bytes for one part of the colours in a row, an even number of them. -/
def stride (i : Image) : Nat := i.width + i.width % 2

/-- A byte as it is written: the greatest ones are counts, so they follow a count of one. -/
def escaped (b : Byte) : List Byte := if b < 0xC0 then [b] else [0xC1, b]

/-- The parts of the colours in a row, one after the other, each filled up with zeros. -/
def row (stride : Nat) (colours : List Colour) : List Byte :=
  (Colour.planes colours).flatMap fun plane =>
    (plane ++ List.replicate (stride - plane.length) 0).flatMap escaped

/-- The extent of the image, its resolution, three parts of eight bits, and the bytes in a row. -/
def header (i : Image) : List Byte :=
  [10, 5, 1, 8, 0, 0, 0, 0] ++ littleEndian 2 (i.width - 1) ++ littleEndian 2 (i.height - 1) ++
    littleEndian 2 100 ++ littleEndian 2 100 ++ List.replicate 49 0 ++ [3] ++
    littleEndian 2 (stride i) ++ littleEndian 2 1 ++ littleEndian 2 i.width ++
    littleEndian 2 i.height ++ List.replicate 54 0

/-- The file of an image. -/
def encode (i : Image) : List Byte := header i ++ i.rows.flatMap (row (stride i))

end Pcx

/-! ## Workstation files -/

namespace Sgi

/-- The size of the header. -/
def headerSize : Nat := 512

/-- The extent of the image, and three parts of eight bits. -/
def header (i : Image) : List Byte :=
  bigEndian 2 474 ++ [0, 1] ++ bigEndian 2 3 ++ bigEndian 2 i.width ++ bigEndian 2 i.height ++
    bigEndian 2 3 ++ bigEndian 4 0 ++ bigEndian 4 255

/-- The file of an image: the rows from the bottom up, for one part of the colours at a time. -/
def encode (i : Image) : List Byte :=
  header i ++ List.replicate (headerSize - (header i).length) 0 ++
    (Colour.planes i.rows.reverse.flatten).flatten

end Sgi

end Chip8
