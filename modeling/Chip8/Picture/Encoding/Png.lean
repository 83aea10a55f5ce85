import Chip8.Picture.Encoding.Bytes
import Chip8.Picture.Encoding.Checksum

/-!
# PNG files

A file is a signature and chunks, each with its length, its name and a check sum. The pixels are
kept row by row behind a zero byte each, which says that the row is not filtered, in blocks that are
stored without compression.
-/

namespace Chip8.Png

/-- The first eight bytes of a file. -/
def signature : List Byte := [0x89, 0x50, 0x4E, 0x47, 0x0D, 0x0A, 0x1A, 0x0A]

/-- A chunk with a name of four letters. -/
def chunk (name : String) (content : List Byte) : List Byte :=
  let named := asciiBytes name ++ content
  bigEndian 4 content.length ++ named ++ bigEndian 4 (Checksum.remainder named).toNat

/-- The greatest number of bytes in a stored block. -/
def blockSize : Nat := 65535

/-- A stored block: whether it is the last, its length, the complement of that, and its bytes. -/
def storedBlock (last : Bool) (content : List Byte) : List Byte :=
  (if last then 1 else 0) :: littleEndian 2 content.length ++
    littleEndian 2 (blockSize - content.length) ++ content

/-- Bytes as stored blocks. -/
def storedBlocks (bytes : List Byte) : List Byte :=
  let contents := pieces blockSize bytes
  contents.dropLast.flatMap (storedBlock false) ++ storedBlock true (contents.getLastD [])

/-- Bytes as a stream of stored blocks: its kind, the blocks, and a check sum of the bytes. -/
def stream (bytes : List Byte) : List Byte :=
  [0x78, 0x01] ++ storedBlocks bytes ++ bigEndian 4 (Checksum.sumPair bytes)

/-- The width, the height, eight bits for each part of a colour, and three parts for a pixel. -/
def header (i : Image) : List Byte :=
  bigEndian 4 i.width ++ bigEndian 4 i.height ++ [8, 2, 0, 0, 0]

/-- The rows, each behind a zero byte. -/
def pixels (i : Image) : List Byte := i.rows.flatMap fun row => 0 :: row.flatMap Colour.redFirst

/-- The file of an image. -/
def encode (i : Image) : List Byte :=
  signature ++ chunk "IHDR" (header i) ++ chunk "IDAT" (stream (pixels i)) ++ chunk "IEND" []

end Chip8.Png
