import Chip8.Picture.Encoding.Uncompressed
import Chip8.Picture.Layout

/-!
# The heading of a named image file

In front of the pixels of a named image file stand lines with a key, a colon and a value. A name
with line ends in it adds lines of its own to the heading, which count like the others: they may
make it unreadable, and they may tell of other pixels than there are. `Heading.reread` is what a
reader finds in the file of an image after all.
-/

namespace Chip8

/-- What the lines of a heading tell: the colours, the layout and the extent of the pixels. -/
structure Heading where
  model : ColourModel
  layout : PixelLayout
  size : List HostNumber
  hasTable : Bool

namespace Heading

/-! ## Types of images -/

/-- What holds if no line says otherwise. -/
def plain : Heading := ⟨.grey, .single, [.int 512, .int 512], false⟩

/-- The types of images in words, and how each keeps its pixels. -/
def wordTypes : List (String × ColourModel × PixelLayout) := [
  ("RGB", .rgb, .parts .rgb), ("X 24", .rgb, .mixed), ("RGB3", .rgb, .planes),
  ("RYB3", .rgb, .planes), ("RLB", .rgb, .unknown), ("RYB", .rgb, .unknown),
  ("Greyscale", .grey, .single), ("Grayscale", .grey, .single),
  ("LA", .greyAlpha, .parts .greyAlpha), ("PA", .greyAlpha, .parts .indexedAlpha),
  ("RGBA", .rgba, .parts .rgba), ("RGBX", .rgb, .parts .rgbx), ("CMYK", .cmyk, .parts .cmyk),
  ("YCC", .ycc, .parts .ycc), ("0 1", .bilevel, .packed 1), ("L 1", .bilevel, .packed 1),
  ("B1", .bilevel, .packed 1), ("B2", .indexed, .packed 2), ("B4", .indexed, .packed 4),
  ("L 32 S", .whole, .numbers .whole ⟨4, false, true, false⟩),
  ("L 32 F", .real, .numbers .real ⟨4, false, false, false⟩)]

/-- The types of images by the numbers that they are made of. -/
def numberTypes : List (String × ColourModel × NumberLayout) := [
  ("8", .real, ⟨1, false, false, false⟩), ("8S", .real, ⟨1, false, true, false⟩),
  ("16S", .real, ⟨2, false, true, false⟩), ("32", .real, ⟨4, false, false, false⟩),
  ("32F", .real, ⟨4, false, false, true⟩), ("16", .short, ⟨2, false, false, false⟩),
  ("16L", .shortLittle, ⟨2, false, false, false⟩), ("16B", .shortBig, ⟨2, true, false, false⟩),
  ("32S", .whole, ⟨4, false, true, false⟩)]

/-- The layout of numbers of so many bits, which may fill whole bytes. -/
def bitLayout (bits : Nat) : PixelLayout :=
  if bits % 8 = 0 ∧ bits ≠ 24 then .numbers .real ⟨bits / 8, false, false, false⟩ else .stream bits

/-- The types of images by the number of bits of a pixel. -/
def bitTypes : List (String × ColourModel × PixelLayout) :=
  (List.range 31).map fun i => (s!"L*{i + 2}", .real, bitLayout (i + 2))

/-- All types of images; where a type is listed more than once, the first time counts. -/
def types : List (String × ColourModel × PixelLayout) :=
  wordTypes ++ bitTypes ++ numberTypes.flatMap fun (number, model, layout) =>
    [("L " ++ number, model, .numbers model layout), ("L*" ++ number, model, .numbers model layout)]

/-- What stands behind the type of an image. -/
def typeEnd : String := " image"

/-! ## Lines -/

/-- The keys of lines with numbers. -/
def numberKeys : List String := ["File size (no of images)", "Scale (x,y)", "Image size (x*y)"]

/-- The key of the line with the extent of an image. -/
def sizeKey : String := "Image size (x*y)"

/-- The number that a text stands for. -/
def number? (text : List Char) : Option HostNumber :=
  match Text.int? text with
  | some v => some (.int v)
  | none => (Text.float? text).map .float

/-- The numbers in a value, between commas or stars. -/
def numbers? (value : String) : Option (List HostNumber) :=
  ((String.ofList (value.toList.map fun c => if c = '*' then ',' else c)).splitOn ",").mapM
    fun text => number? text.toList

/-- The heading with the type of the image in a line; one without meaning names a model only. -/
def withType (h : Heading) (value : String) : Heading :=
  match types.find? fun (name, _) => name ++ typeEnd == value with
  | some (_, model, layout) => { h with model, layout }
  | none => { h with model := .ofName value }

/-- The heading with a line that has a key and a value. -/
def withLine (h : Heading) (key value : String) : Except Failure Heading :=
  if numberKeys.contains key then
    match numbers? value with
    | some size => .ok (if key == sizeKey then { h with size } else h)
    | none => .error .malformed
  else if key == "Image type" then .ok (h.withType value)
  else if key == "Lut" then .ok { h with hasTable := true }
  else .ok h

/-- The key and the value of a line, if it has them. -/
def split? (line : List Char) : Option (String × String) :=
  let key := line.takeWhile (· != ':')
  match key, line.dropWhile (· != ':') with
  | c :: _, _ :: value =>
    if c.isAlpha then
      some (String.ofList key, String.ofList (value.dropWhile fun c => c == ' ' || c == '\t'))
    else none
  | _, _ => none

/-! ## Reading -/

/-- The byte at the end of a line. -/
def lineFeed : Byte := 0x0A

/-- The byte that may stand in front of the end of a line. -/
def carriageReturn : Byte := 0x0D

/-- The byte at the end of a heading. -/
def endMark : Byte := 0x1A

/-- The greatest number of bytes in a line with its end. -/
def maxLineSize : Nat := 100

/-- The characters of a line without what stands in front of its end. -/
def lineText (line : List Byte) : List Char :=
  let line := if line.getLast? = some carriageReturn then line.dropLast else line
  line.map fun b => Char.ofNat b.toNat

/-- The heading with the lines at the start of a file, and the bytes from the end of them on. -/
def readLines (file : Text) (h : Heading) : List Byte → Except Failure (Heading × List Byte)
  | [] => .error (.unreadableImage file)
  | b :: bytes =>
    if b = carriageReturn then readLines file h bytes
    else if b = 0 ∨ b = endMark then .ok (h, b :: bytes)
    else
      let line := b :: bytes.takeWhile (· != lineFeed)
      if maxLineSize ≤ line.length then .error (.unreadableImage file)
      else
        match split? (lineText line) with
        | none => .error (.unreadableImage file)
        | some (key, value) =>
          match h.withLine key value with
          | .error failure => .error failure
          | .ok h => readLines file h ((bytes.dropWhile (· != lineFeed)).drop 1)
termination_by bytes => bytes.length
decreasing_by
  · simp
  · have := (List.dropWhile_suffix (· != lineFeed) (l := bytes)).length_le
    simp only [List.length_drop, List.length_cons]
    omega

/-! ## Pixels -/

/-- The size of a table of colours behind a heading. -/
def tableSize : Nat := 768

/-- A table that holds no colours but shades. -/
def isGreyTable (table : Array Byte) : Bool :=
  (List.range 256).all fun i =>
    table[i]? == table[256 + i]? && table[256 + i]? == table[512 + i]?

/-- The heading with a table of colours, which counts for shades and for numbers in a table. -/
def withTable (h : Heading) (table : Array Byte) : Heading × ColourTable :=
  if isGreyTable table then (h, none)
  else
    match h.model with
    | .grey | .indexed => ({ h with model := .indexed, layout := .indices }, some table)
    | .greyAlpha | .indexedAlpha =>
      ({ h with model := .indexedAlpha, layout := .parts .indexedAlpha }, some table)
    | _ => (h, none)

/-- The greatest number of pixels of an image that is read. -/
def maxPixels : Nat := 178956970

/-- There are more pixels than are read. -/
def exceeds (width height : HostNumber) : Bool :=
  match width, height with
  | .float _, _ | _, .float _ =>
    let side (n : HostNumber) : Float :=
      match n with
      | .float x => if 1.0 < x then x else 1.0
      | n => Float.ofInt (max 1 n.truncate)
    maxPixels.toFloat < side width * side height
  | width, height => maxPixels < max 1 width.truncate * max 1 height.truncate

/-- The extent that the heading tells, if there can be an image of it. -/
def extent (h : Heading) (file : Text) : Except Failure (Nat × Nat) :=
  match h.size with
  | width :: height :: rest =>
    if width.atMost 0 || height.atMost 0 || h.model.name.isEmpty then .error (.unreadableImage file)
    else if exceeds width height then .error .tooManyPixels
    else
      match width, height, rest with
      | .int width, .int height, [] => .ok (width.toNat, height.toNat)
      | _, _, _ => .error .wrongType
  | _ => .error (.unreadableImage file)

/-- The image in bytes. -/
def image (h : Heading) (table : ColourTable) (file : Text) (width height : Nat)
    (bytes : List Byte) : Except Failure Image :=
  if !h.layout.goesWith h.model then
    .error (if h.layout.isStream && !h.model.isOther then .undecodedImage file else .malformed)
  else if bytes.length < h.layout.size width height then .error (.truncatedImage file)
  else .ok ⟨width, h.layout.rows h.model table width height bytes, 1⟩

/-- The colours of an image as they are written, and the image itself. -/
def isFaithful (h : Heading) (rest : List Byte) (i : Image) : Bool :=
  let isExtent : Bool :=
    match h.size with
    | [.int width, .int height] => width == i.width && height == i.height
    | _ => false
  h.model == .rgb && h.layout == .parts .rgb && isExtent && !h.hasTable && rest.isEmpty

/--
What is read from the file of an image with a name in it: how it keeps colours, and the image. Most
names leave the image as it is.
-/
def reread (file name : Text) (i : Image) : Except Failure (String × Image) := do
  let (h, rest) ← readLines file plain (Im.heading name i)
  let rest := (rest.dropWhile (· != endMark)).drop 1
  if h.isFaithful rest i then return (h.model.name, i)
  let bytes := rest ++ Im.pixels i
  if h.hasTable ∧ bytes.length < tableSize then .error (.unreadableImage file)
  let (h, table) := if h.hasTable then h.withTable (bytes.take tableSize).toArray else (h, none)
  let bytes := if h.hasTable then bytes.drop tableSize else bytes
  let (width, height) ← h.extent file
  return (h.model.name, ← h.image table file width height bytes)

end Heading

end Chip8
