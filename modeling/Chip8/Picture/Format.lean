import Chip8.Failure
import Chip8.FileName
import Chip8.Picture.Icon

/-!
# Image formats

The format of an image file is chosen by the extension of its name, in capital or small letters. To
some extensions belong formats in which images are only read. Of the others, `accept` says whether
an image can be written.
-/

namespace Chip8

/-- The formats in which images are written. -/
inductive ImageFormat
  | png
  | gif
  | ppm
  | bmp
  | dib
  | tiff
  | tga
  | pcx
  | im
  | dds
  | qoi
  | sgi
  | jpeg2000
  | jpeg
  | webp
  | avif
  | ico
  | icns
  | pdf
  | eps
  | blp
  | colourless
deriving DecidableEq, Repr

namespace ImageFormat

/-! ## Extensions -/

/-- The formats with their extensions. -/
def extensions : List (ImageFormat × List String) := [
  (png, [".png", ".apng"]),
  (gif, [".gif"]),
  (ppm, [".ppm", ".pgm", ".pbm", ".pnm", ".pfm"]),
  (bmp, [".bmp"]),
  (dib, [".dib"]),
  (tiff, [".tif", ".tiff"]),
  (tga, [".tga", ".icb", ".vda", ".vst"]),
  (pcx, [".pcx"]),
  (im, [".im"]),
  (dds, [".dds"]),
  (qoi, [".qoi"]),
  (sgi, [".sgi", ".bw", ".rgb", ".rgba"]),
  (jpeg2000, [".jp2", ".j2k", ".jpc", ".jpf", ".jpx", ".j2c"]),
  (jpeg, [".jpg", ".jpeg", ".jpe", ".jfif", ".mpo"]),
  (webp, [".webp"]),
  (avif, [".avif", ".avifs"]),
  (ico, [".ico"]),
  (icns, [".icns"]),
  (pdf, [".pdf"]),
  (eps, [".eps", ".ps"]),
  (blp, [".blp"]),
  (colourless, [".xbm", ".msp", ".palm", ".h5", ".hdf", ".wmf", ".emf", ".grib", ".bufr"])]

/-- The extensions of formats in which images are only read. -/
def readOnlyExtensions : List String := [
  ".cur", ".dcx", ".fit", ".fits", ".flc", ".fli", ".ftc", ".ftu", ".gbr", ".iim", ".mpeg",
  ".mpg", ".pcd", ".psd", ".pxr", ".ras", ".xpm"]

/-- A letter of an extension in its small form; the sign for kelvin is a capital letter, too. -/
def smallLetter : Symbol → Symbol
  | .char c => .char (if c.toNat = 0x212A then 'k' else c.toLower)
  | half => half

/-- The format for a file, by its extension. -/
def ofFile (file : Text) : Except Failure ImageFormat :=
  let extension := (Text.string? ((FileName.extension file).map smallLetter)).getD ""
  match extensions.find? fun (_, known) => known.contains extension with
  | some (format, _) => .ok format
  | none =>
    .error <|
      if readOnlyExtensions.contains extension then .readOnlyImageFormat file
      else .unknownImageFormat file

/-! ## Writing -/

/-- The greatest number of characters of a name that is written into an image. -/
def nameSpace : Nat := 92

/-- The name of a file as it is written into an image, shortened in front of the extension. -/
def writtenName (file : Text) : Text :=
  let extension := FileName.extension file
  (FileName.root file).take (nameSpace - extension.length) ++ extension

/-- An image has at least one row, if a format asks for it. -/
def checkRows (format : ImageFormat) (image : Image) : Except Failure Unit :=
  if image.height = 0 then
    match format with
    | sgi => .ok ()
    | webp => .error .noRows
    | _ => .error .malformed
  else .ok ()

/-- A limit on the extent of images in a format, and the refusal of a larger image. -/
structure Limit where
  width : Nat
  height : Nat
  failure : Failure

/-- The same limit for both sides. -/
def Limit.square (side : Nat) (failure : Failure) : Limit := ⟨side, side, failure⟩

/-- The limit on images in a format. -/
def limit? (format : ImageFormat) (file : Text) : Option Limit :=
  match format with
  | gif | tga => some (.square 65535 .outOfRange)
  | pcx => some ⟨65534, 65535, .outOfRange⟩
  | sgi => some (.square 65535 .fieldTooSmall)
  | jpeg | pdf => some (.square 65500 (.sideTooLong file))
  | webp => some (.square 16383 .malformed)
  | _ => none

/-- An image keeps to the limit of a format. -/
def checkLimit (format : ImageFormat) (file : Text) (image : Image) : Except Failure Unit :=
  match limit? format file with
  | some limit =>
    if limit.width < image.width ∨ limit.height < image.height then .error limit.failure
    else .ok ()
  | none => .ok ()

/-- An image can be written to a file. -/
def accept (format : ImageFormat) (file : Text) (image : Image) : Except Failure Unit :=
  let fits : Except Failure Unit := do
    format.checkRows image
    format.checkLimit file image
  match format with
  | colourless => .error (.colourRefused file)
  | blp => .error .malformed
  | im => if (writtenName file).all (·.number < 128) then fits
    else .error (.unwritableName file)
  | tga => do
    format.checkLimit file image
    format.checkRows image
  | ico => if Icon.accepts image then fits else .error .malformed
  | _ => fits

end ImageFormat

end Chip8
