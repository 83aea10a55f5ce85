import Chip8.Word

/-!
# The display

A picture of 64 columns and 32 rows. A row is one 64-bit number whose most significant bit is
column 0, so drawing a sprite is exclusive-or with a rotated row, and both axes wrap around the
edge. `pixel` is the view.
-/

namespace Chip8

abbrev screenWidth : Nat := 64

abbrev screenHeight : Nat := 32

/-- The number of columns of a sprite. -/
abbrev spriteWidth : Nat := 8

/-- The greatest number of rows of a sprite. -/
abbrev maxSpriteHeight : Nat := 15

/-- One row of pixels, column 0 in the most significant bit. -/
abbrev Row := BitVec screenWidth

/-- The rows of the picture from top to bottom. -/
structure Display where
  rows : Vector Row screenHeight
deriving DecidableEq

namespace Display

/-- The picture with no pixel lit. -/
def blank : Display := ⟨Vector.replicate screenHeight 0⟩

/-- Whether the pixel in a column and row is lit. -/
def pixel (d : Display) (x : Fin screenWidth) (y : Fin screenHeight) : Bool :=
  d.rows[y].getMsbD x

/-- The pixels lit in exactly one of two pictures. -/
def xor (d e : Display) : Display := ⟨Vector.ofFn fun y => d.rows[y] ^^^ e.rows[y]⟩

/-- Some pixel is lit in both pictures. -/
def overlaps (d e : Display) : Bool :=
  (List.finRange screenHeight).any fun y => d.rows[y] &&& e.rows[y] != 0

/-- The pixels row by row, each row from column 0 on. -/
def toRows (d : Display) : List (List Bool) :=
  (List.finRange screenHeight).map fun y => (List.finRange screenWidth).map fun x => d.pixel x y

/-- The number of lit pixels. -/
def litCount (d : Display) : Nat := d.toRows.flatten.count true

/-! ## Sprites -/

/-- One byte of a sprite placed with its most significant bit in a column, wrapping at the edge. -/
def spriteRow (b : Byte) (column : Nat) : Row :=
  (b.setWidth screenWidth <<< (screenWidth - spriteWidth)).rotateRight (column % screenWidth)

/--
The picture of a sprite alone: row `r` of the sprite, for `r < height`, is placed `r` rows below
`row`, wrapping at the edge.
-/
def sprite (bytes : Nat → Byte) (height column row : Nat) : Display :=
  ⟨Vector.ofFn fun y : Fin screenHeight =>
    let r := (y + (screenHeight - row % screenHeight)) % screenHeight
    if r < height then spriteRow (bytes r) column else 0⟩

/-! ## Pixels of the parts -/

theorem pixel_blank (x : Fin screenWidth) (y : Fin screenHeight) : blank.pixel x y = false := by
  simp [pixel, blank]

theorem pixel_xor (d e : Display) (x : Fin screenWidth) (y : Fin screenHeight) :
    (d.xor e).pixel x y = (d.pixel x y ^^ e.pixel x y) := by
  simp [pixel, xor, BitVec.getMsbD_xor]

theorem ext_pixel {d e : Display} (h : ∀ x y, d.pixel x y = e.pixel x y) : d = e := by
  obtain ⟨r⟩ := d
  obtain ⟨r'⟩ := e
  congr 1
  apply Vector.ext
  intro y hy
  apply BitVec.eq_of_getMsbD_eq
  intro x hx
  simpa [pixel] using h ⟨x, hx⟩ ⟨y, hy⟩

end Display

end Chip8
