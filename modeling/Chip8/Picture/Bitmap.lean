import Chip8.Display
import Chip8.Failure

/-!
# Bitmaps

A bitmap is a picture of lit and dark pixels of any size, given by its columns. `rows` turns it
around, which is how texts and images are written: `Bitmap.toText` writes a line for each row, and
`lines_toText` finds the lines in the text again.
-/

namespace Chip8

/-- Columns of pixels from left to right, each from top to bottom. -/
structure Bitmap where
  columns : List (List Bool)
deriving DecidableEq

namespace Bitmap

/-- The number of columns. -/
def width (b : Bitmap) : Nat := b.columns.length

/-- The number of rows: the length of the first column. -/
def height (b : Bitmap) : Nat := (b.columns.headD []).length

/-- All columns have the same length. -/
def isRectangular (b : Bitmap) : Bool := b.columns.all fun c => c.length == b.height

/-- The pixel in a column and row; there is no lit pixel outside. -/
def pixel (b : Bitmap) (x y : Nat) : Bool := (b.columns.getD x []).getD y false

/-- The rows from top to bottom, each from left to right. -/
def rows (b : Bitmap) : List (List Bool) :=
  (List.range b.height).map fun y => b.columns.map fun c => c.getD y false

/-- The number of lit or of dark pixels. -/
def count (b : Bitmap) (lit : Bool) : Nat := b.rows.flatten.count lit

/-- The bitmap with the given columns, if they have the same length. -/
def ofColumns (columns : List (List Bool)) : Except Failure Bitmap :=
  if (Bitmap.mk columns).isRectangular then .ok ⟨columns⟩ else .error .malformed

/-- The picture on the screen. -/
def ofDisplay (d : Display) : Bitmap :=
  ⟨(List.finRange screenWidth).map fun x => (List.finRange screenHeight).map fun y => d.pixel x y⟩

/-- The rows as texts, with one text for lit and one for dark pixels. -/
def toLines (b : Bitmap) (on off : Text) : List Text :=
  b.rows.map fun row => row.flatMap fun lit => if lit then on else off

/-- The rows as lines of one text. -/
def toText (b : Bitmap) (on off : Text) : Text := Text.join "\n" (b.toLines on off)

/-- The text for a lit pixel unless another is given. -/
def defaultOn : Text := "\x23"

/-- The text for a dark pixel unless another is given. -/
def defaultOff : Text := "."

/-! ## Sizes and pixels -/

theorem length_rows (b : Bitmap) : b.rows.length = b.height := by
  simp [rows]

theorem length_of_mem_rows {b : Bitmap} {row : List Bool} (h : row ∈ b.rows) :
    row.length = b.width := by
  simp only [rows, List.mem_map] at h
  obtain ⟨y, -, rfl⟩ := h
  simp [width]

theorem getElem_rows (b : Bitmap) {x y : Nat} (hy : y < b.height) (hx : x < b.width) :
    (b.rows[y]?.bind (·[x]?)) = some (b.pixel x y) := by
  have hx' : x < b.columns.length := hx
  simp [rows, pixel, hy, hx']

/-! ## Lines with the usual signs -/

theorem toLines_default (b : Bitmap) : b.toLines defaultOn defaultOff =
    b.rows.map fun row => row.map fun lit => .char (if lit then '#' else '.') := by
  have hline (row : List Bool) : row.flatMap (fun lit => if lit then defaultOn else defaultOff) =
      row.map fun lit => .char (if lit then '#' else '.') := by
    induction row with
    | nil => rfl
    | cons lit row ih =>
      rw [List.flatMap_cons, ih]
      cases lit <;> rfl
  simp only [toLines, hline]

/-- The lines of a text are the rows, none of which is broken. -/
theorem lines_toText {b : Bitmap} (h : 0 < b.height) :
    (b.toText defaultOn defaultOff).lines = b.toLines defaultOn defaultOff := by
  refine Text.split_join (fun hnil => ?_) fun line hmem => ?_
  · have hlength := congrArg List.length hnil
    rw [toLines, List.length_map, length_rows, List.length_nil] at hlength
    omega
  · rw [toLines_default] at hmem
    obtain ⟨row, -, rfl⟩ := List.mem_map.1 hmem
    intro hbreak
    obtain ⟨lit, -, heq⟩ := List.mem_map.1 hbreak
    cases lit <;> cases heq

end Bitmap

end Chip8
