import Chip8.HostNumber
import Chip8.Picture.Bitmap
import Chip8.Picture.Colour

/-!
# Images

A bitmap becomes an image when its pixels are given colours and each is widened to a square. An
image keeps the colours of the squares and how long their sides are; `rows` has its pixels.
`length_rows` and `getElem?_rows` say how many rows there are and which square a pixel is in. What a
host gets is the image of `paint` if it gives one colour for each kind of pixel (`ofBitmap_parts`).
`checkSize_of_le`, `checkSize_of_gt` and `checkSize_of_side` say when there is one: an array has an
extent and a number of bytes of 63 bits at most, and its host has to have room in memory for it.
-/

namespace Chip8

/-- A rectangle of squares in one colour each, row by row, and the side of a square in pixels. -/
structure Image where
  columns : Nat
  squares : List (List Colour)
  side : Nat
deriving DecidableEq

namespace Image

/-- Each element a number of times. -/
def repeatEach {α : Type} (n : Nat) (xs : List α) : List α := xs.flatMap (List.replicate n)

/-- The number of pixels in a row. -/
def width (i : Image) : Nat := i.columns * i.side

/-- The number of rows of pixels. -/
def height (i : Image) : Nat := i.squares.length * i.side

/-- The pixels, row by row. -/
def rows (i : Image) : List (List Colour) := repeatEach i.side (i.squares.map (repeatEach i.side))

/-- The image of a bitmap in two colours, each pixel a square of the given side. -/
def paint (b : Bitmap) (side : Nat) (on off : Colour) : Image where
  columns := b.width
  squares := b.rows.map fun row => row.map fun lit => if lit then on else off
  side := side

/-- The colours of a row: lit pixels take those in one list and dark ones those in the other. -/
def paintRow (on off : List Colour) : List Bool → List Colour
  | [] => []
  | true :: pixels => on.headD defaultOnColour :: paintRow on.tail off pixels
  | false :: pixels => off.headD defaultOffColour :: paintRow on off.tail pixels

/-- The colours of rows, which go on in the lists where the row before has stopped. -/
def paintRows (on off : List Colour) : List (List Bool) → List (List Colour)
  | [] => []
  | row :: rows =>
    paintRow on off row :: paintRows (on.drop (row.count true)) (off.drop (row.count false)) rows

/-- The image of a bitmap with a list of colours for its lit pixels and one for its dark ones. -/
def paintEach (b : Bitmap) (side : Nat) (on off : List Colour) : Image where
  columns := b.width
  squares := paintRows on off b.rows
  side := side

/-! ## Limits -/

/-- The greatest extent and the greatest number of bytes of an array. -/
def arrayLimit : Nat := 0x7FFFFFFFFFFFFFFF

/-- The number of bytes of an array of colours; an extent of zero is left out of account. -/
def arraySize (height width : Nat) : Nat := 3 * max height 1 * max width 1

/-- The numbers of bytes for which a host has room in memory. -/
abbrev Room := Nat → Bool

/-- Room for every array. -/
def Room.unlimited : Room := fun _ => true

/-- An array of colours can be made by a host with such room. -/
def checkArray (room : Room) (height width : Nat) : Except Failure Unit :=
  if arrayLimit < height ∨ arrayLimit < width ∨ arrayLimit < arraySize height width then
    .error .malformed
  else if 0 < height ∧ room (arraySize height width) = false then .error .outOfMemory
  else .ok ()

/--
The squares of an image can be made of pixels: the side is a number of 64 bits, and there is room
for the image when it has been widened downwards and when it has been widened to the right.
-/
def checkSize (i : Image) (room : Room) : Except Failure Unit := do
  if arrayLimit < i.side then .error .outOfRange
  checkArray room i.height i.columns
  checkArray room i.height i.width

/-- The side of the squares at a scale: its whole part if it is above one. -/
def sideOfScale (scale : HostNumber) : Except Failure Nat :=
  match scale with
  | .float x => if x ≤ 1.0 ∨ x.isNaN then .ok 1 else (HostNumber.whole x).map Int.toNat
  | scale => .ok (max 1 scale.truncate).toNat

/--
The image of a bitmap with a scale and colours from a host, which may have little room in memory.
The scale is looked at first, then the bitmap, which may not be empty, then the colour of lit
pixels, that of dark ones, and last the size.
-/
def ofBitmap (b : Bitmap) (scale : HostNumber) (on off : List HostValue)
    (room : Room := .unlimited) : Except Failure Image :=
  if scale.below 1 then .error (.showing .scaleTooSmall scale.toValue)
  else if b.columns.isEmpty then .error .malformed
  else do
    let on ← Colour.ofHost (b.count true) on
    let off ← Colour.ofHost (b.count false) off
    let image := paintEach b (← sideOfScale scale) on off
    image.checkSize room
    return image

/-- The side of a pixel unless another is given. -/
def defaultScale : Int := 8

/-! ## One colour for all pixels of a kind -/

theorem paintRow_replicate (on off : Colour) {m n : Nat} {row : List Bool}
    (hm : row.count true ≤ m) (hn : row.count false ≤ n) :
    paintRow (List.replicate m on) (List.replicate n off) row =
      row.map fun lit => if lit then on else off := by
  induction row generalizing m n with
  | nil => rfl
  | cons lit row ih =>
    cases lit with
    | true =>
      obtain ⟨m, rfl⟩ : ∃ k, m = k + 1 := ⟨m - 1, by simp at hm; omega⟩
      simp only [List.count_cons, beq_self_eq_true, if_true] at hm hn
      simp [paintRow, List.replicate_succ, ih (m := m) (n := n) (by omega) (by simpa using hn)]
    | false =>
      obtain ⟨n, rfl⟩ : ∃ k, n = k + 1 := ⟨n - 1, by simp at hn; omega⟩
      simp only [List.count_cons, beq_self_eq_true, if_true] at hm hn
      simp [paintRow, List.replicate_succ, ih (m := m) (n := n) (by simpa using hm) (by omega)]

theorem paintRows_replicate (on off : Colour) {m n : Nat} {rows : List (List Bool)}
    (hm : rows.flatten.count true ≤ m) (hn : rows.flatten.count false ≤ n) :
    paintRows (List.replicate m on) (List.replicate n off) rows =
      rows.map fun row => row.map fun lit => if lit then on else off := by
  induction rows generalizing m n with
  | nil => rfl
  | cons row rows ih =>
    simp only [List.flatten_cons, List.count_append] at hm hn
    simp only [paintRows, List.drop_replicate, List.map_cons]
    rw [paintRow_replicate on off (by omega) (by omega), ih (by omega) (by omega)]

theorem paintEach_replicate (b : Bitmap) (side : Nat) (on off : Colour) :
    paintEach b side (List.replicate (b.count true) on) (List.replicate (b.count false) off) =
      paint b side on off := by
  simp only [paintEach, paint, Bitmap.count]
  rw [paintRows_replicate on off (Nat.le_refl _) (Nat.le_refl _)]

/-! ## Sizes -/

theorem length_repeatEach {α : Type} (n : Nat) (xs : List α) :
    (repeatEach n xs).length = xs.length * n := by
  induction xs with
  | nil => simp [repeatEach]
  | cons x xs ih => simp_all [repeatEach, Nat.succ_mul, Nat.add_comm]

theorem getElem?_repeatEach {α : Type} {n : Nat} (h : 0 < n) (xs : List α) (i : Nat) :
    (repeatEach n xs)[i]? = xs[i / n]? := by
  induction xs generalizing i with
  | nil => simp [repeatEach]
  | cons x xs ih =>
    have hcons : repeatEach n (x :: xs) = List.replicate n x ++ repeatEach n xs := rfl
    rw [hcons, List.getElem?_append, List.length_replicate]
    split
    · rename_i hi
      simp [Nat.div_eq_of_lt hi, hi]
    · rename_i hi
      rw [ih, Nat.div_eq_sub_div (a := i) h (by omega), List.getElem?_cons_succ]

/-- Nothing is lost when each element is repeated. -/
theorem repeatEach_inj {α : Type} {n : Nat} (h : 0 < n) {xs ys : List α} :
    repeatEach n xs = repeatEach n ys ↔ xs = ys := by
  refine ⟨fun heq => List.ext_getElem? fun i => ?_, fun heq => heq ▸ rfl⟩
  have hi := congrArg (·[i * n]?) heq
  simpa only [getElem?_repeatEach h, Nat.mul_div_cancel _ h] using hi

theorem length_rows (i : Image) : i.rows.length = i.height := by
  simp [rows, height, length_repeatEach]

theorem length_of_mem_rows {i : Image} (h : ∀ row ∈ i.squares, row.length = i.columns)
    {row : List Colour} (hrow : row ∈ i.rows) : row.length = i.width := by
  obtain ⟨wide, hwide, hmem⟩ := List.mem_flatMap.1 hrow
  obtain ⟨squares, hsquares, rfl⟩ := List.mem_map.1 hwide
  rw [List.eq_of_mem_replicate hmem, length_repeatEach, h squares hsquares, width]

/-- The colour of a pixel is that of the square that it is in. -/
theorem getElem?_rows {i : Image} (h : 0 < i.side) (y x : Nat) :
    i.rows[y]?.bind (·[x]?) = i.squares[y / i.side]?.bind (·[x / i.side]?) := by
  rw [rows, getElem?_repeatEach h, List.getElem?_map]
  cases i.squares[y / i.side]? with
  | none => rfl
  | some row => exact getElem?_repeatEach h row x

/-- Images with sides of one length are known by their pixels. -/
theorem rows_inj {i j : Image} (h : 0 < i.side) (hside : i.side = j.side) :
    i.rows = j.rows ↔ i.squares = j.squares := by
  rw [rows, rows, ← hside, repeatEach_inj h]
  exact List.map_inj_right fun _ _ => (repeatEach_inj h).1

theorem width_paint (b : Bitmap) (side : Nat) (on off : Colour) :
    (paint b side on off).width = b.width * side := rfl

theorem height_paint (b : Bitmap) (side : Nat) (on off : Colour) :
    (paint b side on off).height = b.height * side := by
  simp [height, paint, Bitmap.length_rows]

/-! ## Images that can be made -/

section Making

variable (room : Room)

/-- An array of colours with some rows and columns can be made if there is room for its bytes. -/
theorem checkArray_of_pos {height width : Nat} (hheight : 0 < height) (hwidth : 0 < width) :
    checkArray room height width =
      if arrayLimit < 3 * height * width then .error .malformed
      else if room (3 * height * width) then .ok () else .error .outOfMemory := by
  have hsize : arraySize height width = 3 * height * width := by
    rw [arraySize, Nat.max_eq_left hheight, Nat.max_eq_left hwidth]
  have hrows : height ≤ 3 * height * width :=
    Nat.le_trans (Nat.le_mul_of_pos_left height (by decide)) (Nat.le_mul_of_pos_right _ hwidth)
  have hcolumns : width ≤ 3 * height * width := Nat.le_mul_of_pos_left width (by omega)
  rw [checkArray, hsize]
  by_cases hlarge : arrayLimit < 3 * height * width
  · rw [if_pos (.inr (.inr hlarge)), if_pos hlarge]
  · rw [if_neg (by omega), if_neg hlarge]
    cases room (3 * height * width) <;> simp [hheight]

variable {i : Image} (hheight : 0 < i.height) (hwidth : 0 < i.width)

include hheight hwidth

theorem checkSize_of_pos :
    i.checkSize room =
      if arrayLimit < i.side then .error .outOfRange
      else if arrayLimit < 3 * i.height * i.columns then .error .malformed
      else if room (3 * i.height * i.columns) = false then .error .outOfMemory
      else if arrayLimit < 3 * i.height * i.width then .error .malformed
      else if room (3 * i.height * i.width) then .ok () else .error .outOfMemory := by
  have hcolumns : 0 < i.columns := Nat.pos_of_mul_pos_right hwidth
  rw [checkSize, checkArray_of_pos room hheight hcolumns, checkArray_of_pos room hheight hwidth]
  split
  · rfl
  · split
    · rfl
    · cases room (3 * i.height * i.columns) <;> rfl

/-- The array that is widened downwards alone is smaller, and so is the side of the squares. -/
theorem size_bounds :
    i.side ≤ 3 * i.height * i.width ∧ 3 * i.height * i.columns ≤ 3 * i.height * i.width := by
  have hcolumns : 0 < i.columns := Nat.pos_of_mul_pos_right hwidth
  have hside : 0 < i.side := Nat.pos_of_mul_pos_left hwidth
  have hwide : i.side ≤ i.width := Nat.le_mul_of_pos_left i.side hcolumns
  exact ⟨Nat.le_trans hwide (Nat.le_mul_of_pos_left i.width (by omega)),
    Nat.mul_le_mul_left _ (Nat.le_mul_of_pos_right _ hside)⟩

/-- An image that is not too large for an array can be made if there is room for both arrays. -/
theorem checkSize_of_le (hsize : 3 * i.height * i.width ≤ arrayLimit) :
    i.checkSize room =
      if room (3 * i.height * i.columns) && room (3 * i.height * i.width) then .ok ()
      else .error .outOfMemory := by
  obtain ⟨hside, hnarrow⟩ := size_bounds hheight hwidth
  rw [checkSize_of_pos room hheight hwidth, if_neg (by omega), if_neg (by omega)]
  cases room (3 * i.height * i.columns)
  · rfl
  · rw [if_neg (by decide), if_neg (by omega)]
    rfl

/-- An image that is too large for an array is refused, unless there was no room for the array that
is made first. -/
theorem checkSize_of_gt (hside : i.side ≤ arrayLimit) (hsize : arrayLimit < 3 * i.height * i.width)
    (hroom : 3 * i.height * i.columns ≤ arrayLimit → room (3 * i.height * i.columns) = true) :
    i.checkSize room = .error .malformed := by
  rw [checkSize_of_pos room hheight hwidth, if_neg (by omega)]
  by_cases hnarrow : arrayLimit < 3 * i.height * i.columns
  · rw [if_pos hnarrow]
  · rw [if_neg hnarrow, if_neg (by rw [hroom (by omega)]; decide), if_pos hsize]

end Making

theorem checkSize_of_side {i : Image} (room : Room) (h : arrayLimit < i.side) :
    i.checkSize room = .error .outOfRange := by
  rw [checkSize, if_pos h]
  rfl

/-- With one colour for lit and one for dark pixels only the size of the image can be refused. -/
theorem ofBitmap_parts {b : Bitmap} {scale : HostNumber} {side : Nat} (hb : 0 < b.width)
    (hscale : scale.below 1 = false) (hside : sideOfScale scale = .ok side) (on off : Colour)
    (room : Room) :
    ofBitmap b scale on.parts off.parts room =
      ((paint b side on off).checkSize room).map fun _ => paint b side on off := by
  have hcolumns : b.columns.isEmpty = false := by
    rw [List.isEmpty_eq_false_iff, ← List.length_pos_iff]
    exact hb
  unfold ofBitmap
  rw [hscale, hcolumns, Colour.ofHost_parts, Colour.ofHost_parts, hside]
  simp only [Bool.false_eq_true, if_false, bind, Except.bind, paintEach_replicate]
  cases (paint b side on off).checkSize room <;> rfl

end Image

end Chip8
