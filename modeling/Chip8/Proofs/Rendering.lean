import Chip8.Picture.Image

/-!
# Pictures as images and as texts

A picture is kept by its columns, and its image and its text have it by rows; in the image each
pixel is widened to a square. `IsGrid` says which function a list of rows is the table of, and that
is shown of the rows of a picture, of the lines of its text and of the rows of its image
(`grid_rows`, `grid_lines`, `grid_image`). Nothing is lost on the way to the text or to the image,
since a table has one function (`IsGrid.unique`) and a function one table of a size (`IsGrid.ext`).

**`image_and_text_agree`** has both tables, for a picture of any size, a scale of one or more and a
host with any room in memory, and says how an image is refused that is too large for that room or
for any array. Image, text and picture can be told from one another, and every scale below one is
refused.
-/

namespace Chip8

/-! ## Tables -/

/-- Rows of one length that have in each place the value of a function of the column and the row. -/
structure IsGrid {α : Type} (rows : List (List α)) (width height : Nat) (cell : Nat → Nat → α) :
    Prop where
  length_rows : rows.length = height
  length_of_mem : ∀ row ∈ rows, row.length = width
  getElem_rows : ∀ x < width, ∀ y < height, rows[y]?.bind (·[x]?) = some (cell x y)

theorem IsGrid.map {α β : Type} {rows : List (List α)} {width height : Nat}
    {cell : Nat → Nat → α} (h : IsGrid rows width height cell) (f : α → β) :
    IsGrid (rows.map fun row => row.map f) width height fun x y => f (cell x y) where
  length_rows := by rw [List.length_map, h.length_rows]
  length_of_mem row hrow := by
    obtain ⟨row, hmem, rfl⟩ := List.mem_map.1 hrow
    rw [List.length_map, h.length_of_mem row hmem]
  getElem_rows x hx y hy := by
    obtain ⟨row, hrow, hcell⟩ := Option.bind_eq_some_iff.1 (h.getElem_rows x hx y hy)
    rw [List.getElem?_map, hrow]
    show (row.map f)[x]? = _
    rw [List.getElem?_map, hcell, Option.map_some]

/-- A list of rows is the table of one function at most. -/
theorem IsGrid.unique {α : Type} {rows : List (List α)} {width width' height height' : Nat}
    {cell cell' : Nat → Nat → α} (h : IsGrid rows width height cell)
    (h' : IsGrid rows width' height' cell') (hheight : 0 < height) :
    width = width' ∧ height = height' ∧ ∀ x < width, ∀ y < height, cell x y = cell' x y := by
  obtain rfl : height = height' := h.length_rows.symm.trans h'.length_rows
  obtain ⟨row, hrow⟩ := List.exists_mem_of_length_pos (h.length_rows.symm ▸ hheight)
  obtain rfl : width = width' :=
    (h.length_of_mem row hrow).symm.trans (h'.length_of_mem row hrow)
  refine ⟨rfl, rfl, fun x hx y hy => ?_⟩
  exact Option.some.inj ((h.getElem_rows x hx y hy).symm.trans (h'.getElem_rows x hx y hy))

/-- A function is that of one table of a size. -/
theorem IsGrid.ext {α : Type} {rows rows' : List (List α)} {width height : Nat}
    {cell cell' : Nat → Nat → α} (h : IsGrid rows width height cell)
    (h' : IsGrid rows' width height cell')
    (hcell : ∀ x < width, ∀ y < height, cell x y = cell' x y) : rows = rows' := by
  refine List.ext_getElem (h.length_rows.trans h'.length_rows.symm) fun y hy hy' => ?_
  have hwidth := h.length_of_mem _ (List.getElem_mem hy)
  have hwidth' := h'.length_of_mem _ (List.getElem_mem hy')
  refine List.ext_getElem? fun x => ?_
  by_cases hx : x < width
  · have hrow : y < height := h.length_rows ▸ hy
    have hleft := h.getElem_rows x hx y hrow
    have hright := h'.getElem_rows x hx y hrow
    rw [List.getElem?_eq_getElem hy] at hleft
    rw [List.getElem?_eq_getElem hy', ← hcell x hx y hrow] at hright
    exact hleft.trans hright.symm
  · rw [List.getElem?_eq_none (by omega), List.getElem?_eq_none (by omega)]

/-- An image is a table with the colour of its square for each pixel. -/
theorem Image.grid_rows {i : Image} {height : Nat} {cell : Nat → Nat → Colour} (hside : 0 < i.side)
    (h : IsGrid i.squares i.columns height cell) :
    IsGrid i.rows i.width (height * i.side) fun x y => cell (x / i.side) (y / i.side) where
  length_rows := by rw [Image.length_rows, Image.height, h.length_rows]
  length_of_mem row hrow := Image.length_of_mem_rows h.length_of_mem hrow
  getElem_rows x hx y hy := by
    rw [Image.getElem?_rows hside]
    have hcolumn : x / i.side < i.columns := (Nat.div_lt_iff_lt_mul hside).2 hx
    have hrow : y / i.side < height := (Nat.div_lt_iff_lt_mul hside).2 hy
    exact h.getElem_rows _ hcolumn _ hrow

namespace Bitmap

/-- The columns have one length, and there is at least one pixel. -/
structure IsPicture (b : Bitmap) : Prop where
  rectangular : b.isRectangular = true
  width_pos : 0 < b.width
  height_pos : 0 < b.height

theorem grid_rows (b : Bitmap) : IsGrid b.rows b.width b.height b.pixel where
  length_rows := b.length_rows
  length_of_mem _ := length_of_mem_rows
  getElem_rows _ hx _ hy := b.getElem_rows hy hx

/-- The columns are a table with rows and columns changed over. -/
theorem grid_columns {b : Bitmap} (hb : b.isRectangular = true) :
    IsGrid b.columns b.height b.width fun y x => b.pixel x y where
  length_rows := rfl
  length_of_mem c hc := beq_iff_eq.1 (List.all_eq_true.1 hb c hc)
  getElem_rows y hy x hx := by
    have hx' : x < b.columns.length := hx
    have hlength : b.columns[x].length = b.height :=
      beq_iff_eq.1 (List.all_eq_true.1 hb _ (List.getElem_mem hx'))
    rw [pixel]
    simp [hx', hlength, hy]

theorem grid_lines (b : Bitmap) : IsGrid (b.toLines defaultOn defaultOff) b.width b.height
    fun x y => .char (if b.pixel x y then '#' else '.') := by
  rw [toLines_default]
  exact b.grid_rows.map _

theorem grid_image (b : Bitmap) {side : Nat} (hside : 0 < side) (on off : Colour) :
    IsGrid (Image.paint b side on off).rows (b.width * side) (b.height * side)
      fun x y => if b.pixel (x / side) (y / side) then on else off := by
  have hsquares : IsGrid (Image.paint b side on off).squares b.width b.height
      fun x y => if b.pixel x y then on else off :=
    b.grid_rows.map fun lit => if lit then on else off
  exact Image.grid_rows (i := Image.paint b side on off) hside hsquares

/-! ## Nothing is lost -/

variable {b b' : Bitmap}

/-- A picture is known by its rows. -/
theorem rows_inj (hb : b.IsPicture) (hb' : b'.IsPicture) : b.rows = b'.rows ↔ b = b' := by
  refine ⟨fun h => ?_, fun h => h ▸ rfl⟩
  obtain ⟨hwidth, hheight, hpixel⟩ := b.grid_rows.unique (h ▸ b'.grid_rows) hb.height_pos
  have hcolumns : b.columns = b'.columns := by
    refine (grid_columns hb.rectangular).ext ?_ fun y hy x hx => hpixel x hx y hy
    rw [hwidth, hheight]
    exact grid_columns hb'.rectangular
  cases b
  cases b'
  exact congrArg mk hcolumns

/-- A picture is known by a table in which lit and dark pixels can be told apart. -/
theorem map_rows_inj {α : Type} {f : Bool → α} (hf : f true ≠ f false) (hb : b.IsPicture)
    (hb' : b'.IsPicture) :
    (b.rows.map fun row => row.map f) = (b'.rows.map fun row => row.map f) ↔ b = b' := by
  have hinj (lit lit' : Bool) (h : f lit = f lit') : lit = lit' := by
    cases lit <;> cases lit'
    · rfl
    · exact absurd h.symm hf
    · exact absurd h hf
    · rfl
  rw [List.map_inj_right fun _ _ => (List.map_inj_right hinj).1, rows_inj hb hb']

/-- A picture is known by its text. -/
theorem toText_inj (hb : b.IsPicture) (hb' : b'.IsPicture) :
    b.toText defaultOn defaultOff = b'.toText defaultOn defaultOff ↔ b = b' := by
  refine ⟨fun h => ?_, fun h => h ▸ rfl⟩
  have hlines := congrArg Text.lines h
  rw [lines_toText hb.height_pos, lines_toText hb'.height_pos, toLines_default, toLines_default]
    at hlines
  exact (map_rows_inj (by decide) hb hb').1 hlines

/-- A picture is known by its image in two colours. -/
theorem rows_paint_inj {side : Nat} {on off : Colour} (hside : 0 < side) (hcolours : on ≠ off)
    (hb : b.IsPicture) (hb' : b'.IsPicture) :
    (Image.paint b side on off).rows = (Image.paint b' side on off).rows ↔ b = b' := by
  have hsides : (Image.paint b side on off).side = (Image.paint b' side on off).side := rfl
  rw [Image.rows_inj hside hsides]
  exact map_rows_inj hcolours hb hb'

end Bitmap

/-! ## Images and texts -/

section Making

variable {b : Bitmap} {s : Nat} (hb : b.IsPicture) (hs : 1 ≤ s) (on off : Colour)
  (room : Image.Room)

include hb hs

/-- Whether there is an image of a picture is a question of its size alone. -/
theorem ofBitmap_picture :
    Image.ofBitmap b (.int s) on.parts off.parts room =
      ((Image.paint b s on off).checkSize room).map fun _ => Image.paint b s on off := by
  have hscale : (HostNumber.int s).below 1 = false := by
    show decide ((s : Int) < 1) = false
    exact decide_eq_false (by omega)
  have hwhole : Image.sideOfScale (.int s) = .ok s := by
    show Except.ok (max 1 (s : Int)).toNat = _
    rw [show (max 1 (s : Int)).toNat = s by omega]
  exact Image.ofBitmap_parts hb.width_pos hscale hwhole on off room

theorem height_paint_pos : 0 < (Image.paint b s on off).height := by
  rw [Image.height_paint]
  exact Nat.mul_pos hb.height_pos hs

theorem width_paint_pos : 0 < (Image.paint b s on off).width := Nat.mul_pos hb.width_pos hs

/-- An image that is not too large for an array is there if its host has room for it. -/
theorem ofBitmap_of_le (hsize : 3 * (b.height * s) * (b.width * s) ≤ Image.arrayLimit) :
    Image.ofBitmap b (.int s) on.parts off.parts room =
      if room (3 * (b.height * s) * b.width) && room (3 * (b.height * s) * (b.width * s)) then
        .ok (Image.paint b s on off)
      else .error .outOfMemory := by
  have hcheck := Image.checkSize_of_le room (height_paint_pos hb hs on off)
    (width_paint_pos hb hs on off) (by rwa [Image.height_paint, Image.width_paint])
  rw [Image.height_paint, Image.width_paint] at hcheck
  rw [ofBitmap_picture hb hs, hcheck]
  show (if room (3 * (b.height * s) * b.width) && room (3 * (b.height * s) * (b.width * s)) then
    Except.ok () else Except.error Failure.outOfMemory).map _ = _
  split <;> rfl

theorem ofBitmap_of_gt (hlimit : b.height * s ≤ Image.arrayLimit)
    (hsize : Image.arrayLimit < 3 * (b.height * s) * (b.width * s))
    (hroom : 3 * (b.height * s) * b.width ≤ Image.arrayLimit →
      room (3 * (b.height * s) * b.width) = true) :
    Image.ofBitmap b (.int s) on.parts off.parts room = .error .malformed := by
  have hside : (Image.paint b s on off).side ≤ Image.arrayLimit :=
    Nat.le_trans (Nat.le_mul_of_pos_left s hb.height_pos) hlimit
  have hcheck := Image.checkSize_of_gt room (height_paint_pos hb hs on off)
    (width_paint_pos hb hs on off) hside (by rwa [Image.height_paint, Image.width_paint])
    (by rw [Image.height_paint]; exact hroom)
  rw [ofBitmap_picture hb hs, hcheck]
  rfl

theorem ofBitmap_of_side (hside : Image.arrayLimit < s) :
    Image.ofBitmap b (.int s) on.parts off.parts room = .error .outOfRange := by
  rw [ofBitmap_picture hb hs, Image.checkSize_of_side room hside]
  rfl

/-- If there is an image, it is the painted picture. -/
theorem eq_paint_of_ofBitmap {i : Image}
    (h : Image.ofBitmap b (.int s) on.parts off.parts room = .ok i) :
    Image.paint b s on off = i := by
  rw [ofBitmap_picture hb hs] at h
  cases hcheck : (Image.paint b s on off).checkSize room with
  | error f =>
    rw [hcheck] at h
    cases h
  | ok u =>
    rw [hcheck] at h
    exact Except.ok.inj h

end Making

/-- **The image and the text show the same picture.** Take any picture, a whole scale of one or
more, two colours, and a host with whatever room in memory. If the bytes of the image can be counted
in 63 bits, the image has the colour of a pixel in the whole square of that pixel, or there is no
room for it or for the array in which the rows alone are widened. If they cannot, the image is
refused, and a scale of more than 63 bits is no number for an array at all. The text has a line for
each row, with a sign for each pixel. If the colours differ, two pictures with one image have one
text, and pictures with one text are one picture. A scale below one is refused for whatever
bitmap. -/
theorem image_and_text_agree {b : Bitmap} {s : Nat} (hb : b.IsPicture) (hs : 1 ≤ s)
    (on off : Colour) (room : Image.Room) :
    (3 * (b.height * s) * (b.width * s) ≤ Image.arrayLimit →
      if room (3 * (b.height * s) * b.width) && room (3 * (b.height * s) * (b.width * s)) then
        ∃ i, Image.ofBitmap b (.int s) on.parts off.parts room = .ok i ∧
          IsGrid i.rows (b.width * s) (b.height * s)
            fun c r => if b.pixel (c / s) (r / s) then on else off
      else Image.ofBitmap b (.int s) on.parts off.parts room = .error .outOfMemory) ∧
    (b.height * s ≤ Image.arrayLimit → Image.arrayLimit < 3 * (b.height * s) * (b.width * s) →
      (3 * (b.height * s) * b.width ≤ Image.arrayLimit →
        room (3 * (b.height * s) * b.width) = true) →
      Image.ofBitmap b (.int s) on.parts off.parts room = .error .malformed) ∧
    (Image.arrayLimit < s →
      Image.ofBitmap b (.int s) on.parts off.parts room = .error .outOfRange) ∧
    IsGrid (b.toText Bitmap.defaultOn Bitmap.defaultOff).lines b.width b.height
      (fun x y => .char (if b.pixel x y then '#' else '.')) ∧
    (on ≠ off → ∀ b' : Bitmap, b'.IsPicture → ∀ i i' : Image,
      Image.ofBitmap b (.int s) on.parts off.parts room = .ok i →
      Image.ofBitmap b' (.int s) on.parts off.parts room = .ok i' →
        (i.rows = i'.rows ↔ b.toText Bitmap.defaultOn Bitmap.defaultOff =
          b'.toText Bitmap.defaultOn Bitmap.defaultOff) ∧
        (b.toText Bitmap.defaultOn Bitmap.defaultOff =
          b'.toText Bitmap.defaultOn Bitmap.defaultOff ↔ b = b')) ∧
    ∀ (c : Bitmap) (scale : HostNumber), scale.below 1 = true →
      Image.ofBitmap c scale on.parts off.parts room =
        .error (.showing .scaleTooSmall scale.toValue) := by
  refine ⟨fun hsize => ?_, ofBitmap_of_gt hb hs on off room, ofBitmap_of_side hb hs on off room,
    ?_, ?_, ?_⟩
  · rw [ofBitmap_of_le hb hs on off room hsize]
    split
    · exact ⟨_, rfl, b.grid_image hs on off⟩
    · rfl
  · rw [Bitmap.lines_toText hb.height_pos]
    exact b.grid_lines
  · intro hcolours b' hb' i i' himage himage'
    obtain rfl := eq_paint_of_ofBitmap hb hs on off room himage
    obtain rfl := eq_paint_of_ofBitmap hb' hs on off room himage'
    have htext := Bitmap.toText_inj hb hb'
    exact ⟨(Bitmap.rows_paint_inj hs hcolours hb hb').trans htext.symm, htext⟩
  · intro c scale hscale
    rw [Image.ofBitmap, if_pos hscale]

/-- A picture of two columns and three rows, with its first and its last pixel lit. -/
def corners : Bitmap := ⟨[[true, false, false], [false, false, true]]⟩

/-- Room for a number of bytes. -/
def roomFor (bytes : Nat) : Image.Room := fun n => n ≤ bytes

/-- The last pixel is the square below on the right, and there is nothing to the left of it. Its
host has just the room that is needed. -/
theorem corners_doubled :
    corners.IsPicture ∧ 1 ≤ 2 ∧
    ∃ i, Image.ofBitmap corners (.int 2) defaultOnColour.parts defaultOffColour.parts (roomFor 72) =
        .ok i ∧
      i.rows.length = 6 ∧ i.rows[5]?.bind (·[2]?) = some defaultOnColour ∧
      i.rows[5]?.bind (·[1]?) = some defaultOffColour := by
  have hcorners : corners.IsPicture := ⟨rfl, by decide, by decide⟩
  obtain ⟨hmade, -⟩ := image_and_text_agree hcorners (by decide : 1 ≤ 2) defaultOnColour
    defaultOffColour (roomFor 72)
  obtain ⟨i, himage, hgrid⟩ := hmade (by decide)
  exact ⟨hcorners, by decide, i, himage, hgrid.length_rows,
    hgrid.getElem_rows 2 (by decide) 5 (by decide), hgrid.getElem_rows 1 (by decide) 5 (by decide)⟩

/-- A picture of one lit pixel. -/
def dot : Bitmap := ⟨[[true]]⟩

/-- A scale of one or more may be too large. It is a number of 63 bits, and so is the number of
bytes of the image, whatever room its host has; and a host with room for a number of bytes has none
for more. -/
theorem dot_too_large :
    dot.IsPicture ∧
    (∀ room, Image.ofBitmap dot (.int 0x8000000000000000) defaultOnColour.parts
      defaultOffColour.parts room = .error .outOfRange) ∧
    (∀ room, Image.ofBitmap dot (.int 0x4000000000000000) defaultOnColour.parts
      defaultOffColour.parts room = .error .malformed) ∧
    Image.ofBitmap dot (.int 0x100000) defaultOnColour.parts defaultOffColour.parts
      (roomFor 0x2000000000) = .error .outOfMemory := by
  have hdot : dot.IsPicture := ⟨rfl, by decide, by decide⟩
  have hbits : Image.arrayLimit < 3 * (dot.height * 0x4000000000000000) * dot.width := by decide
  refine ⟨hdot, fun room => ?_, fun room => ?_, ?_⟩
  · exact ofBitmap_of_side hdot (s := 0x8000000000000000) (by decide) _ _ room (by decide)
  · exact ofBitmap_of_gt hdot (s := 0x4000000000000000) (by decide) _ _ room (by decide)
      (by decide) fun h => absurd h (Nat.not_le.2 hbits)
  · have hsize : 3 * (dot.height * 0x100000) * (dot.width * 0x100000) ≤ Image.arrayLimit := by
      decide
    rw [show (HostNumber.int 0x100000) = .int (0x100000 : Nat) from rfl,
      ofBitmap_of_le hdot (by decide) _ _ _ hsize, if_neg (by decide)]

end Chip8
