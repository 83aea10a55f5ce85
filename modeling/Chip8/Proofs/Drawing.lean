import Chip8.Proofs.Decoding
import Chip8.Proofs.Slot
import Chip8.Proofs.Sprite
import Mathlib.Data.List.Nodup
import Mathlib.Data.List.ProdSigma

/-!
# Drawing pixel by pixel

A drawing word makes the picture of its sprite and takes the exclusive or of the display with it in
one go. Here this is compared with the loop that it stands for (`Stamp.drawOn`): over the rows of
the sprite and the bits of each row, flip the pixel on which a set bit falls and remember whether it
was lit.

Both come to the same because no two bits of a sprite fall on one pixel (`Stamp.place_injOn`): a
sprite is smaller than the screen along both axes, so it wraps around but not onto itself. A pixel
is therefore as lit when the loop comes to it as it was at the start.

The picture can also be made from a window that always has fifteen rows, whatever the height, by
putting each of its bits in place and the bits of the rows that are not wanted as dark ones
(`Stamp.ofWindow`). What the window has in those rows, which may lie behind the end of memory, makes
no difference.

**`draw_flips_sprite`.** A drawing word whose rows are in memory does not fault. It flips the pixels
on which a set bit falls, each for one bit, and no others; its flag tells whether one of them was
lit; and it does what the loop does.
-/

namespace Chip8

namespace Display

/-! ## Places on the screen -/

/-- A column and a row of the screen. -/
abbrev Position := Fin screenWidth × Fin screenHeight

/-- Whether the pixel at a place is lit. -/
def lit (d : Display) (p : Position) : Bool := d.pixel p.1 p.2

/-- The picture with the pixel at a place flipped. -/
def flip (d : Display) (p : Position) : Display :=
  ⟨d.rows.set p.2 (d.rows[p.2] ^^^ BitVec.twoPow screenWidth (screenWidth - 1 - p.1))⟩

/-- The picture with the pixel at a place lit or dark. -/
def put (d : Display) (p : Position) (b : Bool) : Display := if d.lit p = b then d else d.flip p

variable {d e : Display}

theorem ext_lit (h : ∀ p, d.lit p = e.lit p) : d = e := ext_pixel fun x y => h (x, y)

theorem lit_blank (p : Position) : blank.lit p = false := pixel_blank ..

theorem lit_xor (d e : Display) (p : Position) : (d.xor e).lit p = (d.lit p ^^ e.lit p) :=
  pixel_xor ..

theorem getMsbD_twoPow_column (x x' : Fin screenWidth) :
    (BitVec.twoPow screenWidth (screenWidth - 1 - x)).getMsbD x' = decide (x = x') := by
  have hx := x.isLt
  have hx' := x'.isLt
  rw [BitVec.getMsbD_twoPow, decide_eq_true (by omega), Bool.true_and, decide_eq_decide,
    Fin.ext_iff]
  omega

theorem lit_flip (d : Display) (p q : Position) :
    (d.flip p).lit q = (d.lit q ^^ decide (p = q)) := by
  obtain ⟨x, y⟩ := p
  obtain ⟨x', y'⟩ := q
  simp only [lit, pixel, flip, Fin.getElem_fin, Vector.getElem_set, Prod.mk.injEq]
  by_cases hy : y = y'
  · subst hy
    rw [if_pos rfl, BitVec.getMsbD_xor, getMsbD_twoPow_column]
    simp
  · have hne : (y : Nat) ≠ y' := fun h => hy (Fin.ext h)
    simp [hy, hne]

theorem lit_put (d : Display) (p q : Position) (b : Bool) :
    (d.put p b).lit q = if p = q then b else d.lit q := by
  unfold put
  by_cases hb : d.lit p = b
  · rw [if_pos hb]
    split
    · subst p
      exact hb
    · rfl
  · rw [if_neg hb, lit_flip]
    split
    · subst p
      cases b <;> simp_all
    · simp_all

theorem overlaps_iff : d.overlaps e = true ↔ ∃ p, d.lit p = true ∧ e.lit p = true := by
  have hrow (y : Fin screenHeight) : (d.rows[y] &&& e.rows[y] != 0) = true ↔
      ∃ x : Fin screenWidth, d.lit (x, y) = true ∧ e.lit (x, y) = true := by
    rw [bne_iff_ne, Ne, ← not_iff_not, not_not, not_exists]
    constructor
    · intro h x hx
      have hbit := congrArg (·.getMsbD x) h
      simp only [BitVec.getMsbD_and] at hbit
      exact absurd (Bool.and_eq_true_iff.2 hx) (by simpa [lit, pixel] using hbit)
    · intro h
      refine BitVec.eq_of_getMsbD_eq fun x hx => ?_
      have hbit := h ⟨x, hx⟩
      simp only [lit, pixel, ← Bool.and_eq_true_iff] at hbit
      simpa [BitVec.getMsbD_and] using hbit
  simp only [overlaps, List.any_eq_true, List.mem_finRange, true_and, hrow]
  exact ⟨fun ⟨y, x, h⟩ => ⟨(x, y), h⟩, fun ⟨p, h⟩ => ⟨p.2, p.1, h⟩⟩

end Display

/-! ## Flipping pixels one after the other -/

open Display

/-- A display that is drawn on, and whether a lit pixel has been flipped so far. -/
structure Canvas where
  display : Display
  struck : Bool

namespace Canvas

/-- Flip the pixel at a place, and remember if it was lit. -/
def touch (g : Canvas) (p : Position) : Canvas := ⟨g.display.flip p, g.struck || g.display.lit p⟩

theorem lit_foldl_touch {ps : List Position} (hps : ps.Nodup) (g : Canvas) (q : Position) :
    (ps.foldl touch g).display.lit q = true ↔ (g.display.lit q = true ↔ q ∉ ps) := by
  induction ps generalizing g with
  | nil => simp
  | cons p ps ih =>
    obtain ⟨hp, hps⟩ := List.nodup_cons.1 hps
    rw [List.foldl_cons, ih hps, touch, lit_flip]
    by_cases hq : p = q
    · subst hq
      simp [hp]
    · simp [hq, Ne.symm hq]

theorem struck_foldl_touch {ps : List Position} (hps : ps.Nodup) (g : Canvas) :
    (ps.foldl touch g).struck = true ↔
      g.struck = true ∨ ∃ p ∈ ps, g.display.lit p = true := by
  induction ps generalizing g with
  | nil => simp
  | cons p ps ih =>
    obtain ⟨hp, hps⟩ := List.nodup_cons.1 hps
    -- The pixels that are still to come are as they were: `p` is not among them.
    have hrest : (∃ q ∈ ps, (g.display.flip p).lit q = true) ↔
        ∃ q ∈ ps, g.display.lit q = true := by
      refine exists_congr fun q => and_congr_right fun hq => ?_
      have hne : p ≠ q := fun h => hp (h ▸ hq)
      rw [lit_flip, decide_eq_false hne, Bool.xor_false]
    rw [List.foldl_cons, ih hps]
    simp only [touch, hrest, Bool.or_eq_true, List.exists_mem_cons_iff, or_assoc]

end Canvas

/-! ## Sprites and the pixels of their bits -/

/-- A sprite with the place of its upper left corner. -/
structure Stamp where
  bytes : Nat → Byte
  height : Nibble
  column : Byte
  row : Byte

namespace Stamp

variable {a : Stamp}

/-- The picture of the sprite alone. -/
def picture (a : Stamp) : Display :=
  .sprite a.bytes a.height.toNat a.column.toNat a.row.toNat

/-- The bit in row `k.1` and column `k.2` of the sprite is set, counted from the upper left. -/
def isSet (a : Stamp) (k : Nat × Nat) : Bool := (a.bytes k.1).getLsbD (spriteWidth - 1 - k.2)

/-- The place of a bit, wrapped around the edges of the screen. -/
def place (a : Stamp) (k : Nat × Nat) : Position :=
  (Fin.ofNat screenWidth (a.column.toNat + k.2), Fin.ofNat screenHeight (a.row.toNat + k.1))

/-- A set bit of the sprite falls on the pixel at a place. -/
def FallsOn (a : Stamp) (k : Nat × Nat) (p : Position) : Prop :=
  k.1 < a.height.toNat ∧ k.2 < spriteWidth ∧ a.isSet k = true ∧ a.place k = p

/-- The bits of a sprite with a number of rows, row by row and from left to right. -/
def bitsOf (height : Nat) : List (Nat × Nat) := List.range height ×ˢ List.range spriteWidth

theorem mem_bitsOf {height : Nat} {k : Nat × Nat} :
    k ∈ bitsOf height ↔ k.1 < height ∧ k.2 < spriteWidth := by
  rw [bitsOf, List.mem_product, List.mem_range, List.mem_range]

theorem nodup_bitsOf (height : Nat) : (bitsOf height).Nodup :=
  List.Nodup.product List.nodup_range List.nodup_range

/-- **A sprite does not fall on itself**: on a screen of 64 by 32, different bits of up to 32 rows
have different places. -/
theorem place_injOn {k k' : Nat × Nat} (hk : k ∈ bitsOf screenHeight)
    (hk' : k' ∈ bitsOf screenHeight) (h : a.place k = a.place k') : k = k' := by
  obtain ⟨hr, hc⟩ := mem_bitsOf.1 hk
  obtain ⟨hr', hc'⟩ := mem_bitsOf.1 hk'
  obtain ⟨hx, hy⟩ := Prod.ext_iff.1 h
  have hx : (a.column.toNat + k.2) % screenWidth = (a.column.toNat + k'.2) % screenWidth :=
    congrArg Fin.val hx
  have hy : (a.row.toNat + k.1) % screenHeight = (a.row.toNat + k'.1) % screenHeight :=
    congrArg Fin.val hy
  simp only [screenWidth, screenHeight, spriteWidth] at *
  exact Prod.ext (by omega) (by omega)

theorem height_lt (a : Stamp) : a.height.toNat < screenHeight :=
  Nat.lt_of_lt_of_le a.height.isLt (by decide)

theorem FallsOn.mem {k : Nat × Nat} {p : Position} (h : a.FallsOn k p) : k ∈ bitsOf screenHeight :=
  mem_bitsOf.2 ⟨Nat.lt_trans h.1 a.height_lt, h.2.1⟩

/-- At most one bit falls on a pixel. -/
theorem FallsOn.unique {k k' : Nat × Nat} {p : Position} (h : a.FallsOn k p) (h' : a.FallsOn k' p) :
    k = k' :=
  place_injOn h.mem h'.mem (h.2.2.2.trans h'.2.2.2.symm)

theorem lit_picture_iff {p : Position} : a.picture.lit p = true ↔ ∃ k, a.FallsOn k p := by
  have hbit {r c : Nat} (hc : c < spriteWidth) : (a.bytes r).getMsbD c = a.isSet (r, c) := by
    rw [BitVec.getMsbD_eq_getLsbD, decide_eq_true hc, Bool.true_and]
    rfl
  rw [lit, picture, pixel_sprite_iff (Nat.le_of_lt a.height_lt)]
  constructor
  · rintro ⟨r, hr, c, hc, hset, hx, hy⟩
    exact ⟨(r, c), hr, hc, hbit hc ▸ hset, Prod.ext (Fin.ext hx) (Fin.ext hy)⟩
  · rintro ⟨⟨r, c⟩, hr, hc, hset, rfl⟩
    exact ⟨r, hr, c, hc, (hbit hc).trans hset, rfl, rfl⟩

/-- The places of the set bits of the sprite. -/
def places (a : Stamp) : List Position := ((bitsOf a.height.toNat).filter a.isSet).map a.place

theorem mem_places_iff {p : Position} : p ∈ a.places ↔ a.picture.lit p = true := by
  rw [lit_picture_iff, places, List.mem_map]
  refine exists_congr fun k => ?_
  rw [List.mem_filter, mem_bitsOf, FallsOn, and_assoc, and_assoc]

theorem nodup_map_place (a : Stamp) {height : Nat} (h : height ≤ screenHeight) :
    ((bitsOf height).map a.place).Nodup := by
  refine List.Nodup.map_on (fun k hk k' hk' heq => ?_) (nodup_bitsOf height)
  obtain ⟨hr, hc⟩ := mem_bitsOf.1 hk
  obtain ⟨hr', hc'⟩ := mem_bitsOf.1 hk'
  exact place_injOn (mem_bitsOf.2 ⟨Nat.lt_of_lt_of_le hr h, hc⟩)
    (mem_bitsOf.2 ⟨Nat.lt_of_lt_of_le hr' h, hc'⟩) heq

theorem nodup_places (a : Stamp) : a.places.Nodup :=
  (a.nodup_map_place (Nat.le_of_lt a.height_lt)).sublist (List.filter_sublist.map _)

/-! ## The loop -/

/-- Draw a sprite on a display: for each row, and in it for each bit that is set, flip the pixel on
which the bit falls. -/
def drawOn (a : Stamp) (d : Display) : Canvas :=
  (List.range a.height.toNat).foldl
    (fun g r => (List.range spriteWidth).foldl
      (fun g c => if a.isSet (r, c) then g.touch (a.place (r, c)) else g) g)
    ⟨d, false⟩

theorem drawOn_eq_foldl (a : Stamp) (d : Display) :
    a.drawOn d = a.places.foldl Canvas.touch ⟨d, false⟩ := by
  simp only [drawOn, places, bitsOf, List.foldl_map, List.foldl_filter, SProd.sprod, List.product,
    List.foldl_flatMap]

/-- **The loop is the exclusive or** with the picture, and it strikes a lit pixel when the picture
overlaps the display. -/
theorem drawOn_eq (a : Stamp) (d : Display) :
    a.drawOn d = ⟨d.xor a.picture, d.overlaps a.picture⟩ := by
  have hdisplay : (a.drawOn d).display = d.xor a.picture := by
    refine ext_lit fun p => ?_
    rw [Bool.eq_iff_iff, drawOn_eq_foldl, Canvas.lit_foldl_touch a.nodup_places, mem_places_iff,
      lit_xor]
    cases d.lit p <;> cases a.picture.lit p <;> simp
  have hstruck : (a.drawOn d).struck = d.overlaps a.picture := by
    rw [Bool.eq_iff_iff, drawOn_eq_foldl, Canvas.struck_foldl_touch a.nodup_places, overlaps_iff]
    simp [mem_places_iff, and_comm]
  rw [← hdisplay, ← hstruck]

/-! ## Fifteen rows whatever the height -/

/-- The picture of a sprite from a window of rows: each bit of the window is put in its place, and
those in rows from the height on are put there as dark. -/
def ofWindow (a : Stamp) (window : List Byte) : Display :=
  (bitsOf window.length).foldl
    (fun d k => d.put (a.place k)
      (decide (k.1 < a.height.toNat) && (window.getD k.1 0).getLsbD (spriteWidth - 1 - k.2)))
    .blank

theorem lit_foldl_put {ks : List (Nat × Nat)} (value : Nat × Nat → Bool)
    (hks : (ks.map a.place).Nodup) (d : Display) (p : Position) :
    (ks.foldl (fun d k => d.put (a.place k) (value k)) d).lit p = true ↔
      (∃ k ∈ ks, a.place k = p ∧ value k = true) ∨ p ∉ ks.map a.place ∧ d.lit p = true := by
  induction ks generalizing d with
  | nil => simp
  | cons k ks ih =>
    obtain ⟨hk, hks⟩ := List.nodup_cons.1 hks
    rw [List.foldl_cons, ih hks, lit_put]
    by_cases hp : a.place k = p
    · subst hp
      have hrest : ¬ ∃ k' ∈ ks, a.place k' = a.place k ∧ value k' = true :=
        fun ⟨k', hk', heq, _⟩ => hk (heq ▸ List.mem_map_of_mem hk')
      simp [hk, hrest]
    · simp [hp, Ne.symm hp]

/-- **The rows that are not wanted make no difference**: a window that is right in the rows below
the height gives the picture. -/
theorem ofWindow_eq {window : List Byte} (hlength : window.length ≤ screenHeight)
    (hheight : a.height.toNat ≤ window.length)
    (hrows : ∀ r < a.height.toNat, window.getD r 0 = a.bytes r) :
    a.ofWindow window = a.picture := by
  refine ext_lit fun p => ?_
  rw [Bool.eq_iff_iff, ofWindow, lit_foldl_put _ (a.nodup_map_place hlength), lit_picture_iff]
  simp only [lit_blank, Bool.false_eq_true, and_false, or_false]
  refine exists_congr fun k => ?_
  simp only [mem_bitsOf, Bool.and_eq_true, decide_eq_true_eq, FallsOn]
  constructor
  · rintro ⟨⟨-, hc⟩, hplace, hr, hset⟩
    rw [hrows _ hr] at hset
    exact ⟨hr, hc, hset, hplace⟩
  · rintro ⟨hr, hc, hset, hplace⟩
    rw [isSet, ← hrows _ hr] at hset
    exact ⟨⟨Nat.lt_of_lt_of_le hr hheight, hc⟩, hplace, hr, hset⟩

end Stamp

/-! ## Drawing words -/

namespace State

variable {s t : State} {w : Word}

/-- The sprite at the index with a height, placed where two registers say. -/
def stamp (s : State) (x y height : Nibble) : Stamp where
  bytes r := s.memory.read (s.index.toNat + r)
  height := height
  column := s.registers.get x
  row := s.registers.get y

/-- The state `t` is what drawing a sprite makes of `s`. -/
structure Drawn (s : State) (a : Stamp) (t : State) : Prop where
  /-- The pixels that change are those on which a set bit falls. -/
  flips : ∀ p, t.display.lit p ≠ s.display.lit p ↔ ∃ k, a.FallsOn k p
  /-- No pixel is flipped for two bits. -/
  once : ∀ p k k', a.FallsOn k p → a.FallsOn k' p → k = k'
  /-- The flag tells whether a pixel that changes was lit. -/
  flag : (t.registers.get flagRegister = 1 ∧
      ∃ p, t.display.lit p ≠ s.display.lit p ∧ s.display.lit p = true) ∨
    (t.registers.get flagRegister = 0 ∧
      ¬ ∃ p, t.display.lit p ≠ s.display.lit p ∧ s.display.lit p = true)
  /-- The loop over rows and bits does the same, and all else is kept. -/
  by_loop : t = { s.advanced with
    display := (a.drawOn s.display).display
    registers := s.registers.setFlag (a.drawOn s.display).struck }
  /-- So does the exclusive or with the picture from fifteen rows. -/
  by_window : t.display =
    s.display.xor (a.ofWindow (s.memory.readAll s.index.toNat maxSpriteHeight))

theorem Drawn.display_eq {a : Stamp} (h : Drawn s a t) : t.display = s.display.xor a.picture := by
  rw [h.by_loop, Stamp.drawOn_eq]

theorem carriesOut_draw_iff (hw : w &&& 0xF000 = 0xD000) :
    s.CarriesOut w t ↔ s.leavesMemory (wordN w).toNat = false ∧
      s.advanced.drawSprite (wordX w) (wordY w) (wordN w) = t := by
  rw [carriesOut_iff_of_decode? (decode?_eq_draw_iff.2 ⟨hw, rfl, rfl, rfl⟩)]
  exact guardRead_eq_ok_iff

theorem ofWindow_stamp (s : State) (x y height : Nibble) :
    (s.stamp x y height).ofWindow (s.memory.readAll s.index.toNat maxSpriteHeight) =
      (s.stamp x y height).picture := by
  have hlength : (s.memory.readAll s.index.toNat maxSpriteHeight).length = maxSpriteHeight := by
    simp [Memory.readAll]
  have hheight : height.toNat ≤ maxSpriteHeight := Nat.le_of_lt_succ height.isLt
  refine Stamp.ofWindow_eq (by rw [hlength]; decide) (hlength ▸ hheight) fun r hr => ?_
  have hr : r < maxSpriteHeight := Nat.lt_of_lt_of_le hr hheight
  simp [Memory.readAll, stamp, hr]

theorem drawn_drawSprite (s : State) (x y height : Nibble) :
    Drawn s (s.stamp x y height) (s.advanced.drawSprite x y height) := by
  generalize ht : s.advanced.drawSprite x y height = t
  generalize ha : s.stamp x y height = a
  have hdisplay : t.display = s.display.xor a.picture := by
    subst ht ha
    rfl
  have hregisters : t.registers = s.registers.setFlag (s.display.overlaps a.picture) := by
    subst ht ha
    rfl
  have hflips (p : Position) : t.display.lit p ≠ s.display.lit p ↔ a.picture.lit p = true := by
    rw [hdisplay, lit_xor]
    cases s.display.lit p <;> cases a.picture.lit p <;> decide
  refine ⟨fun p => (hflips p).trans Stamp.lit_picture_iff, fun _ _ _ => Stamp.FallsOn.unique,
    ?_, ?_, ?_⟩
  · have hstruck : s.display.overlaps a.picture = true ↔
        ∃ p, t.display.lit p ≠ s.display.lit p ∧ s.display.lit p = true := by
      rw [overlaps_iff]
      exact exists_congr fun p => by rw [hflips, and_comm]
    rw [hregisters, Registers.get_setFlag, if_pos rfl, ← hstruck]
    cases s.display.overlaps a.picture <;> decide
  · rw [Stamp.drawOn_eq, ← hdisplay, ← hregisters]
    subst ht
    rfl
  · subst ha
    rw [hdisplay, ofWindow_stamp]

end State

open State

/-- **Drawing, pixel by pixel.** A drawing word whose rows, if there are any, lie in memory does not
fault, whatever the state. It flips the pixels on which a set bit of its sprite falls and no others,
it flips each for one bit, its flag tells whether one of them was lit, and the result is that of a
loop over rows and bits. It is also that of fifteen rows from the index on, however many there are
in memory, with the rows from the height on left out. -/
theorem draw_flips_sprite {s : State} {w : Word} (hw : w &&& 0xF000 = 0xD000)
    (hrange : (wordN w).toNat = 0 ∨ s.index.toNat + (wordN w).toNat ≤ memorySize) :
    ∃ t, s.CarriesOut w t ∧ Drawn s (s.stamp (wordX w) (wordY w) (wordN w)) t :=
  ⟨_, (carriesOut_draw_iff hw).2 ⟨leavesMemory_eq_false_iff.2 hrange, rfl⟩, drawn_drawSprite ..⟩

/-- A machine about to draw the last two bytes of memory in the lower right corner of a screen with
one pixel lit; the flag register has the row. -/
def beforeCornerDraw : State :=
  { State.powerOn .keyed ⟨0, 0⟩ 0x200 with
    memory := Memory.powerOn.writeAll 0xFFE [0x40, 0x80]
    index := 0xFFE
    registers := (Registers.zero.set 0 63).set flagRegister 31
    display := Display.blank.flip (0, 31) }

theorem read_beforeCornerDraw :
    beforeCornerDraw.memory.read 0xFFE = 0x40 ∧ beforeCornerDraw.memory.read 0xFFF = 0x80 := by
  simp [beforeCornerDraw, Memory.read_writeAll, memorySize]

/-- The second bit of the upper byte comes back on the left, where it puts the lit pixel out and
raises the flag; the first bit of the lower byte comes back at the top. -/
theorem draw_around_corner :
    beforeCornerDraw.halted = false ∧
      beforeCornerDraw.index.toNat + (wordN 0xD0F2).toNat ≤ memorySize ∧
      (beforeCornerDraw.execute 0xD0F2).display.lit (0, 31) = false ∧
      (beforeCornerDraw.execute 0xD0F2).display.lit (63, 0) = true ∧
      (beforeCornerDraw.execute 0xD0F2).registers.get flagRegister = 1 := by
  obtain ⟨t, ht, hdrawn⟩ := draw_flips_sprite (s := beforeCornerDraw) (w := 0xD0F2) (by decide)
    (.inr (by decide))
  have hlit : beforeCornerDraw.display.lit (0, 31) = true := by decide
  have hdark : beforeCornerDraw.display.lit (63, 0) = false := by decide
  have hleft : t.display.lit (0, 31) ≠ beforeCornerDraw.display.lit (0, 31) :=
    (hdrawn.flips _).2 ⟨(0, 1), by decide, by decide, by
      show (beforeCornerDraw.memory.read 0xFFE).getLsbD 6 = true
      rw [read_beforeCornerDraw.1]
      decide, by decide⟩
  have htop : t.display.lit (63, 0) ≠ beforeCornerDraw.display.lit (63, 0) :=
    (hdrawn.flips _).2 ⟨(1, 0), by decide, by decide, by
      show (beforeCornerDraw.memory.read 0xFFF).getLsbD 7 = true
      rw [read_beforeCornerDraw.2]
      decide, by decide⟩
  rw [ht.execute_eq rfl]
  refine ⟨rfl, by decide, by simpa [hlit] using hleft, by simpa [hdark] using htop, ?_⟩
  rcases hdrawn.flag with ⟨hflag, -⟩ | ⟨-, hnone⟩
  · exact hflag
  · exact absurd ⟨_, hleft, hlit⟩ hnone

end Chip8
