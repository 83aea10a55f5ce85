import Chip8.Display

/-!
# The pixels of a sprite

A sprite is placed with its upper left corner in a column and a row, and what leaves the screen
comes back on the other side. **`pixel_sprite_iff`** says which pixels it lights: the pixel of each
bit that is set, at its distance from the corner along both axes.

A row of the picture is one rotated number, and the rotation is undone by counting how far a pixel
lies behind the corner (`behind`).
-/

namespace Chip8

namespace Display

/-! ## Distances on an axis that wraps -/

/-- How far a place on an axis that wraps lies behind another one. -/
def behind (size start place : Nat) : Nat := (place + (size - start % size)) % size

theorem behind_lt {size start place : Nat} (hplace : place < size) :
    behind size start place < size :=
  Nat.mod_lt _ (Nat.zero_lt_of_lt hplace)

theorem behind_eq_iff {size start place k : Nat} (hplace : place < size) (hk : k < size) :
    behind size start place = k ↔ (start + k) % size = place := by
  have hstart : start % size < size := Nat.mod_lt _ (Nat.zero_lt_of_lt hk)
  rw [behind, Nat.add_mod start k, Nat.mod_eq_of_lt hk]
  generalize start % size = a at hstart
  -- Either sum is less than twice the size, so each modulus is one subtraction at most.
  have hforth : (a + k) % size = if size ≤ a + k then a + k - size else a + k := by
    split
    · rw [Nat.mod_eq_sub_mod ‹_›, Nat.mod_eq_of_lt (by omega)]
    · exact Nat.mod_eq_of_lt (by omega)
  have hback : (place + (size - a)) % size =
      if a ≤ place then place - a else place + (size - a) := by
    split
    · rw [Nat.mod_eq_sub_mod (by omega), Nat.mod_eq_of_lt (by omega)]
      omega
    · exact Nat.mod_eq_of_lt (by omega)
  rw [hforth, hback]
  split <;> split <;> omega

/-! ## One row -/

theorem getMsbD_shifted (b : Byte) (k : Nat) :
    (b.setWidth screenWidth <<< (screenWidth - spriteWidth)).getMsbD k = b.getMsbD k := by
  have hleft : screenWidth - spriteWidth ≤ k + (screenWidth - spriteWidth) := Nat.le_add_left ..
  have hindex : k + (screenWidth - spriteWidth) + spriteWidth - screenWidth = k := by
    simp only [screenWidth, spriteWidth]
    omega
  rw [BitVec.getMsbD_shiftLeft, BitVec.getMsbD_setWidth, decide_eq_true hleft, Bool.true_and,
    hindex]

theorem getMsbD_spriteRow (b : Byte) (column : Nat) (x : Fin screenWidth) :
    (spriteRow b column).getMsbD x = b.getMsbD (behind screenWidth column x) := by
  have hx := x.isLt
  have hbehind : behind screenWidth column x =
      if x < column % screenWidth then (screenWidth + x - column % screenWidth) % screenWidth
      else x - column % screenWidth := by
    simp only [behind, screenWidth] at *
    split <;> omega
  rw [spriteRow, BitVec.getMsbD_rotateRight, decide_eq_true hx, Bool.true_and, Nat.mod_mod,
    hbehind]
  split <;> exact getMsbD_shifted b _

/-! ## The whole sprite -/

theorem pixel_sprite (bytes : Nat → Byte) (height column row : Nat) (x : Fin screenWidth)
    (y : Fin screenHeight) :
    (sprite bytes height column row).pixel x y =
      (decide (behind screenHeight row y < height) &&
        (bytes (behind screenHeight row y)).getMsbD (behind screenWidth column x)) := by
  have hrow : (sprite bytes height column row).rows[y] =
      if behind screenHeight row y < height then
        spriteRow (bytes (behind screenHeight row y)) column
      else 0 := by
    simp only [sprite, Fin.getElem_fin, Vector.getElem_ofFn]
    rfl
  rw [pixel, hrow]
  split
  · rename_i hlt
    rw [getMsbD_spriteRow, decide_eq_true hlt, Bool.true_and]
  · rename_i hlt
    rw [decide_eq_false hlt, Bool.false_and]
    exact BitVec.getMsbD_zero

/-- **The pixels of a sprite** are those of its set bits, counted from the corner and wrapped. -/
theorem pixel_sprite_iff {bytes : Nat → Byte} {height column row : Nat}
    (hheight : height ≤ screenHeight) {x : Fin screenWidth} {y : Fin screenHeight} :
    (sprite bytes height column row).pixel x y = true ↔
      ∃ r < height, ∃ c < spriteWidth, (bytes r).getMsbD c = true ∧
        (column + c) % screenWidth = x ∧ (row + r) % screenHeight = y := by
  rw [pixel_sprite, Bool.and_eq_true, decide_eq_true_eq]
  constructor
  · rintro ⟨hrow, hbit⟩
    have hcolumn : behind screenWidth column x < spriteWidth := BitVec.lt_of_getMsbD hbit
    exact ⟨_, hrow, _, hcolumn, hbit, (behind_eq_iff x.isLt (behind_lt x.isLt)).1 rfl,
      (behind_eq_iff y.isLt (behind_lt y.isLt)).1 rfl⟩
  · rintro ⟨r, hr, c, hc, hbit, hx, hy⟩
    have hcolumn : c < screenWidth := Nat.lt_of_lt_of_le hc (by decide)
    rw [(behind_eq_iff x.isLt hcolumn).2 hx,
      (behind_eq_iff y.isLt (Nat.lt_of_lt_of_le hr hheight)).2 hy]
    exact ⟨hr, hbit⟩

end Display

end Chip8
