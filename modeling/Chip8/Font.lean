import Chip8.Memory

/-!
# The built-in font

Sixteen glyphs, one for each hexadecimal digit, stand at `fontStart`. A glyph is five bytes, one
for each of its rows, with its four columns in the high bits. Programs read the glyphs as sprites
and may not overwrite them: `fontStart ≤ a < fontEnd` is the protected range.
-/

namespace Chip8

/-- The address of the first glyph. -/
abbrev fontStart : Nat := 0x50

/-- The number of rows of a glyph. -/
abbrev glyphHeight : Nat := 5

/-- The first address after the glyphs. -/
abbrev fontEnd : Nat := 0xA0

/-- The rows of the sixteen glyphs in order. -/
def fontBytes : List Byte := [
  0xF0, 0x90, 0x90, 0x90, 0xF0,
  0x20, 0x60, 0x20, 0x20, 0x70,
  0xF0, 0x10, 0xF0, 0x80, 0xF0,
  0xF0, 0x10, 0xF0, 0x10, 0xF0,
  0x90, 0x90, 0xF0, 0x10, 0x10,
  0xF0, 0x80, 0xF0, 0x10, 0xF0,
  0xF0, 0x80, 0xF0, 0x90, 0xF0,
  0xF0, 0x10, 0x20, 0x40, 0x40,
  0xF0, 0x90, 0xF0, 0x90, 0xF0,
  0xF0, 0x90, 0xF0, 0x10, 0xF0,
  0xF0, 0x90, 0xF0, 0x90, 0x90,
  0xE0, 0x90, 0xE0, 0x90, 0xE0,
  0xF0, 0x80, 0x80, 0x80, 0xF0,
  0xE0, 0x90, 0x90, 0x90, 0xE0,
  0xF0, 0x80, 0xF0, 0x80, 0xF0,
  0xF0, 0x80, 0xF0, 0x80, 0x80]

theorem fontStart_add_length : fontStart + fontBytes.length = fontEnd := by decide

/-- Memory as it is before any program is loaded: the font and zeros. -/
def Memory.powerOn : Memory := Memory.blank.writeAll fontStart fontBytes

theorem Memory.readAll_powerOn :
    Memory.powerOn.readAll fontStart fontBytes.length = fontBytes :=
  Memory.readAll_writeAll _ (by decide)

/-- The address of the glyph for a digit. -/
def glyphAddress (digit : Nibble) : Word := BitVec.ofNat 16 (fontStart + glyphHeight * digit.toNat)

/-- Some byte of `a .. a + n - 1` belongs to a glyph. -/
def touchesFont (a n : Nat) : Bool := 0 < n && a < fontEnd && fontStart < a + n

theorem touchesFont_iff (a n : Nat) :
    touchesFont a n = true ↔ ∃ j, a ≤ j ∧ j < a + n ∧ fontStart ≤ j ∧ j < fontEnd := by
  simp only [touchesFont, fontStart, fontEnd, Bool.and_eq_true, decide_eq_true_eq]
  constructor
  · rintro ⟨⟨hn, ha⟩, hs⟩
    exact ⟨max a 0x50, by omega, by omega, by omega, by omega⟩
  · rintro ⟨j, h1, h2, h3, h4⟩
    omega

theorem outside_of_not_touchesFont {a n j : Nat} (h : touchesFont a n = false)
    (hstart : fontStart ≤ j) (hend : j < fontEnd) : j < a ∨ a + n ≤ j := by
  have hnot : ¬ (a ≤ j ∧ j < a + n) := fun hj =>
    Bool.eq_false_iff.1 h ((touchesFont_iff a n).2 ⟨j, hj.1, hj.2, hstart, hend⟩)
  omega

theorem toNat_glyphAddress (digit : Nibble) :
    (glyphAddress digit).toNat = fontStart + glyphHeight * digit.toNat := by
  have hdigit := digit.isLt
  rw [glyphAddress, BitVec.toNat_ofNat]
  exact Nat.mod_eq_of_lt (by simp only [fontStart, glyphHeight]; omega)

end Chip8
