import Chip8.Picture.Image

/-!
# Numbers and pixels as bytes

Image files hold numbers of a fixed count of bytes, with the least or the most significant byte
first. `ofLittleEndian_littleEndian` and `ofBigEndian_bigEndian` say that a number that fits is read
back. Long lists of bytes are cut into pieces; `flatten_pieces` says that nothing is lost.
-/

namespace Chip8

/-! ## Numbers -/

/-- The number in so many bytes, the least significant first. -/
def littleEndian : Nat → Nat → List Byte
  | 0, _ => []
  | count + 1, n => BitVec.ofNat 8 n :: littleEndian count (n / 256)

/-- The number in so many bytes, the most significant first. -/
def bigEndian (count n : Nat) : List Byte := (littleEndian count n).reverse

/-- The number that bytes stand for, the least significant first. -/
def ofLittleEndian (bytes : List Byte) : Nat := bytes.foldr (fun b n => b.toNat + 256 * n) 0

/-- The number that bytes stand for, the most significant first. -/
def ofBigEndian (bytes : List Byte) : Nat := bytes.foldl (fun n b => b.toNat + 256 * n) 0

theorem length_littleEndian (count n : Nat) : (littleEndian count n).length = count := by
  induction count generalizing n with
  | zero => rfl
  | succ count ih => simp [littleEndian, ih]

theorem length_bigEndian (count n : Nat) : (bigEndian count n).length = count := by
  simp [bigEndian, length_littleEndian]

theorem ofLittleEndian_littleEndian {count n : Nat} (h : n < Nat.pow 256 count) :
    ofLittleEndian (littleEndian count n) = n := by
  induction count generalizing n with
  | zero => simp_all [littleEndian, ofLittleEndian]
  | succ count ih =>
    have hn : n / 256 < Nat.pow 256 count := by
      rw [Nat.pow] at h
      exact Nat.div_lt_of_lt_mul (by rwa [Nat.mul_comm])
    have ih := ih hn
    simp only [ofLittleEndian] at ih
    simp only [littleEndian, ofLittleEndian, List.foldr_cons, ih, BitVec.toNat_ofNat]
    omega

theorem ofBigEndian_bigEndian {count n : Nat} (h : n < Nat.pow 256 count) :
    ofBigEndian (bigEndian count n) = n := by
  simp only [ofBigEndian, bigEndian, List.foldl_reverse]
  exact ofLittleEndian_littleEndian h

/-! ## Pieces -/

/-- A list cut into pieces of the given size, the last of which may be shorter. -/
def pieces {α : Type} (size : Nat) (xs : List α) : List (List α) :=
  if _h : size = 0 ∨ xs.length = 0 then [] else xs.take size :: pieces size (xs.drop size)
termination_by xs.length
decreasing_by
  simp only [List.length_drop]
  omega

theorem flatten_pieces {α : Type} {size : Nat} (h : 0 < size) (xs : List α) :
    (pieces size xs).flatten = xs := by
  fun_induction pieces size xs with
  | case1 xs hxs =>
    rcases hxs with hxs | hxs
    · omega
    · simp [List.eq_nil_of_length_eq_zero hxs]
  | case2 xs _ ih => simp [ih]

theorem length_le_of_mem_pieces {α : Type} {size : Nat} {xs piece : List α}
    (h : piece ∈ pieces size xs) : piece.length ≤ size := by
  fun_induction pieces size xs with
  | case1 => simp at h
  | case2 xs _ ih =>
    rcases List.mem_cons.1 h with rfl | h
    · rw [List.length_take]
      exact Nat.min_le_left _ _
    · exact ih h

/-! ## Texts and pixels -/

/-- The characters of a text of the first 128 characters. -/
def asciiBytes (t : Text) : List Byte := t.map fun s => BitVec.ofNat 8 s.number

namespace Colour

/-- The parts of a colour from red to blue. -/
def redFirst (c : Colour) : List Byte := [c.red, c.green, c.blue]

/-- The parts of a colour from blue to red. -/
def blueFirst (c : Colour) : List Byte := [c.blue, c.green, c.red]

end Colour

end Chip8
