import Chip8.Word

/-!
# Memory

Memory is 4096 bytes. Reading past the end gives the last byte and writing past the end does
nothing, so every access is total; the instructions guard their accesses before they make them.

`read` is the view of a memory: two memories that read alike are equal (`Memory.ext_read`), and
each writing operation is described by what is read after it (`read_write`, `read_writeAll`).
-/

namespace Chip8

/-- The number of bytes of memory. -/
abbrev memorySize : Nat := 4096

/-- The bytes of the machine's address space. -/
structure Memory where
  cells : Vector Byte memorySize
deriving DecidableEq

namespace Memory

/-- The memory that holds zero everywhere. -/
def blank : Memory := ⟨Vector.replicate memorySize 0⟩

/-- The byte at an address; an address past the end reads the last byte. -/
def read (m : Memory) (a : Nat) : Byte :=
  have : min a (memorySize - 1) < memorySize :=
    Nat.lt_of_le_of_lt (Nat.min_le_right ..) (by decide)
  m.cells[min a (memorySize - 1)]

/-- Put a byte at an address; an address past the end is ignored. -/
def write (m : Memory) (a : Nat) (b : Byte) : Memory := ⟨m.cells.setIfInBounds a b⟩

/-- Put bytes at consecutive addresses. -/
def writeAll (m : Memory) (a : Nat) : List Byte → Memory
  | [] => m
  | b :: bs => (m.write a b).writeAll (a + 1) bs

/-- The `n` bytes from an address on. -/
def readAll (m : Memory) (a n : Nat) : List Byte := (List.range n).map fun i => m.read (a + i)

/-! ## What is read -/

theorem read_of_lt (m : Memory) {a : Nat} (h : a < memorySize) : m.read a = m.cells[a] := by
  have : min a (memorySize - 1) = a := by simp only [memorySize] at h ⊢; omega
  simp only [read, this]

theorem ext_read {m m' : Memory} (h : ∀ a < memorySize, m.read a = m'.read a) : m = m' := by
  obtain ⟨c⟩ := m
  obtain ⟨c'⟩ := m'
  congr 1
  apply Vector.ext
  intro i hi
  simpa [read_of_lt _ hi] using h i hi

theorem read_blank (a : Nat) : blank.read a = 0 := by
  simp [read, blank]

theorem read_write (m : Memory) {a j : Nat} (b : Byte) (h : j < memorySize) :
    (m.write a b).read j = if a = j then b else m.read j := by
  simp [read_of_lt _ h, write, Vector.getElem_setIfInBounds]

theorem read_writeAll (m : Memory) (a : Nat) (bs : List Byte) {j : Nat} (h : j < memorySize) :
    (m.writeAll a bs).read j = if a ≤ j then bs.getD (j - a) (m.read j) else m.read j := by
  induction bs generalizing m a with
  | nil => simp [writeAll]
  | cons b bs ih =>
    rw [writeAll, ih, read_write _ _ h]
    by_cases haj : a = j
    · subst haj; simp [show ¬ a + 1 ≤ a by omega]
    · by_cases hle : a ≤ j
      · obtain ⟨k, rfl⟩ : ∃ k, j = a + 1 + k := ⟨j - (a + 1), by omega⟩
        have : a + 1 + k - a = k + 1 := by omega
        simp [this, haj, show a ≤ a + 1 + k by omega]
      · have : ¬ a + 1 ≤ j := by omega
        simp [haj, hle, this]

theorem read_writeAll_of_outside (m : Memory) {a j : Nat} {bs : List Byte} (h : j < memorySize)
    (hout : j < a ∨ a + bs.length ≤ j) : (m.writeAll a bs).read j = m.read j := by
  rw [read_writeAll _ _ _ h]
  split
  · rw [List.getD_eq_getElem?_getD, List.getElem?_eq_none (by omega), Option.getD_none]
  · rfl

theorem writeAll_concat (m : Memory) (a : Nat) (bs : List Byte) (b : Byte) :
    m.writeAll a (bs ++ [b]) = (m.writeAll a bs).write (a + bs.length) b := by
  induction bs generalizing m a with
  | nil => rfl
  | cons c bs ih =>
    have hlength : a + 1 + bs.length = a + (c :: bs).length := by simp; omega
    rw [List.cons_append, writeAll, ih, hlength]
    rfl

theorem read_writeAll_range (m : Memory) (a n : Nat) (f : Nat → Byte) {j : Nat}
    (h : j < memorySize) : (m.writeAll a ((List.range n).map f)).read j =
      if a ≤ j ∧ j < a + n then f (j - a) else m.read j := by
  rw [read_writeAll _ _ _ h]
  by_cases hstart : a ≤ j
  · by_cases hend : j < a + n
    · have hlt : j - a < n := by omega
      simp [hstart, hend, hlt]
    · have hle : n ≤ j - a := by omega
      simp [hstart, hend, hle]
  · simp [hstart]

theorem read_writeAll_add (m : Memory) {a i : Nat} {bs : List Byte}
    (h : a + bs.length ≤ memorySize) (hi : i < bs.length) :
    (m.writeAll a bs).read (a + i) = bs[i] := by
  rw [read_writeAll _ _ _ (by omega), if_pos (Nat.le_add_right ..), Nat.add_sub_cancel_left,
    List.getD_eq_getElem?_getD, List.getElem?_eq_getElem hi, Option.getD_some]

theorem readAll_writeAll (m : Memory) {a : Nat} {bs : List Byte}
    (h : a + bs.length ≤ memorySize) : (m.writeAll a bs).readAll a bs.length = bs := by
  refine List.ext_getElem (by simp [readAll]) fun i _ hi => ?_
  simp only [readAll, List.getElem_map, List.getElem_range, read_writeAll_add m h hi]

end Memory

end Chip8
