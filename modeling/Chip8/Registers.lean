import Chip8.Word

/-!
# The general registers

Sixteen byte registers `V0` to `VF`. The last is also the flag register: arithmetic, drawing and
index addition leave their carry, borrow or collision there.
-/

namespace Chip8

/-- The number of general registers. -/
abbrev registerCount : Nat := 16

/-- The register that receives flags. -/
abbrev flagRegister : Nibble := 0xF

/-- The contents of `V0` to `VF`. -/
structure Registers where
  cells : Vector Byte registerCount
deriving DecidableEq

namespace Registers

/-- All registers zero. -/
def zero : Registers := ⟨Vector.replicate registerCount 0⟩

/-- The contents of a register. -/
def get (v : Registers) (x : Nibble) : Byte :=
  have : x.toNat < registerCount := x.isLt
  v.cells[x.toNat]

/-- Put a byte in a register. -/
def set (v : Registers) (x : Nibble) (b : Byte) : Registers := ⟨v.cells.set x.toNat b x.isLt⟩

/-- Put a one or a zero in the flag register. -/
def setFlag (v : Registers) (flag : Bool) : Registers := v.set flagRegister (if flag then 1 else 0)

/-- The registers whose contents a function gives. -/
def ofFn (f : Nibble → Byte) : Registers := ⟨Vector.ofFn fun i => f (BitVec.ofFin i)⟩

/-! ## Contents after a change -/

theorem get_set (v : Registers) (x y : Nibble) (b : Byte) :
    (v.set x b).get y = if x = y then b else v.get y := by
  simp only [get, set, Vector.getElem_set, BitVec.toNat_inj]

theorem get_setFlag (v : Registers) (flag : Bool) (y : Nibble) :
    (v.setFlag flag).get y = if flagRegister = y then (if flag then 1 else 0) else v.get y :=
  get_set ..

theorem get_ofFn (f : Nibble → Byte) (x : Nibble) : (ofFn f).get x = f x := by
  simp only [get, ofFn, Vector.getElem_ofFn]
  rfl

theorem ext_get {v v' : Registers} (h : ∀ x, v.get x = v'.get x) : v = v' := by
  obtain ⟨c⟩ := v
  obtain ⟨c'⟩ := v'
  congr 1
  apply Vector.ext
  intro i hi
  have := h (BitVec.ofFin ⟨i, hi⟩)
  simpa [get] using this

end Registers

end Chip8
