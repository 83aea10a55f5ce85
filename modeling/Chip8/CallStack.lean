import Chip8.Word

/-!
# The call stack

Sixteen slots of return addresses and a pointer to the first free one. A push keeps the low twelve
bits of the address, and a pop clears the slot it leaves, so slots above the pointer are zero for a
stack that was only pushed to and popped from.

The operations do not check for room: a call looks at `isFull` first and a return at `isEmpty`.

`slot` and `depth` are the view of a stack: two stacks that agree in them are equal
(`CallStack.ext_slot`), and a push or a pop is described by the slots after it.
-/

namespace Chip8

/-- The number of slots of the call stack. -/
abbrev stackSize : Nat := 16

/-- The bits of an address that a push keeps. -/
abbrev addressMask : Word := 0xFFF

/-- Return addresses and the number of slots in use. -/
structure CallStack where
  slots : Vector Word stackSize
  depth : Byte
deriving DecidableEq

namespace CallStack

/-- The stack with nothing on it. -/
def empty : CallStack := ⟨Vector.replicate stackSize 0, 0⟩

/-- No slot is left for another call. -/
def isFull (s : CallStack) : Bool := stackSize ≤ s.depth.toNat

/-- No call is waiting for a return. -/
def isEmpty (s : CallStack) : Bool := s.depth = 0

/-- Store the low twelve bits of an address in the first free slot. -/
def push (s : CallStack) (a : Word) : CallStack :=
  ⟨s.slots.setIfInBounds s.depth.toNat (a &&& addressMask), s.depth + 1⟩

/-- The address in a slot; a number past the end reads the last slot. -/
def slot (s : CallStack) (i : Nat) : Word :=
  have : min i (stackSize - 1) < stackSize :=
    Nat.lt_of_le_of_lt (Nat.min_le_right ..) (by decide)
  s.slots[min i (stackSize - 1)]

/-- Take the last address off the stack and clear its slot. -/
def pop (s : CallStack) : CallStack × Word :=
  let top := s.depth - 1
  (⟨s.slots.setIfInBounds top.toNat 0, top⟩, s.slot top.toNat)

/-! ## Room -/

theorem isFull_iff {s : CallStack} : s.isFull = true ↔ stackSize ≤ s.depth.toNat := by
  simp [isFull]

theorem isEmpty_iff {s : CallStack} : s.isEmpty = true ↔ s.depth.toNat = 0 := by
  simp [isEmpty, BitVec.toNat_eq]

theorem isFull_eq_false_iff {s : CallStack} : s.isFull = false ↔ s.depth.toNat < stackSize := by
  simp [isFull]

theorem isEmpty_eq_false_iff {s : CallStack} : s.isEmpty = false ↔ 0 < s.depth.toNat := by
  simp [isEmpty, BitVec.toNat_eq, Nat.pos_iff_ne_zero]

/-! ## Slots after a change -/

theorem slot_of_lt (s : CallStack) {i : Nat} (h : i < stackSize) : s.slot i = s.slots[i] := by
  have : min i (stackSize - 1) = i := by simp only [stackSize] at h ⊢; omega
  simp only [slot, this]

theorem ext_slot {s t : CallStack} (hdepth : s.depth = t.depth)
    (hslot : ∀ i < stackSize, s.slot i = t.slot i) : s = t := by
  obtain ⟨c, d⟩ := s
  obtain ⟨c', d'⟩ := t
  obtain rfl : d = d' := hdepth
  congr 1
  apply Vector.ext
  intro i hi
  simpa [slot_of_lt _ hi] using hslot i hi

theorem slot_empty {i : Nat} (h : i < stackSize) : empty.slot i = 0 := by
  simp [slot_of_lt _ h, empty]

theorem slot_push (s : CallStack) (a : Word) {i : Nat} (h : i < stackSize) :
    (s.push a).slot i = if s.depth.toNat = i then a &&& addressMask else s.slot i := by
  simp [slot_of_lt _ h, push, Vector.getElem_setIfInBounds]

theorem slot_pop (s : CallStack) {i : Nat} (h : i < stackSize) :
    s.pop.1.slot i = if (s.depth - 1).toNat = i then 0 else s.slot i := by
  simp [slot_of_lt _ h, pop, Vector.getElem_setIfInBounds]

theorem toNat_depth_push {s : CallStack} (a : Word) (h : s.isFull = false) :
    (s.push a).depth.toNat = s.depth.toNat + 1 := by
  have hlt := isFull_eq_false_iff.1 h
  simp only [stackSize] at hlt
  rw [push, BitVec.toNat_add]
  exact Nat.mod_eq_of_lt (show s.depth.toNat + 1 < 2 ^ 8 by omega)

theorem toNat_depth_sub_one {s : CallStack} (h : s.isEmpty = false) :
    (s.depth - 1).toNat = s.depth.toNat - 1 :=
  BitVec.toNat_sub_of_le (BitVec.le_def.2 (isEmpty_eq_false_iff.1 h))

/-! ## A pop behind a push -/

section PopPush

variable (s : CallStack) (a : Word)

theorem depth_pop_push : (s.push a).pop.1.depth = s.depth := BitVec.add_sub_cancel s.depth 1

theorem slot_pop_push {i : Nat} (h : i < stackSize) :
    (s.push a).pop.1.slot i = if s.depth.toNat = i then 0 else s.slot i := by
  have htop : (s.push a).depth - 1 = s.depth := depth_pop_push s a
  rw [slot_pop _ h, htop, slot_push _ _ h]
  split <;> rfl

theorem top_pop_push (h : s.isFull = false) : (s.push a).pop.2 = a &&& addressMask := by
  have htop : (s.push a).depth - 1 = s.depth := depth_pop_push s a
  show (s.push a).slot ((s.push a).depth - 1).toNat = _
  rw [htop, slot_push _ _ (isFull_eq_false_iff.1 h), if_pos rfl]

end PopPush

end CallStack

end Chip8
