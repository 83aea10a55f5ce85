import Chip8.Execute

/-!
# What one instruction changes

An instruction that does not fault changes a few parts of the state and keeps the rest.
`Instruction.touched` lists the parts, and **`kept_of_run`** is the frame rule: every part that is
not listed is kept. What happens to a listed part is read off the definition, by one small lemma
for each instruction that a later argument looks into.

An instruction faults for one of four reasons (`run_eq_error_iff`): a return without a call, a call
too many, or a range of bytes from the index on that may not be read or not be written.
-/

namespace Chip8

/-! ## Guards -/

namespace State

variable {s next t : State} {n : Nat}

theorem leavesMemory_iff :
    s.leavesMemory n = true ↔ 0 < n ∧ memorySize < s.index.toNat + n := by
  simp [leavesMemory]

theorem leavesMemory_eq_false_iff :
    s.leavesMemory n = false ↔ n = 0 ∨ s.index.toNat + n ≤ memorySize := by
  rw [Bool.eq_false_iff, Ne, leavesMemory_iff]
  omega

theorem guardRead_eq_ok_iff :
    s.guardRead n next = .ok t ↔ s.leavesMemory n = false ∧ next = t := by
  unfold guardRead
  split <;> simp_all

theorem guardWrite_eq_ok_iff :
    s.guardWrite n next = .ok t ↔
      touchesFont s.index.toNat n = false ∧ s.leavesMemory n = false ∧ next = t := by
  unfold guardWrite
  split <;> simp_all [guardRead_eq_ok_iff]

theorem guardRead_eq_error_iff {f : Fault} :
    s.guardRead n next = .error f ↔ s.leavesMemory n = true ∧
      .memoryOutOfBounds (BitVec.ofNat 16 (max s.index.toNat memorySize)) = f := by
  unfold guardRead
  split <;> simp_all

/-- The address that a refused write reports: the first glyph byte, or else the end of memory. -/
def writeObstacle (s : State) (n : Nat) : Nat :=
  if touchesFont s.index.toNat n then max s.index.toNat fontStart else max s.index.toNat memorySize

theorem guardWrite_eq_error_iff {f : Fault} :
    s.guardWrite n next = .error f ↔
      (touchesFont s.index.toNat n = true ∨ s.leavesMemory n = true) ∧
        .memoryOutOfBounds (BitVec.ofNat 16 (s.writeObstacle n)) = f := by
  unfold guardWrite writeObstacle
  split <;> simp_all [guardRead_eq_error_iff]

end State

/-! ## The parts of a state -/

/-- A part of the state that an instruction changes or keeps as a whole. -/
inductive Part
  | memory
  | pc
  | index
  | registers
  | stack
  | delay
  | sound
  | display
  | keypad
  | wait
  | status
  | source
  | key
deriving DecidableEq, Repr

/-- Two states agree in a part. -/
def Part.Kept (s t : State) : Part → Prop
  | memory => t.memory = s.memory
  | pc => t.pc = s.pc
  | index => t.index = s.index
  | registers => t.registers = s.registers
  | stack => t.stack = s.stack
  | delay => t.delay = s.delay
  | sound => t.sound = s.sound
  | display => t.display = s.display
  | keypad => t.keypad = s.keypad
  | wait => t.wait = s.wait
  | status => t.status = s.status
  | source => t.source = s.source
  | key => t.key = s.key

theorem Part.Kept.refl (s : State) (p : Part) : p.Kept s s := by
  cases p <;> rfl

theorem Part.Kept.symm {s t : State} {p : Part} (h : p.Kept s t) : p.Kept t s := by
  cases p <;> exact Eq.symm h

theorem Part.Kept.trans {s t u : State} {p : Part} (h : p.Kept s t) (h' : p.Kept t u) :
    p.Kept s u := by
  cases p <;> exact Eq.trans h' h

theorem State.ext_kept {s t : State} (h : ∀ p : Part, p.Kept s t) : s = t := by
  cases s
  cases t
  congr 1
  · exact (h .memory).symm
  · exact (h .pc).symm
  · exact (h .index).symm
  · exact (h .registers).symm
  · exact (h .stack).symm
  · exact (h .delay).symm
  · exact (h .sound).symm
  · exact (h .display).symm
  · exact (h .keypad).symm
  · exact (h .wait).symm
  · exact (h .status).symm
  · exact (h .source).symm
  · exact (h .key).symm

namespace Instruction

variable {i : Instruction} {s t : State}

/-- The parts that an instruction may change, next to the step of the program counter behind it. -/
def touched : Instruction → List Part
  | clearScreen => [.display]
  | ret | call _ => [.stack, .pc]
  | jump _ | jumpOffset .. | skipIf _ => [.pc]
  | loadByte .. | addByte .. | alu .. | readDelay _ | load _ => [.registers]
  | loadIndex _ | glyph _ => [.index]
  | random .. => [.registers, .key]
  | draw .. => [.display, .registers]
  | waitKey _ => [.wait]
  | setDelay _ => [.delay]
  | setSound _ => [.sound]
  | addIndex _ => [.index, .registers]
  | decimal _ | store _ => [.memory]

/-- The number of bytes from the index on that an instruction reads. -/
def readLength? : Instruction → Option Nat
  | draw _ _ height => some height.toNat
  | load x => some (x.toNat + 1)
  | _ => none

/-- The number of bytes from the index on that an instruction writes. -/
def writeLength? : Instruction → Option Nat
  | decimal _ => some 3
  | store x => some (x.toNat + 1)
  | _ => none

theorem pos_of_writeLength? {n : Nat} (h : i.writeLength? = some n) : 0 < n := by
  cases i <;> simp [writeLength?] at h <;> omega

/-! ## Instructions one by one -/

theorem run_ret_eq_ok_iff :
    run s .ret = .ok t ↔
      s.stack.isEmpty = false ∧ { s with stack := s.stack.pop.1, pc := s.stack.pop.2 } = t := by
  simp only [run]
  split <;> simp_all

theorem run_call_eq_ok_iff {target : Address} :
    run s (.call target) = .ok t ↔
      s.stack.isFull = false ∧
        { s with stack := s.stack.push s.pc, pc := target.setWidth 16 } = t := by
  simp only [run]
  split <;> simp_all

/-- **The frame rule.** A part that an instruction does not touch is the same afterwards. -/
theorem kept_of_run (h : i.run s = .ok t) {p : Part} (hp : p ∉ i.touched) : p.Kept s t := by
  cases i with
  | ret =>
    obtain ⟨-, rfl⟩ := run_ret_eq_ok_iff.1 h
    cases p <;> simp_all [touched, Part.Kept]
  | call target =>
    obtain ⟨-, rfl⟩ := run_call_eq_ok_iff.1 h
    cases p <;> simp_all [touched, Part.Kept]
  | skipIf condition =>
    cases h
    split
    · cases p <;> simp_all [touched, Part.Kept]
    · exact Part.Kept.refl s p
  | draw x y height =>
    obtain ⟨-, rfl⟩ := State.guardRead_eq_ok_iff.1 h
    cases p <;> simp_all [touched, Part.Kept, State.drawSprite]
  | load x =>
    obtain ⟨-, rfl⟩ := State.guardRead_eq_ok_iff.1 h
    cases p <;> simp_all [touched, Part.Kept]
  | decimal x | store x =>
    obtain ⟨-, -, rfl⟩ := State.guardWrite_eq_ok_iff.1 h
    cases p <;> simp_all [touched, Part.Kept]
  | _ =>
    cases h
    cases p <;> simp_all [touched, Part.Kept]

theorem status_of_run (h : i.run s = .ok t) : t.status = s.status := by
  refine kept_of_run h (p := .status) ?_
  cases i <;> simp [touched]

theorem keypad_of_run (h : i.run s = .ok t) : t.keypad = s.keypad := by
  refine kept_of_run h (p := .keypad) ?_
  cases i <;> simp [touched]

/-- An instruction that writes keeps off the glyphs. -/
theorem touchesFont_of_run (h : i.run s = .ok t) {n : Nat} (hn : i.writeLength? = some n) :
    touchesFont s.index.toNat n = false := by
  cases i with
  | decimal x | store x =>
    obtain ⟨hfont, -⟩ := State.guardWrite_eq_ok_iff.1 h
    cases hn
    exact hfont
  | _ => cases hn

/-- A byte outside the range that an instruction writes is the same afterwards. -/
theorem read_of_run (h : i.run s = .ok t) {j : Nat} (hj : j < memorySize)
    (hout : ∀ n, i.writeLength? = some n → j < s.index.toNat ∨ s.index.toNat + n ≤ j) :
    t.memory.read j = s.memory.read j := by
  cases i with
  | decimal x =>
    obtain ⟨-, -, rfl⟩ := State.guardWrite_eq_ok_iff.1 h
    exact Memory.read_writeAll_of_outside _ hj (hout 3 rfl)
  | store x =>
    obtain ⟨-, -, rfl⟩ := State.guardWrite_eq_ok_iff.1 h
    have hrange := hout (x.toNat + 1) rfl
    show (s.memory.writeAll s.index.toNat (s.storeWindow x)).read j = _
    rw [Memory.read_writeAll _ _ _ hj]
    split
    · rename_i hle
      -- The sixteen cells are all written, those behind the range with what is there.
      have hbehind : ¬ j - s.index.toNat ≤ x.toNat := by omega
      have hcell : s.index.toNat + (j - s.index.toNat) = j := by omega
      by_cases hlt : j - s.index.toNat < registerCount
      · simp [State.storeWindow, hlt, hbehind, hcell]
      · have hlength : (s.storeWindow x).length ≤ j - s.index.toNat := by
          simp [State.storeWindow]
          omega
        rw [List.getD_eq_getElem?_getD, List.getElem?_eq_none hlength, Option.getD_none]
    · rfl
  | _ =>
    have hmemory := kept_of_run h (p := .memory) (by simp [touched])
    rw [hmemory]

/-- The program counter after an instruction that stood in front of it. -/
def nextPc (s : State) : Instruction → Word
  | ret => s.stack.pop.2
  | jump target | call target => target.setWidth 16
  | jumpOffset x base => base.setWidth 16 + (s.registers.get x).setWidth 16
  | skipIf condition => if condition.holds s then s.pc + 2 else s.pc
  | _ => s.pc

theorem pc_of_run (h : i.run s = .ok t) : t.pc = i.nextPc s := by
  cases i with
  | ret =>
    obtain ⟨-, rfl⟩ := run_ret_eq_ok_iff.1 h
    rfl
  | call target =>
    obtain ⟨-, rfl⟩ := run_call_eq_ok_iff.1 h
    rfl
  | skipIf condition =>
    cases h
    simp only [nextPc]
    split <;> rfl
  | jump | jumpOffset =>
    cases h
    rfl
  | _ => exact kept_of_run h (p := .pc) (by simp [touched])

/-- An index is kept, or it becomes one that fits twelve bits. -/
theorem index_of_run (h : i.run s = .ok t) :
    t.index = s.index ∨ t.index.toNat ≤ addressMask.toNat := by
  cases i with
  | loadIndex address =>
    cases h
    have haddress := address.isLt
    exact .inr (by simp; omega)
  | addIndex x =>
    cases h
    exact .inr Nat.and_le_right
  | glyph x =>
    cases h
    have hdigit := ((s.registers.get x).setWidth 4).isLt
    refine .inr (Nat.le_trans (Nat.mod_le _ _) ?_)
    show fontStart + glyphHeight * _ ≤ 4095
    simp only [fontStart, glyphHeight]
    omega
  | _ => exact .inl (kept_of_run h (p := .index) (by simp [touched]))

/-- Only calls and returns change the stack. -/
theorem stack_of_run (h : i.run s = .ok t) :
    t.stack = s.stack ∨ i = .ret ∨ ∃ target, i = .call target := by
  cases i with
  | ret => exact .inr (.inl rfl)
  | call target => exact .inr (.inr ⟨target, rfl⟩)
  | _ => exact .inl (kept_of_run h (p := .stack) (by simp [touched]))

/-- Only one instruction begins a wait. -/
theorem wait_of_run (h : i.run s = .ok t) :
    t.wait = s.wait ∨ ∃ x : Nibble, t.wait = ⟨true, x.setWidth 8, s.keypad⟩ := by
  cases i with
  | waitKey x =>
    cases h
    exact .inr ⟨x, rfl⟩
  | _ => exact .inl (kept_of_run h (p := .wait) (by simp [touched]))

/-! ## Faults -/

/-- **The faults.** An instruction cannot be carried out for one of four reasons. -/
theorem run_eq_error_iff {f : Fault} :
    i.run s = .error f ↔
      (i = .ret ∧ s.stack.isEmpty = true ∧ .stackUnderflow = f) ∨
      ((∃ target, i = .call target) ∧ s.stack.isFull = true ∧ .stackOverflow = f) ∨
      (∃ n, i.readLength? = some n ∧ s.leavesMemory n = true ∧
        .memoryOutOfBounds (BitVec.ofNat 16 (max s.index.toNat memorySize)) = f) ∨
      (∃ n, i.writeLength? = some n ∧
        (touchesFont s.index.toNat n = true ∨ s.leavesMemory n = true) ∧
        .memoryOutOfBounds (BitVec.ofNat 16 (s.writeObstacle n)) = f) := by
  cases i with
  | ret =>
    simp only [run]
    split <;> simp_all [readLength?, writeLength?]
  | call target =>
    simp only [run]
    split <;> simp_all [readLength?, writeLength?]
  | draw x y height =>
    simp [run, readLength?, writeLength?, State.guardRead_eq_error_iff]
  | load x =>
    simp [run, readLength?, writeLength?, State.guardRead_eq_error_iff]
  | decimal x =>
    simp [run, readLength?, writeLength?, State.guardWrite_eq_error_iff]
  | store x =>
    simp [run, readLength?, writeLength?, State.guardWrite_eq_error_iff]
  | _ => simp [run, readLength?, writeLength?]

end Instruction

end Chip8
