import Chip8.Proofs.WriteSet

/-!
# Exact arithmetic

An operation on two registers leaves a byte and, if it is one of five, a flag. Bytes wrap, and the
flag says what was lost: `AluOp.Balanced` is the equation between whole numbers that the operands,
the result and the flag satisfy together. A carry is worth 256, a borrow is 256 that is missing and
is told by a flag of zero, and a shift to the right has its odd one in the flag.

**`arithmetic_exact`** says this of every word for such an operation, and what the words for the
other four and for the addition of a byte leave. Operands are read before anything is written, and
the flag is written last. So the equation holds for any two registers, be they one and the same or
the flag register itself; only where the flag register should receive the result it has the flag.
-/

namespace Chip8

namespace AluOp

variable {op : AluOp} {a b : Byte}

/-- The equation between the operands `a` and `b` of an operation that sets a flag, its result `r`
and its flag `f`, all taken as whole numbers. -/
def Balanced (a b r f : Int) : AluOp → Prop
  | add => r + 256 * f = a + b
  | sub => r - 256 * (1 - f) = a - b
  | subFrom => r - 256 * (1 - f) = b - a
  | shiftRight => 2 * r + f = a
  | shiftLeft => r + 256 * f = 2 * a
  | copy | or | and | xor => False

/-- What an operation that sets no flag makes of two numbers, bit by bit. -/
def bitwise? (a b : Nat) : AluOp → Option Nat
  | copy => some b
  | or => some (a ||| b)
  | and => some (a &&& b)
  | xor => some (a ^^^ b)
  | add | sub | shiftRight | subFrom | shiftLeft => none

/-! ## Bytes -/

theorem balanced_add (a b : Byte) :
    add.Balanced a.toNat b.toNat (a + b).toNat (decide (255 < a.toNat + b.toNat)).toNat := by
  have ha := a.isLt
  have hb := b.isLt
  simp only [Balanced, BitVec.toNat_add]
  by_cases h : 255 < a.toNat + b.toNat
  · simp only [h, decide_true, Bool.toNat_true]
    omega
  · simp only [h, decide_false, Bool.toNat_false]
    omega

/-- A difference and whether it needs no borrow. -/
theorem balanced_difference (a b : Byte) :
    ((a - b).toNat : Int) - 256 * (1 - (decide (b ≤ a)).toNat) = a.toNat - b.toNat := by
  have ha := a.isLt
  have hb := b.isLt
  by_cases h : b ≤ a
  · rw [BitVec.toNat_sub_of_le h]
    simp only [h, decide_true, Bool.toNat_true]
    have hle := BitVec.le_def.1 h
    omega
  · have hlt := Nat.lt_of_not_le fun hle => h (BitVec.le_def.2 hle)
    simp only [h, decide_false, Bool.toNat_false, BitVec.toNat_sub]
    omega

theorem balanced_shiftRight (a b : Byte) :
    shiftRight.Balanced a.toNat b.toNat (a >>> 1).toNat (a.getLsbD 0).toNat := by
  have hhalf : (a >>> 1).toNat = a.toNat / 2 := by
    rw [BitVec.toNat_ushiftRight, Nat.shiftRight_eq_div_pow, Nat.pow_one]
  have hodd : (a.getLsbD 0).toNat = a.toNat % 2 := by
    rw [BitVec.getLsbD, Nat.testBit_zero]
    rcases Nat.mod_two_eq_zero_or_one a.toNat with h | h <;> simp [h]
  simp only [Balanced, hhalf, hodd]
  omega

theorem shiftLeft_one (a : Byte) : a <<< 1 = a + a := by
  apply BitVec.eq_of_toNat_eq
  rw [BitVec.toNat_shiftLeft, BitVec.toNat_add, Nat.shiftLeft_eq]
  omega

/-- The topmost bit is the carry of a number added to itself. -/
theorem msb_eq_carry (a : Byte) : a.msb = decide (255 < a.toNat + a.toNat) := by
  rw [BitVec.msb_eq_decide, decide_eq_decide]
  omega

theorem balanced_shiftLeft (a b : Byte) :
    shiftLeft.Balanced a.toNat b.toNat (a <<< 1).toNat a.msb.toNat := by
  have hsum := balanced_add a a
  rw [← shiftLeft_one, ← msb_eq_carry] at hsum
  simp only [Balanced] at hsum ⊢
  omega

/-- The result and the flag of an operation balance its operands. -/
theorem exists_balanced (h : op.SetsFlag) (a b : Byte) :
    ∃ flag, op.flag? a b = some flag ∧
      op.Balanced a.toNat b.toNat (op.result a b).toNat flag.toNat := by
  cases op with
  | copy | or | and | xor => exact h.elim
  | add => exact ⟨_, rfl, balanced_add a b⟩
  | sub => exact ⟨_, rfl, balanced_difference a b⟩
  | shiftRight => exact ⟨_, rfl, balanced_shiftRight a b⟩
  | subFrom => exact ⟨_, rfl, balanced_difference b a⟩
  | shiftLeft => exact ⟨_, rfl, balanced_shiftLeft a b⟩

theorem result_of_bitwise? {r : Nat} (h : op.bitwise? a.toNat b.toNat = some r) :
    op.flag? a b = none ∧ (op.result a b).toNat = r := by
  cases op with
  | copy => exact ⟨rfl, Option.some.inj h⟩
  | or => exact ⟨rfl, (BitVec.toNat_or a b).trans (Option.some.inj h)⟩
  | and => exact ⟨rfl, (BitVec.toNat_and a b).trans (Option.some.inj h)⟩
  | xor => exact ⟨rfl, (BitVec.toNat_xor a b).trans (Option.some.inj h)⟩
  | add | sub | shiftRight | subFrom | shiftLeft => cases h

end AluOp

/-! ## Registers -/

namespace Registers

variable {op : AluOp} {x y : Nibble}

theorem alu_of_flag (v : Registers) {flag : Bool}
    (h : op.flag? (v.get x) (v.get y) = some flag) :
    v.alu op x y = (v.set x (op.result (v.get x) (v.get y))).setFlag flag := by
  simp only [alu, h]

theorem alu_of_no_flag (v : Registers) (h : op.flag? (v.get x) (v.get y) = none) :
    v.alu op x y = v.set x (op.result (v.get x) (v.get y)) := by
  simp only [alu, h]

/-- A shift to the left adds a register to itself. -/
theorem alu_shiftLeft (v : Registers) (x y : Nibble) :
    v.alu .shiftLeft x y = v.alu .add x x := by
  rw [alu_of_flag v rfl, alu_of_flag v rfl, AluOp.result, AluOp.result, AluOp.shiftLeft_one,
    AluOp.msb_eq_carry]

end Registers

/-! ## States -/

/-- The machine has gone on with the next word, and nothing but the registers `xs` may be
different. -/
structure SetsOnly (xs : List Nibble) (s t : State) : Prop where
  pc_eq : t.pc = s.pc + 2
  kept : AgreeBut [.pc, .registers] s t
  others : ∀ z ∉ xs, t.registers.get z = s.registers.get z

namespace State

variable {s : State} {w : Word}

theorem setsOnly_advanced {xs : List Nibble} {v : Registers}
    (h : ∀ z ∉ xs, v.get z = s.registers.get z) :
    SetsOnly xs s { s.advanced with registers := v } := by
  refine ⟨rfl, ?_, h⟩
  intro p hp
  cases p <;> simp_all [Part.Kept, advanced]

theorem execute_alu (op : AluOp) (hs : s.halted = false) (hw : w &&& 0xF00F = op.value) :
    s.execute w =
      { s.advanced with registers := s.registers.alu op (wordX w) (wordY w) } := by
  have hd : decode? w = some (.alu op (wordX w) (wordY w)) := decode?_eq_alu_iff.2 ⟨hw, rfl, rfl⟩
  exact ((carriesOut_iff_of_decode? hd).2 rfl).execute_eq hs

theorem execute_addByte (hs : s.halted = false) (hw : w &&& 0xF000 = 0x7000) :
    s.execute w = { s.advanced with
      registers := s.registers.set (wordX w) (s.registers.get (wordX w) + wordByte w) } := by
  have hd := decode?_eq_addByte_iff.2 ⟨hw, rfl, rfl⟩
  exact ((carriesOut_iff_of_decode? hd).2 rfl).execute_eq hs

/-- One register is set and the others are left alone. -/
theorem setsOnly_set (s : State) (x : Nibble) (b : Byte) :
    SetsOnly [x] s { s.advanced with registers := s.registers.set x b } := by
  apply setsOnly_advanced
  intro z hz
  rw [Registers.get_set, if_neg fun heq => hz (List.mem_singleton.2 heq.symm)]

/-- One register and then the flag register are set and the others are left alone. -/
theorem setsOnly_setFlag (s : State) (x : Nibble) (b : Byte) (flag : Bool) :
    SetsOnly [x, flagRegister] s
      { s.advanced with registers := (s.registers.set x b).setFlag flag } := by
  apply setsOnly_advanced
  intro z hz
  obtain ⟨hx, hflag⟩ : z ≠ x ∧ z ≠ flagRegister := by simpa using hz
  rw [Registers.get_setFlag, if_neg hflag.symm, Registers.get_set, if_neg hx.symm]

end State

/-- **Exact arithmetic.** Let a machine that has not halted execute a word, and let `a` and `b` be
the numbers in the two registers that the word names. An operation with a flag leaves a flag and a
result that balance the operands, the flag in the flag register and the result in the first register
unless this is the flag register. An operation without a flag, and the addition of a byte, set the
first register alone. A shift to the left, whatever its second register, is the addition of the
first register to itself. -/
theorem arithmetic_exact {s : State} {w : Word} {a b : Nat} (hs : s.halted = false)
    (ha : (s.registers.get (wordX w)).toNat = a) (hb : (s.registers.get (wordY w)).toNat = b) :
    (∀ op : AluOp, w &&& 0xF00F = op.value → op.SetsFlag →
      SetsOnly [wordX w, flagRegister] s (s.execute w) ∧
      ∃ r f : Nat, r < 256 ∧ f < 2 ∧ op.Balanced a b r f ∧
        ((s.execute w).registers.get flagRegister).toNat = f ∧
        (wordX w ≠ flagRegister → ((s.execute w).registers.get (wordX w)).toNat = r)) ∧
    (∀ (op : AluOp) (r : Nat), w &&& 0xF00F = op.value → op.bitwise? a b = some r →
      SetsOnly [wordX w] s (s.execute w) ∧
      ((s.execute w).registers.get (wordX w)).toNat = r) ∧
    (w &&& 0xF000 = 0x7000 →
      SetsOnly [wordX w] s (s.execute w) ∧
      ((s.execute w).registers.get (wordX w)).toNat = (a + (wordByte w).toNat) % 256) ∧
    (∀ w' : Word, w &&& 0xF00F = 0x800E → w' &&& 0xF00F = 0x8004 → wordX w' = wordX w →
      wordY w' = wordX w → s.execute w = s.execute w') := by
  subst ha hb
  refine ⟨fun op hw hop => ?_, fun op r hw hr => ?_, fun hw => ?_, fun w' hw hw' hx hy => ?_⟩
  · obtain ⟨flag, hflag, hbalanced⟩ := AluOp.exists_balanced hop (s.registers.get (wordX w))
      (s.registers.get (wordY w))
    rw [State.execute_alu op hs hw, Registers.alu_of_flag _ hflag]
    refine ⟨State.setsOnly_setFlag s _ _ flag, _, _, BitVec.isLt _, Bool.toNat_lt flag, hbalanced,
      ?_, fun hx => ?_⟩
    · show (Registers.get _ flagRegister).toNat = _
      rw [Registers.get_setFlag, if_pos rfl]
      cases flag <;> rfl
    · show (Registers.get _ (wordX w)).toNat = _
      rw [Registers.get_setFlag, if_neg hx.symm, Registers.get_set, if_pos rfl]
  · obtain ⟨hflag, hresult⟩ := AluOp.result_of_bitwise? hr
    rw [State.execute_alu op hs hw, Registers.alu_of_no_flag _ hflag]
    refine ⟨State.setsOnly_set s _ _, ?_⟩
    show (Registers.get _ (wordX w)).toNat = r
    rw [Registers.get_set, if_pos rfl, hresult]
  · rw [State.execute_addByte hs hw]
    refine ⟨State.setsOnly_set s _ _, ?_⟩
    show (Registers.get _ (wordX w)).toNat = _
    rw [Registers.get_set, if_pos rfl, BitVec.toNat_add]
  · rw [State.execute_alu .shiftLeft hs hw, State.execute_alu .add hs hw',
      Registers.alu_shiftLeft, hx, hy]

/-- A machine with `0xC8` in its flag register and `0x64` in register 2. -/
def flagInUse : State :=
  { State.powerOn .keyed ⟨0, 0⟩ 0x200 with
    registers := (Registers.zero.set flagRegister 0xC8).set 2 0x64 }

/-- The flag register added to itself has the carry; taken from register 2 it leaves `0x9C` there
and no more than the borrow in itself. -/
theorem arithmetic_flagInUse :
    flagInUse.halted = false ∧
      ((flagInUse.execute 0x8FF4).registers.get flagRegister).toNat = 1 ∧
      ((flagInUse.execute 0x82F5).registers.get 2).toNat = 0x9C ∧
      ((flagInUse.execute 0x82F5).registers.get flagRegister).toNat = 0 ∧
      ((flagInUse.execute 0x7FFF).registers.get flagRegister).toNat = 0xC7 ∧
      flagInUse.execute 0x8F2E = flagInUse.execute 0x8FF4 := by
  have hs : flagInUse.halted = false := rfl
  obtain ⟨hdouble, -⟩ := arithmetic_exact (w := 0x8FF4) (a := 0xC8) (b := 0xC8) hs rfl rfl
  obtain ⟨-, r, f, hr, hf, hsum, hcarry, -⟩ := hdouble .add (by decide) trivial
  obtain ⟨htake, -⟩ := arithmetic_exact (w := 0x82F5) (a := 0x64) (b := 0xC8) hs rfl rfl
  obtain ⟨-, r', f', hr', hf', hdifference, hborrow, hresult⟩ := htake .sub (by decide) trivial
  obtain ⟨-, -, hadd, -⟩ := arithmetic_exact (w := 0x7FFF) (a := 0xC8) (b := 0xC8) hs rfl rfl
  obtain ⟨-, -, -, hshift⟩ := arithmetic_exact (w := 0x8F2E) (a := 0xC8) (b := 0x64) hs rfl rfl
  simp only [AluOp.Balanced] at hsum hdifference
  refine ⟨hs, ?_, ?_, ?_, (hadd (by decide)).2,
    hshift 0x8FF4 (by decide) (by decide) (by decide) (by decide)⟩
  · rw [hcarry]
    omega
  · refine (hresult (by decide)).trans ?_
    omega
  · rw [hborrow]
    omega

end Chip8
