import Chip8.Proofs.FaultCause
import Chip8.Proofs.Reading

/-!
# What a word may write

The frame rule for instructions (`Instruction.kept_of_run`) takes the registers and the memory as a
whole. Here they are looked at one by one, and the write sets are read off the bits of a word:
`WritesRegister` for the registers, `WritesCell` for the cells of memory, and `Writes` for the parts
of the state as a whole. `Jumps` and `Skips` say which words do not go on with the next one.

**`execute_writes_only`** says that a word that does not fault changes nothing outside its write
set, and that the program counter moves on by one word, or by two if the word skips one, unless the
word jumps. A run whose words all leave a part alone leaves it alone (`State.kept_run_of_avoids`).
-/

namespace Chip8

/-! ## Instructions -/

/-- The operation leaves a flag behind. -/
def AluOp.SetsFlag : AluOp → Prop
  | copy | or | and | xor => False
  | add | sub | shiftRight | subFrom | shiftLeft => True

namespace Instruction

variable {i : Instruction} {s t : State} {r : Nibble}

/-- The instruction may change a register. -/
def WritesRegister (r : Nibble) : Instruction → Prop
  | loadByte x _ | addByte x _ | random x _ | readDelay x => r = x
  | alu op x _ => r = x ∨ op.SetsFlag ∧ r = flagRegister
  | draw .. | addIndex _ => r = flagRegister
  | load x => r ≤ x
  | _ => False

theorem get_alu (v : Registers) {op : AluOp} {x : Nibble} (y : Nibble) (hx : r ≠ x)
    (hflag : op.SetsFlag → r ≠ flagRegister) : (v.alu op x y).get r = v.get r := by
  have hset (b : Byte) : (v.set x b).get r = v.get r := by
    rw [Registers.get_set, if_neg (Ne.symm hx)]
  have hboth (b : Byte) (flag : Bool) (hr : r ≠ flagRegister) :
      ((v.set x b).setFlag flag).get r = v.get r := by
    rw [Registers.get_setFlag, if_neg (Ne.symm hr), hset]
  cases op with
  | copy | or | and | xor => exact hset _
  | add | sub | shiftRight | subFrom | shiftLeft => exact hboth _ _ (hflag trivial)

/-- **The frame rule for registers.** -/
theorem register_of_run (h : i.run s = .ok t) (hr : ¬ i.WritesRegister r) :
    t.registers.get r = s.registers.get r := by
  cases i with
  | loadByte x k | addByte x k | random x k | readDelay x =>
    cases h
    exact (Registers.get_set ..).trans (if_neg (Ne.symm hr))
  | alu op x y =>
    cases h
    obtain ⟨hx, hflag⟩ := not_or.1 hr
    exact get_alu _ y hx fun hop heq => hflag ⟨hop, heq⟩
  | addIndex x =>
    cases h
    exact (Registers.get_setFlag ..).trans (if_neg (Ne.symm hr))
  | draw x y height =>
    obtain ⟨-, rfl⟩ := State.guardRead_eq_ok_iff.1 h
    exact (Registers.get_setFlag ..).trans (if_neg (Ne.symm hr))
  | load x =>
    obtain ⟨-, rfl⟩ := State.guardRead_eq_ok_iff.1 h
    have hbeyond : ¬ r ≤ x := hr
    show (s.loadWindow x).get r = _
    rw [State.loadWindow, Registers.get_ofFn, if_neg hbeyond]
  | _ =>
    have hregisters := kept_of_run h (p := .registers) (by simp [touched])
    rw [hregisters]

/-- What changes the registers changes some register. -/
theorem exists_writesRegister (h : .registers ∈ i.touched) : ∃ r, i.WritesRegister r := by
  cases i with
  | loadByte x _ | addByte x _ | random x _ | readDelay x => exact ⟨x, rfl⟩
  | alu op x y => exact ⟨x, .inl rfl⟩
  | draw | addIndex => exact ⟨flagRegister, rfl⟩
  | load x => exact ⟨x, BitVec.le_refl x⟩
  | _ => simp [touched] at h

/-- What changes the memory writes a number of bytes. -/
theorem exists_writeLength? (h : .memory ∈ i.touched) : ∃ n, i.writeLength? = some n := by
  cases i with
  | decimal | store => exact ⟨_, rfl⟩
  | _ => simp [touched] at h

end Instruction

/-! ## Words -/

section Words

variable {s : State} {w : Word} {i : Instruction} {r : Nibble}

/-- The word may change a register: the one it names first, the flag register, or one of those up to
the one it names. -/
def WritesRegister (w : Word) (r : Nibble) : Prop :=
  r = wordX w ∧ (w &&& 0xF000 ∈ [0x6000, 0x7000, 0xC000] ∨ w &&& 0xF0FF = 0xF007 ∨
    w &&& 0xF00F ∈ [0x8000, 0x8001, 0x8002, 0x8003, 0x8004, 0x8005, 0x8006, 0x8007, 0x800E]) ∨
  r = flagRegister ∧ (w &&& 0xF000 = 0xD000 ∨ w &&& 0xF0FF = 0xF01E ∨
    w &&& 0xF00F ∈ [0x8004, 0x8005, 0x8006, 0x8007, 0x800E]) ∨
  r ≤ wordX w ∧ w &&& 0xF0FF = 0xF065

/-- The word may change the cell at an address. -/
def WritesCell (s : State) (w : Word) (j : Nat) : Prop :=
  ∃ n, writeExtent? w = some n ∧ s.index.toNat ≤ j ∧ j < s.index.toNat + n

/-- The word may change something in a part of the state. -/
def Writes (w : Word) : Part → Prop
  | .memory => (writeExtent? w).isSome = true
  | .registers => ∃ r, WritesRegister w r
  | .pc => True
  | .index => w &&& 0xF000 = 0xA000 ∨ w &&& 0xF0FF ∈ [0xF01E, 0xF029]
  | .stack => w &&& 0xF000 = 0x2000 ∨ w = 0x00EE
  | .display => w = 0x00E0 ∨ w &&& 0xF000 = 0xD000
  | .delay => w &&& 0xF0FF = 0xF015
  | .sound => w &&& 0xF0FF = 0xF018
  | .wait => w &&& 0xF0FF = 0xF00A
  | .key => w &&& 0xF000 = 0xC000
  | .keypad | .status | .source => False

/-- The word sets the program counter. -/
def Jumps (w : Word) : Prop := w &&& 0xF000 ∈ [0x1000, 0x2000, 0xB000] ∨ w = 0x00EE

/-- The word skips the next one in a state. -/
def Skips (s : State) (w : Word) : Prop :=
  let x := s.registers.get (wordX w)
  let y := s.registers.get (wordY w)
  w &&& 0xF000 = 0x3000 ∧ x = wordByte w ∨ w &&& 0xF000 = 0x4000 ∧ x ≠ wordByte w ∨
  w &&& 0xF00F = 0x5000 ∧ x = y ∨ w &&& 0xF00F = 0x9000 ∧ x ≠ y ∨
  w &&& 0xF0FF = 0xE09E ∧ s.keypad.isDown (x.setWidth 4) = true ∨
  w &&& 0xF0FF = 0xE0A1 ∧ s.keypad.isDown (x.setWidth 4) = false

instance : Decidable (WritesRegister w r) := inferInstanceAs (Decidable (_ ∨ _))

instance : DecidablePred (Writes w)
  | .memory => inferInstanceAs (Decidable (_ = true))
  | .registers => inferInstanceAs (Decidable (∃ r, WritesRegister w r))
  | .pc => inferInstanceAs (Decidable True)
  | .index | .stack | .display => inferInstanceAs (Decidable (_ ∨ _))
  | .delay | .sound | .wait | .key => inferInstanceAs (Decidable (_ = _))
  | .keypad | .status | .source => inferInstanceAs (Decidable False)

instance : Decidable (Jumps w) := inferInstanceAs (Decidable (_ ∨ _))

instance : Decidable (Skips s w) := inferInstanceAs (Decidable (_ ∨ _))

theorem writesRegister_of_decode? (hd : decode? w = some i) (h : i.WritesRegister r) :
    WritesRegister w r := by
  cases i with
  | loadByte x k =>
    obtain ⟨hw, rfl, -⟩ := decode?_eq_loadByte_iff.1 hd
    exact .inl ⟨h, .inl (by rw [hw]; decide)⟩
  | addByte x k =>
    obtain ⟨hw, rfl, -⟩ := decode?_eq_addByte_iff.1 hd
    exact .inl ⟨h, .inl (by rw [hw]; decide)⟩
  | random x mask =>
    obtain ⟨hw, rfl, -⟩ := decode?_eq_random_iff.1 hd
    exact .inl ⟨h, .inl (by rw [hw]; decide)⟩
  | readDelay x =>
    obtain ⟨hw, rfl⟩ := decode?_eq_readDelay_iff.1 hd
    exact .inl ⟨h, .inr (.inl hw)⟩
  | alu op x y =>
    obtain ⟨hw, rfl, -⟩ := decode?_eq_alu_iff.1 hd
    rcases h with hx | ⟨hop, hflag⟩
    · exact .inl ⟨hx, .inr (.inr (by rw [hw]; cases op <;> decide))⟩
    · refine .inr (.inl ⟨hflag, .inr (.inr ?_)⟩)
      rw [hw]
      cases op with
      | copy | or | and | xor => exact hop.elim
      | _ => decide
  | draw x y height =>
    obtain ⟨hw, -⟩ := decode?_eq_draw_iff.1 hd
    exact .inr (.inl ⟨h, .inl hw⟩)
  | addIndex x =>
    obtain ⟨hw, -⟩ := decode?_eq_addIndex_iff.1 hd
    exact .inr (.inl ⟨h, .inr (.inl hw)⟩)
  | load x =>
    obtain ⟨hw, rfl⟩ := decode?_eq_load_iff.1 hd
    exact .inr (.inr ⟨h, hw⟩)
  | _ => exact h.elim

theorem writes_of_decode? (hd : decode? w = some i) {p : Part} (hp : p ∈ i.touched) :
    Writes w p := by
  cases p with
  | pc => trivial
  | memory =>
    obtain ⟨n, hn⟩ := Instruction.exists_writeLength? hp
    exact Option.isSome_iff_exists.2 ⟨n, writeExtent?_eq_some_iff.2 ⟨i, hd, hn⟩⟩
  | registers =>
    obtain ⟨r, hr⟩ := Instruction.exists_writesRegister hp
    exact ⟨r, writesRegister_of_decode? hd hr⟩
  | index =>
    cases i with
    | loadIndex address => exact .inl (decode?_eq_loadIndex_iff.1 hd).1
    | addIndex x => exact .inr (by rw [(decode?_eq_addIndex_iff.1 hd).1]; decide)
    | glyph x => exact .inr (by rw [(decode?_eq_glyph_iff.1 hd).1]; decide)
    | _ => simp [Instruction.touched] at hp
  | stack =>
    cases i with
    | call target => exact .inl (decode?_eq_call_iff.1 hd).1
    | ret => exact .inr (decode?_eq_ret_iff.1 hd)
    | _ => simp [Instruction.touched] at hp
  | display =>
    cases i with
    | clearScreen => exact .inl (decode?_eq_clearScreen_iff.1 hd)
    | draw x y height => exact .inr (decode?_eq_draw_iff.1 hd).1
    | _ => simp [Instruction.touched] at hp
  | delay =>
    cases i with
    | setDelay x => exact (decode?_eq_setDelay_iff.1 hd).1
    | _ => simp [Instruction.touched] at hp
  | sound =>
    cases i with
    | setSound x => exact (decode?_eq_setSound_iff.1 hd).1
    | _ => simp [Instruction.touched] at hp
  | wait =>
    cases i with
    | waitKey x => exact (decode?_eq_waitKey_iff.1 hd).1
    | _ => simp [Instruction.touched] at hp
  | key =>
    cases i with
    | random x mask => exact (decode?_eq_random_iff.1 hd).1
    | _ => simp [Instruction.touched] at hp
  | keypad | status | source => cases i <;> simp [Instruction.touched] at hp

/-! ## Where a word leads -/

theorem skips_iff :
    Skips s w ↔ ∃ condition, decode? w = some (.skipIf condition) ∧ condition.holds s = true := by
  constructor
  · rintro (⟨hw, h⟩ | ⟨hw, h⟩ | ⟨hw, h⟩ | ⟨hw, h⟩ | ⟨hw, h⟩ | ⟨hw, h⟩)
    · exact ⟨_, decode?_eq_skipIf_eqByte_iff.2 ⟨hw, rfl, rfl⟩, by simp [Condition.holds, h]⟩
    · exact ⟨_, decode?_eq_skipIf_neByte_iff.2 ⟨hw, rfl, rfl⟩, by simp [Condition.holds, h]⟩
    · exact ⟨_, decode?_eq_skipIf_eqReg_iff.2 ⟨hw, rfl, rfl⟩, by simp [Condition.holds, h]⟩
    · exact ⟨_, decode?_eq_skipIf_neReg_iff.2 ⟨hw, rfl, rfl⟩, by simp [Condition.holds, h]⟩
    · exact ⟨_, decode?_eq_skipIf_keyDown_iff.2 ⟨hw, rfl⟩, h⟩
    · exact ⟨_, decode?_eq_skipIf_keyUp_iff.2 ⟨hw, rfl⟩, by simp [Condition.holds, h]⟩
  · rintro ⟨condition, hd, h⟩
    cases condition with
    | eqByte x k =>
      obtain ⟨hw, rfl, rfl⟩ := decode?_eq_skipIf_eqByte_iff.1 hd
      exact .inl ⟨hw, by simpa [Condition.holds] using h⟩
    | neByte x k =>
      obtain ⟨hw, rfl, rfl⟩ := decode?_eq_skipIf_neByte_iff.1 hd
      exact .inr (.inl ⟨hw, by simpa [Condition.holds] using h⟩)
    | eqReg x y =>
      obtain ⟨hw, rfl, rfl⟩ := decode?_eq_skipIf_eqReg_iff.1 hd
      exact .inr (.inr (.inl ⟨hw, by simpa [Condition.holds] using h⟩))
    | neReg x y =>
      obtain ⟨hw, rfl, rfl⟩ := decode?_eq_skipIf_neReg_iff.1 hd
      exact .inr (.inr (.inr (.inl ⟨hw, by simpa [Condition.holds] using h⟩)))
    | keyDown x =>
      obtain ⟨hw, rfl⟩ := decode?_eq_skipIf_keyDown_iff.1 hd
      exact .inr (.inr (.inr (.inr (.inl ⟨hw, h⟩))))
    | keyUp x =>
      obtain ⟨hw, rfl⟩ := decode?_eq_skipIf_keyUp_iff.1 hd
      exact .inr (.inr (.inr (.inr (.inr ⟨hw, by simpa [Condition.holds] using h⟩))))

/-- A word that does not jump goes on with the next one, or skips it. -/
theorem nextPc_of_decode? (hd : decode? w = some i) (hjump : ¬ Jumps w) :
    i.nextPc s.advanced = if Skips s w then s.pc + 4 else s.pc + 2 := by
  have hstraight (hskip : ∀ condition, i ≠ .skipIf condition) : ¬ Skips s w := by
    rintro hs
    obtain ⟨condition, hd', -⟩ := skips_iff.1 hs
    exact hskip condition (Option.some.inj (hd.symm.trans hd'))
  cases i with
  | skipIf condition =>
    have hholds : Skips s w ↔ condition.holds s = true := by
      rw [skips_iff, hd]
      exact ⟨fun ⟨_, hcondition, h⟩ => by cases hcondition; exact h, fun h => ⟨_, rfl, h⟩⟩
    have hadvanced : condition.holds s.advanced = condition.holds s := by
      cases condition <;> rfl
    simp only [Instruction.nextPc, hadvanced, hholds]
    split
    · exact BitVec.add_assoc ..
    · rfl
  | ret => exact absurd (.inr (decode?_eq_ret_iff.1 hd)) hjump
  | jump target =>
    exact absurd (.inl (by rw [(decode?_eq_jump_iff.1 hd).1]; decide)) hjump
  | call target =>
    exact absurd (.inl (by rw [(decode?_eq_call_iff.1 hd).1]; decide)) hjump
  | jumpOffset x base =>
    exact absurd (.inl (by rw [(decode?_eq_jumpOffset_iff.1 hd).1]; decide)) hjump
  | _ => exact (if_neg (hstraight (by simp))).symm

end Words

/-! ## Slots -/

namespace State

variable {s : State} {p : Part} {n : Nat}

/-- A part that only words change is as it was after a slot whose word does not write it. -/
theorem kept_step_of_not_writes (hp : p ∉ [.pc, .registers, .wait, .status])
    (h : ∀ a w, s.executed? = some (a, w) → ¬ Writes w p) : p.Kept s s.step := by
  generalize ht : s.step = t
  have hslot : Slot s t := ht ▸ slot_step s
  cases hslot with
  | stay => exact Part.Kept.refl s p
  | poll =>
    have hpolled : [Part.registers, .wait] ⊆ [.pc, .registers, .wait, .status] := by decide
    exact kept_pollKey s fun hmem => hp (hpolled hmem)
  | unfetched | fault => cases p <;> simp_all [Part.Kept, withStatus, fetchFault]
  | run hrun hf hd hi =>
    have hw := h _ _ (executed?_eq_some_iff.2 ⟨hrun, hf, rfl, rfl⟩)
    have hbehind : p.Kept s s.advanced := kept_advanced_of_ne fun heq => hp (by simp [heq])
    exact hbehind.trans (Instruction.kept_of_run hi fun hmem => hw (writes_of_decode? hd hmem))

theorem kept_run_of_avoids (hp : p ∉ [.pc, .registers, .wait, .status])
    (h : s.Avoids n fun w => Writes w p) : p.Kept s (s.run n) := by
  induction n generalizing s with
  | zero => exact Part.Kept.refl s p
  | succ n ih => exact (kept_step_of_not_writes hp h.head).trans (ih h.step)

end State

/-- **Write sets.** A word that does not fault, on a machine that has not halted, changes nothing
outside its write set, and goes on with the next word or the one behind it unless it jumps. -/
theorem execute_writes_only {s : State} {w : Word} (h : (s.execute w).halted = false) :
    (∀ p, ¬ Writes w p → p.Kept s (s.execute w)) ∧
    (∀ r, ¬ WritesRegister w r → (s.execute w).registers.get r = s.registers.get r) ∧
    (∀ j < memorySize, ¬ WritesCell s w j → (s.execute w).memory.read j = s.memory.read j) ∧
    (¬ Jumps w → (s.execute w).pc = if Skips s w then s.pc + 4 else s.pc + 2) := by
  obtain ⟨hs, t, ht⟩ := State.halted_execute_iff.1 h
  rw [ht.execute_eq hs]
  obtain ⟨i, hd, hi⟩ := State.carriesOut_iff.1 ht
  refine ⟨fun p hp => ?_, fun r hr => ?_, fun j hj hcell => ?_, fun hjump => ?_⟩
  · have hbehind : p.Kept s s.advanced := State.kept_advanced_of_ne fun heq => hp (heq ▸ trivial)
    exact hbehind.trans (Instruction.kept_of_run hi fun hmem => hp (writes_of_decode? hd hmem))
  · have hregister := Instruction.register_of_run hi fun hwrites =>
      hr (writesRegister_of_decode? hd hwrites)
    exact hregister.trans rfl
  · refine Instruction.read_of_run hi hj fun n hn => ?_
    have houtside : ¬(s.index.toNat ≤ j ∧ j < s.index.toNat + n) := fun hinside =>
      hcell ⟨n, writeExtent?_eq_some_iff.2 ⟨i, hd, hn⟩, hinside⟩
    rw [State.index_advanced]
    omega
  · rw [Instruction.pc_of_run hi, nextPc_of_decode? hd hjump]

/-- A machine at the last even address, with zero in every register. -/
def atLastWord : State := .powerOn .keyed ⟨0, 0⟩ 0xFFFE

/-- A skip behind which the program counter starts over changes nothing else. -/
theorem skip_around_end :
    (atLastWord.execute 0x3000).halted = false ∧
      (∀ p : Part, p ≠ .pc → p.Kept atLastWord (atLastWord.execute 0x3000)) ∧
      (atLastWord.execute 0x3000).pc = 2 := by
  have h : (atLastWord.execute 0x3000).halted = false := rfl
  obtain ⟨hparts, -, -, hpc⟩ := execute_writes_only h
  refine ⟨h, fun p hp => hparts p ?_, (hpc (by decide)).trans rfl⟩
  cases p with
  | pc => exact absurd rfl hp
  | _ => decide

end Chip8
