import Chip8.Proofs.CallStack
import Chip8.Proofs.FaultCause

/-!
# The invariant of reachable states

`State.Consistent` collects what holds of a machine from the moment a program is loaded: how large
the index, the program counter and the register of a wait can get, that the stack is well formed,
and what the status says. A status without a fault is clear. A status with a fault names the place
where the machine still stands and the word that is still there, and its address is one that a fault
can have.

**`reachable_consistent`.** Every reachable state is consistent. No instruction takes the program
counter past `0x10FE`: a jump with an offset adds at most `0xFF` to a twelve-bit address, a return
goes to a twelve-bit address, and every other instruction starts at a place from which a word could
be fetched. So no sum with the program counter wraps.

The proof is an induction over the events. Of the five kinds of slots, the two that fault are taken
together through `FaultCause`, whose record has all that the status has to say.
-/

namespace Chip8

/-! ## The invariant -/

/-- The addresses that the record of a memory fault can have: a glyph byte, or one past memory. -/
def FaultAddress (a : Nat) : Prop := 0x050 ≤ a ∧ a ≤ 0x09F ∨ 0x1000 ≤ a ∧ a ≤ 0x10FE

/-- The number of the word at an address, high byte first; zero if it is not in memory. -/
def Memory.wordAt (m : Memory) (a : Nat) : Nat :=
  if a + 1 < memorySize then 256 * (m.read a).toNat + (m.read (a + 1)).toNat else 0

/-- What holds of every machine that was started properly. -/
structure State.Consistent (s : State) : Prop where
  index_le : s.index.toNat ≤ 0xFFF
  pc_le : s.pc.toNat ≤ 0x10FE
  stack : s.stack.WellFormed
  register_le : s.wait.register.toNat ≤ 15
  code_le : s.status.code.toNat ≤ 4
  not_waiting_halted : ¬ (s.wait.pending = true ∧ s.halted = true)
  clear_of_running : s.halted = false → s.status = .clear
  pc_eq : s.halted = true → s.status.pc = s.pc
  word_eq : s.halted = true → s.status.word.toNat = s.memory.wordAt s.pc.toNat
  address_eq_zero : s.halted = true → s.status.code ≠ 4 → s.status.address = 0
  address_mem : s.status.code = 4 → FaultAddress s.status.address.toNat

namespace State

variable {s t : State}

/-- A word that can be fetched is the word in memory. -/
theorem toNat_fetch (h : s.canFetch = true) : s.fetch.toNat = s.memory.wordAt s.pc.toNat := by
  have hlt := canFetch_iff.1 h
  have hlow := (s.memory.read (s.pc.toNat + 1)).isLt
  rw [Memory.wordAt, if_pos hlt, fetch, toNat_pc_add_one h, BitVec.toNat_append,
    ← Nat.shiftLeft_add_eq_or_of_lt hlow, Nat.shiftLeft_eq]
  omega

/-- The invariant looks at the index, the program counter, the stack, the memory, the status and the
register of a wait, and it lets a wait end. -/
theorem Consistent.of_kept (h : s.Consistent) (hindex : t.index = s.index) (hpc : t.pc = s.pc)
    (hstack : t.stack = s.stack) (hmemory : t.memory = s.memory) (hstatus : t.status = s.status)
    (hregister : t.wait.register = s.wait.register)
    (hpending : t.wait.pending = true → s.wait.pending = true) : t.Consistent := by
  cases s
  cases t
  subst hindex hpc hstack hmemory hstatus
  exact ⟨h.index_le, h.pc_le, h.stack, hregister ▸ h.register_le, h.code_le,
    fun hboth => h.not_waiting_halted ⟨hpending hboth.1, hboth.2⟩, h.clear_of_running, h.pc_eq,
    h.word_eq, h.address_eq_zero, h.address_mem⟩

/-- Without a fault only the bounds are left to say. -/
theorem Consistent.of_clear (hindex : s.index.toNat ≤ 0xFFF) (hpc : s.pc.toNat ≤ 0x10FE)
    (hstack : s.stack.WellFormed) (hregister : s.wait.register.toNat ≤ 15)
    (hstatus : s.status = .clear) : s.Consistent := by
  have hcode : s.status.code = 0 := by
    rw [hstatus]
    rfl
  have hhalted : s.halted = false := halted_eq_false_iff.2 hcode
  have hnever : ¬ s.halted = true := by simp [hhalted]
  refine ⟨hindex, hpc, hstack, hregister, ?_, fun hboth => hnever hboth.2, fun _ => hstatus,
    fun hh => absurd hh hnever, fun hh => absurd hh hnever, fun hh => absurd hh hnever, ?_⟩
  · rw [hcode]
    decide
  · rw [hcode]
    exact fun hne => absurd hne (by decide)

theorem Consistent.pc_add (h : s.Consistent) {k : Word} (hk : k.toNat ≤ 4) :
    (s.pc + k).toNat = s.pc.toNat + k.toNat := by
  have hpc := h.pc_le
  rw [BitVec.toNat_add]
  exact Nat.mod_eq_of_lt (by omega)

/-! ## Slots that fault -/

theorem faultAddress_of_applies (h : s.Consistent) {c : FaultCause} (hcode : c.code = 4) :
    FaultAddress (c.address s) := by
  have hpc := h.pc_le
  have hindex := h.index_le
  cases c with
  | noInstruction | fullStack | emptyStack => exact absurd hcode (by decide)
  | noWord | unreadable =>
    right
    simp only [FaultCause.address, memorySize]
    omega
  | unwritable =>
    simp only [FaultCause.address]
    cases writeExtent? s.fetch with
    | none =>
      right
      simp only [Option.bind_none, Option.getD_none, memorySize]
      omega
    | some n =>
      rw [Option.bind_some, firstFontByte?_eq]
      split
      · rename_i hfont
        obtain ⟨j, h1, -, -, h4⟩ := (touchesFont_iff _ _).1 hfont
        left
        simp only [Option.getD_some, fontStart, fontEnd] at *
        omega
      · right
        simp only [Option.getD_none, memorySize]
        omega

theorem toNat_word_of_applies {c : FaultCause} (hc : c.Applies s) :
    (c.word s).toNat = s.memory.wordAt s.pc.toNat := by
  unfold FaultCause.Applies at hc
  split at hc
  · rename_i hend
    subst hc
    rw [Memory.wordAt, if_neg (Nat.not_lt.2 hend)]
    rfl
  · rename_i hend
    rw [← toNat_fetch (canFetch_iff.2 (Nat.lt_of_not_le hend))]
    cases c with
    | noWord => cases hc
    | _ => rfl

/-- The record of a cause is a status that a consistent machine can have. -/
theorem Consistent.record (h : s.Consistent) (hrun : s.Running) {c : FaultCause}
    (hc : c.Applies s) : (s.withStatus (c.record s)).Consistent where
  index_le := h.index_le
  pc_le := h.pc_le
  stack := h.stack
  register_le := h.register_le
  code_le := c.code_le
  not_waiting_halted hboth := absurd hboth.1 (by simp [withStatus, hrun.not_waiting])
  clear_of_running hh := absurd hh (by simp [FaultCause.halted_record s c])
  pc_eq _ := rfl
  word_eq _ := toNat_word_of_applies hc
  address_eq_zero _ hcode := by
    cases c with
    | noInstruction | fullStack | emptyStack => rfl
    | noWord | unreadable | unwritable => exact absurd rfl hcode
  address_mem hcode := by
    show FaultAddress (c.record s).address.toNat
    rw [FaultCause.toNat_address_record]
    exact faultAddress_of_applies h hcode

/-! ## Slots that carry an instruction out -/

theorem toNat_nextPc_le {i : Instruction} (hpc : s.pc.toNat ≤ 0x1000)
    (hret : i = .ret → s.stack.pop.2.toNat ≤ 0xFFF) : (i.nextPc s).toNat ≤ 0x10FE := by
  cases i with
  | ret => exact Nat.le_trans (hret rfl) (by decide)
  | jump target | call target =>
    have htarget := target.isLt
    simp only [Instruction.nextPc, BitVec.toNat_setWidth]
    omega
  | jumpOffset x base =>
    have hbase := base.isLt
    have hoffset := (s.registers.get x).isLt
    simp only [Instruction.nextPc, BitVec.toNat_add, BitVec.toNat_setWidth]
    omega
  | skipIf condition =>
    simp only [Instruction.nextPc]
    split
    · rw [BitVec.toNat_add]
      exact Nat.le_trans (Nat.mod_le _ _) (by simp; omega)
    · omega
  | _ => exact Nat.le_trans hpc (by decide)

theorem toNat_advanced_pc_le (hf : s.canFetch = true) : s.advanced.pc.toNat ≤ 0x1000 := by
  have hlt := canFetch_iff.1 hf
  simp only [memorySize] at hlt
  simp only [advanced, BitVec.toNat_add]
  exact Nat.le_trans (Nat.mod_le _ _) (by simp; omega)

theorem Consistent.run (h : s.Consistent) (hrun : s.Running) (hf : s.canFetch = true)
    {i : Instruction} (hd : decode? s.fetch = some i) (hi : i.run s.advanced = .ok t) :
    t.Consistent := by
  have hstep : s.step = t := step_of_run hrun hf hd hi
  refine .of_clear ?_ ?_ ?_ ?_ ?_
  · rcases Instruction.index_of_run hi with hindex | hindex
    · rw [hindex]
      exact h.index_le
    · exact hindex
  · rw [Instruction.pc_of_run hi]
    refine toNat_nextPc_le (toNat_advanced_pc_le hf) ?_
    rintro rfl
    obtain ⟨hentry, -⟩ := Instruction.run_ret_eq_ok_iff.1 hi
    exact h.stack.toNat_pop_le hentry
  · rw [← hstep]
    exact wellFormed_stack_apply h.stack .slot
  · rcases Instruction.wait_of_run hi with hwait | ⟨x, hwait⟩
    · rw [hwait]
      exact h.register_le
    · have hx := x.isLt
      simp only [hwait, BitVec.toNat_setWidth]
      omega
  · rw [Instruction.status_of_run hi]
    exact h.clear_of_running hrun.not_halted

/-! ## Events -/

theorem Consistent.step (h : s.Consistent) : s.step.Consistent := by
  generalize ht : s.step = t
  have hslot : Slot s t := ht ▸ slot_step s
  cases hslot with
  | stay => exact h
  | poll =>
    have hkept := fun p hp => kept_pollKey s (p := p) hp
    exact h.of_kept (hkept .index (by decide)) (hkept .pc (by decide)) (hkept .stack (by decide))
      (hkept .memory (by decide)) (status_pollKey s) (register_pollKey s) pending_of_pollKey
  | unfetched hrun hf =>
    have hc : FaultCause.noWord.Applies s := by
      rw [FaultCause.Applies, if_pos (canFetch_eq_false_iff.1 hf)]
    exact h.record hrun hc
  | fault hrun hf hr =>
    obtain ⟨c, hc⟩ := FaultCause.exists_appliesTo h.stack.depth_le hr
    have hc : c.Applies s := by
      rw [FaultCause.Applies, if_neg (Nat.not_le.2 (canFetch_iff.1 hf))]
      exact hc
    rw [← ht, FaultCause.step_of_applies hrun hc]
    exact h.record hrun hc
  | run hrun hf hd hi => exact h.run hrun hf hd hi

theorem Consistent.apply (h : s.Consistent) (e : Event) : (s.apply e).Consistent := by
  cases e with
  | slot => exact h.step
  | tick => exact h.of_kept rfl rfl rfl rfl rfl rfl id
  | keys keypad => exact h.of_kept rfl rfl rfl rfl rfl rfl id

theorem consistent_of_started (h : Started s) : s.Consistent := by
  obtain ⟨source, key, rom, a, hnone, rfl⟩ := started_iff.1 h
  obtain ⟨hlow, hhigh⟩ := bounds_of_obstacle?_eq_none hnone
  refine .of_clear (Nat.zero_le _) ?_ CallStack.wellFormed_empty (Nat.zero_le _) rfl
  simp only [memorySize] at hhigh
  simp only [withRom, powerOn, BitVec.toNat_ofInt]
  omega

end State

/-- **Every reachable state is consistent**, and its program counter is far enough from the greatest
word that no sum with it wraps. -/
theorem reachable_consistent {s : State} (h : Reachable s) :
    s.Consistent ∧ ∀ k : Word, k.toNat ≤ 4 → (s.pc + k).toNat = s.pc.toNat + k.toNat := by
  have hs : s.Consistent := by
    induction h with
    | start hstart => exact State.consistent_of_started hstart
    | event e _ ih => exact ih.apply e
  exact ⟨hs, fun k hk => hs.pc_add hk⟩

/-- A program that jumps as far as a program can. -/
def farJumpRom : Rom := [0x6F, 0xFF, 0xBF, 0xFF]

/-- The machine at the start of the program. -/
def beforeFarJump : State := .withRom .keyed ⟨0, 0⟩ farJumpRom programStart

/-- The machine with the offset of the jump in its register. -/
def atFarJump : State :=
  { beforeFarJump with registers := beforeFarJump.registers.set 0xF 0xFF, pc := 0x202 }

/-- The machine past the end of memory, with its fault. -/
def afterFarJump : State := { atFarJump with pc := 0x10FE, status := ⟨4, 0x10FE, 0, 0x10FE⟩ }

theorem fetch_beforeFarJump : beforeFarJump.fetch = 0x6FFF := by
  simp [State.fetch, beforeFarJump, farJumpRom, State.withRom, State.powerOn,
    Memory.read_writeAll, memorySize, programStart]

theorem fetch_atFarJump : atFarJump.fetch = 0xBFFF := by
  simp [State.fetch, atFarJump, beforeFarJump, farJumpRom, State.withRom, State.powerOn,
    Memory.read_writeAll, memorySize, programStart]

theorem reachable_afterFarJump : Reachable afterFarJump := by
  have hstart : Reachable beforeFarJump :=
    .start (started_iff.2 ⟨_, _, _, _, by decide, rfl⟩)
  have hload : beforeFarJump.step = atFarJump :=
    step_of_run (i := .loadByte 0xF 0xFF) ⟨rfl, rfl⟩ (by decide)
      (by rw [fetch_beforeFarJump]; decide) rfl
  have hjump : atFarJump.step = { atFarJump with pc := 0x10FE } :=
    step_of_run (i := .jumpOffset 0xF 0xFFF) ⟨rfl, rfl⟩ (by decide)
      (by rw [fetch_atFarJump]; decide) rfl
  have hfault : ({ atFarJump with pc := 0x10FE } : State).step = afterFarJump :=
    step_of_not_canFetch ⟨rfl, rfl⟩ (by decide)
  rw [← hfault, ← hjump, ← hload]
  exact ((hstart.event .slot).event .slot).event .slot

/-- The bound on the program counter is attained, by a machine that has halted there. -/
theorem consistent_afterFarJump :
    Reachable afterFarJump ∧ afterFarJump.Consistent ∧ afterFarJump.pc.toNat = 0x10FE ∧
      (afterFarJump.pc + 4).toNat = afterFarJump.pc.toNat + 4 ∧
      FaultAddress afterFarJump.status.address.toNat := by
  obtain ⟨hconsistent, hadd⟩ := reachable_consistent reachable_afterFarJump
  exact ⟨reachable_afterFarJump, hconsistent, rfl, hadd 4 (by decide), hconsistent.address_mem rfl⟩

end Chip8
