import Chip8.Proofs.CallStack
import Chip8.Proofs.Invariant
import Chip8.Proofs.Reading
import Chip8.Proofs.WriteSet

/-!
# From a call to the word behind it

A call of a subroutine that only returns takes two slots (`State.CallsReturn`). The stack keeps
twelve bits of the return address, which is all of it unless the call stands in the last word of
memory: behind that call the machine goes on at address zero. Every other word that does not jump
leads from there past the end of memory, where the next slot faults (`step_step_of_lastWord`).

**`call_then_return`** says both, for every state.
-/

namespace Chip8

/-- A word that is not zero stands in memory. -/
theorem Memory.lt_of_wordAt_ne_zero {m : Memory} {a : Nat} (h : m.wordAt a ≠ 0) :
    a + 1 < memorySize := by
  rw [Memory.wordAt] at h
  split at h
  · assumption
  · exact absurd rfl h

/-- A running machine whose next slot is a call with room on the stack, of a subroutine that only
returns. -/
structure State.CallsReturn (s : State) : Prop extends s.Calls where
  target : s.memory.wordAt (wordAddress s.fetch).toNat = 0x00EE

namespace State

variable {s : State}

/-! ## Two slots -/

theorem returns_of_callsReturn (h : s.CallsReturn) : s.step.Returns := by
  have hdepth := depth_of_calls h.toCalls
  rw [step_of_calls h.toCalls] at hdepth ⊢
  have hpc : ((wordAddress s.fetch).setWidth 16).toNat = (wordAddress s.fetch).toNat :=
    BitVec.toNat_setWidth_of_le (by decide)
  have hmemory : (wordAddress s.fetch).toNat + 1 < memorySize :=
    Memory.lt_of_wordAt_ne_zero (m := s.memory) (by simp [h.target])
  have hf : canFetch { s with
      stack := s.stack.push (s.pc + 2), pc := (wordAddress s.fetch).setWidth 16 } = true :=
    canFetch_iff.2 (by rwa [hpc])
  refine ⟨⟨h.not_halted, h.not_waiting⟩, hf, BitVec.eq_of_toNat_eq ?_, by omega⟩
  rw [toNat_fetch hf, hpc, h.target]
  rfl

theorem run_two_of_callsReturn (h : s.CallsReturn) : s.run 2 =
    { s with stack := (s.stack.push (s.pc + 2)).pop.1, pc := (s.pc + 2) &&& addressMask } := by
  have hroom := CallStack.isFull_eq_false_iff.2 h.room
  show s.step.step = _
  rw [step_of_returns (returns_of_callsReturn h), step_of_calls h.toCalls,
    CallStack.top_pop_push _ _ hroom]

/-- The stack keeps the address behind a call, unless memory ends there. -/
theorem masked_pc (hf : s.canFetch = true) :
    (s.pc + 2) &&& addressMask = if s.pc = 0xFFE then 0 else s.pc + 2 := by
  split
  · rename_i hend
    rw [hend]
    rfl
  · rename_i hend
    have hne : s.pc.toNat ≠ 0xFFE := fun h => hend (BitVec.eq_of_toNat_eq h)
    have hlt : s.pc.toNat + 1 < 4096 := canFetch_iff.1 hf
    have hpc : (s.pc + 2).toNat = s.pc.toNat + 2 := by
      rw [BitVec.toNat_add]
      exact Nat.mod_eq_of_lt (show s.pc.toNat + 2 < 2 ^ 16 by omega)
    refine BitVec.eq_of_toNat_eq ?_
    rw [CallStack.toNat_and_addressMask, hpc]
    omega

/-! ## The end of memory -/

/-- A word at the end of memory that does not jump leads past it, and the next slot faults. -/
theorem step_step_of_lastWord (hrun : s.Running) (hpc : s.pc = 0xFFE) (hjump : ¬ Jumps s.fetch)
    (hnext : s.step.Running) :
    s.step.pc = (if Skips s s.fetch then 0x1002 else 0x1000) ∧
      s.step.step = s.step.withStatus (.ofFault (.memoryOutOfBounds s.step.pc) s.step.pc 0) := by
  have hf : s.canFetch = true := by simp [canFetch, hpc]
  have hbehind : s.step.pc = if Skips s s.fetch then 0x1002 else 0x1000 := by
    have hexecute := step_of_canFetch hrun hf
    obtain ⟨-, t, ht⟩ := halted_execute_iff.1 (hexecute ▸ hnext.not_halted)
    obtain ⟨i, hd, hi⟩ := carriesOut_iff.1 ht
    rw [hexecute, ht.execute_eq hrun.not_halted, Instruction.pc_of_run hi,
      nextPc_of_decode? hd hjump, hpc]
    rfl
  have hpast : memorySize ≤ s.step.pc.toNat := by
    rw [hbehind]
    split <;> decide
  have hf' : s.step.canFetch = false := canFetch_eq_false_iff.2 (Nat.le_succ_of_le hpast)
  refine ⟨hbehind, ?_⟩
  rw [step_of_not_canFetch hnext hf', fetchFault, Nat.max_eq_left hpast, BitVec.ofNat_toNat,
    BitVec.setWidth_eq]

end State

/-- **From a call to the word behind it.** After a call of a subroutine that only returns, the
machine goes on with the next word, and nothing is different but that the free slot of the stack is
cleared. From the last word of memory it goes on at address zero, though every other word there that
does not jump leads to a fault. -/
theorem call_then_return (s : State) :
    (s.CallsReturn →
      (s.run 2).Running ∧ AgreeBut [.stack, .pc] s (s.run 2) ∧
      (s.run 2).stack.depth = s.stack.depth ∧
      (∀ i < stackSize, (s.run 2).stack.slot i =
        if s.stack.depth.toNat = i then 0 else s.stack.slot i) ∧
      (s.run 2).pc = if s.pc = 0xFFE then 0 else s.pc + 2) ∧
    (s.Running → s.pc = 0xFFE → ¬ Jumps s.fetch → s.step.Running →
      s.step.pc = (if Skips s s.fetch then 0x1002 else 0x1000) ∧
      s.step.step = s.step.withStatus (.ofFault (.memoryOutOfBounds s.step.pc) s.step.pc 0)) := by
  refine ⟨fun h => ?_, fun hrun hpc hjump hnext => ?_⟩
  · rw [State.run_two_of_callsReturn h]
    have hrun : s.Running := h.toRunning
    refine ⟨⟨hrun.not_halted, hrun.not_waiting⟩, fun p hp => ?_, ?_, ?_, ?_⟩
    · cases p <;> simp_all [Part.Kept]
    · exact CallStack.depth_pop_push ..
    · exact fun i hi => CallStack.slot_pop_push _ _ hi
    · exact State.masked_pc h.canFetch
  · exact State.step_step_of_lastWord hrun hpc hjump hnext

/-- A machine whose last word of memory sets a register. -/
def atLastLoad : State := .withRom .keyed ⟨0, 0⟩ [0x60, 0x05] 0xFFE

theorem fetch_atLastLoad : atLastLoad.fetch = 0x6005 := by
  simp [State.fetch, atLastLoad, State.withRom, State.powerOn, Memory.read_writeAll, memorySize]

theorem callsReturn_beforeCall : beforeCall.CallsReturn := by
  refine ⟨calls_beforeCall, ?_⟩
  rw [fetch_beforeCall]
  simp [Memory.wordAt, beforeCall, subroutineRom, State.withRom, State.powerOn,
    Memory.read_writeAll, memorySize, programStart, wordAddress]

/-- A call at 0x200 goes on at 0x202, and a word that sets a register leads past the end of memory,
where the next slot faults. -/
theorem call_and_lastLoad :
    beforeCall.CallsReturn ∧ (beforeCall.run 2).pc = 0x202 ∧
      atLastLoad.Running ∧ ¬ Jumps atLastLoad.fetch ∧ atLastLoad.step.Running ∧
      atLastLoad.step.pc = 0x1000 ∧ atLastLoad.step.step =
        atLastLoad.step.withStatus (.ofFault (.memoryOutOfBounds 0x1000) 0x1000 0) := by
  have hrun : atLastLoad.Running := ⟨rfl, rfl⟩
  have hjump : ¬ Jumps atLastLoad.fetch := by
    rw [fetch_atLastLoad]
    decide
  have hskip : ¬ Skips atLastLoad atLastLoad.fetch := by
    rw [fetch_atLastLoad]
    decide
  have hnext : atLastLoad.step.Running := by
    have hload : decode? atLastLoad.fetch = some (.loadByte 0 5) :=
      decode?_eq_loadByte_iff.2 (by rw [fetch_atLastLoad]; decide)
    rw [step_of_run hrun (by decide) hload rfl]
    exact ⟨rfl, rfl⟩
  obtain ⟨-, -, -, -, hpc⟩ := (call_then_return beforeCall).1 callsReturn_beforeCall
  obtain ⟨hbehind, hfault⟩ := (call_then_return atLastLoad).2 hrun rfl hjump hnext
  rw [if_neg hskip] at hbehind
  rw [hbehind] at hfault
  exact ⟨callsReturn_beforeCall, hpc, hrun, hjump, hnext, hbehind, hfault⟩

/-- A program in the last six bytes of memory: it jumps to its last word, which calls the return in
front of it. -/
def callAtEnd : State := .withRom .keyed ⟨0, 0⟩ [0x1F, 0xFE, 0x00, 0xEE, 0x2F, 0xFC] 0xFFA

/-- The machine about to call from the last word of memory. -/
def atLastCall : State := { callAtEnd with pc := 0xFFE }

theorem fetch_atLastCall : atLastCall.fetch = 0x2FFC := by
  simp [State.fetch, atLastCall, callAtEnd, State.withRom, State.powerOn, Memory.read_writeAll,
    memorySize]

theorem reachable_atLastCall : Reachable atLastCall := by
  have hstart : Reachable callAtEnd := .start (started_iff.2 ⟨_, _, _, _, by decide, rfl⟩)
  have hfetch : callAtEnd.fetch = 0x1FFE := by
    simp [State.fetch, callAtEnd, State.withRom, State.powerOn, Memory.read_writeAll, memorySize]
  have hjump : decode? callAtEnd.fetch = some (.jump 0xFFE) :=
    decode?_eq_jump_iff.2 (by rw [hfetch]; decide)
  have hstep : callAtEnd.step = atLastCall := step_of_run ⟨rfl, rfl⟩ (by decide) hjump rfl
  exact hstep ▸ hstart.event .slot

theorem callsReturn_atLastCall : atLastCall.CallsReturn := by
  refine ⟨⟨⟨rfl, rfl⟩, by decide, by rw [fetch_atLastCall]; decide, by decide⟩, ?_⟩
  rw [fetch_atLastCall]
  simp [Memory.wordAt, atLastCall, callAtEnd, State.withRom, State.powerOn, Memory.read_writeAll,
    memorySize, wordAddress]

/-- A call in the last word of memory does not go on behind it but at address zero, from where a
word can be fetched. -/
theorem lastCall_around_end :
    Reachable atLastCall ∧ atLastCall.CallsReturn ∧
      (atLastCall.run 2).pc = 0 ∧ (atLastCall.run 2).pc ≠ atLastCall.pc + 2 ∧
      (atLastCall.run 2).canFetch = true := by
  have hrun : (atLastCall.run 2).pc = 0 := by
    rw [State.run_two_of_callsReturn callsReturn_atLastCall]
    rfl
  refine ⟨reachable_atLastCall, callsReturn_atLastCall, hrun, ?_, ?_⟩
  · rw [hrun]
    decide
  · rw [State.canFetch, hrun]
    decide

end Chip8
