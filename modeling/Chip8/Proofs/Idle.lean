import Chip8.Proofs.KeyWait

/-!
# Machines that stand still

A host can tell that a program has come to its end, or has nothing to do until a key is pressed, by
a slot that leaves every part of the machine as it is. `State.Idle` lists when that is so: the
machine has halted, or it waits and the keys that are down are those that it counts as held, or the
word at its program counter jumps to where this word stands.

**`step_eq_self_iff_idle`** says that there is no other case. Every other word moves the program
counter or the stack, every fault leaves a record, and a poll that ends a wait or lets go of a held
key shows in the wait. A machine that waits is therefore not always at rest: the keys that were let
up since the last poll are still to be noted. But without a fresh key one poll notes them all, and
from then on nothing changes as long as the keypad does not.
-/

namespace Chip8

namespace State

variable {s : State}

/-! ## Polls -/

theorem lowest?_eq_none_iff_not_fresh :
    (s.keypad.without s.stillHeld).lowest? = none ↔
      ∀ key, ¬ Fresh [s.wait.held] s.keypad key := by
  rw [Keypad.lowest?_eq_none_iff]
  refine forall_congr' fun key => ?_
  rw [← isDown_without_stillHeld_iff, Bool.not_eq_true]

/-- Without a fresh key, a key that is down is held. -/
theorem stillHeld_of_not_fresh (h : ∀ key, ¬ Fresh [s.wait.held] s.keypad key) :
    s.stillHeld = s.keypad := by
  apply Keypad.ext_isDown
  intro key
  have hkey := h key
  rw [fresh_singleton_iff] at hkey
  rw [stillHeld, Keypad.isDown_inter]
  cases hdown : s.keypad.isDown key with
  | false => exact Bool.and_false _
  | true =>
    cases hheld : s.wait.held.isDown key with
    | false => exact absurd ⟨hdown, hheld⟩ hkey
    | true => rfl

theorem pollKey_of_not_fresh (h : ∀ key, ¬ Fresh [s.wait.held] s.keypad key) :
    s.pollKey = { s with wait := { s.wait with held := s.keypad } } := by
  rw [pollKey_of_none (lowest?_eq_none_iff_not_fresh.2 h), stillHeld_of_not_fresh h]

/-- A poll leaves a machine as it is if the keys that are down are those that are held. -/
theorem pollKey_eq_self_iff (hw : s.wait.pending = true) :
    s.pollKey = s ↔ s.wait.held = s.keypad := by
  constructor
  · intro hpoll
    cases hlowest : (s.keypad.without s.stillHeld).lowest? with
    | some key =>
      rw [← hpoll, pollKey_of_some hlowest] at hw
      cases hw
    | none =>
      rw [pollKey_of_not_fresh (lowest?_eq_none_iff_not_fresh.1 hlowest)] at hpoll
      exact (congrArg (fun t => t.wait.held) hpoll).symm
  · intro hheld
    have hnone : ∀ key, ¬ Fresh [s.wait.held] s.keypad key := by
      intro key hfresh
      obtain ⟨hdown, hup⟩ := fresh_singleton_iff.1 hfresh
      rw [hheld, hdown] at hup
      cases hup
    have hwait : { s.wait with held := s.keypad } = s.wait := by rw [← hheld]
    rw [pollKey_of_not_fresh hnone, hwait]

end State

/-! ## Words -/

/-- The word goes on where it stands: it is a jump to this address, or a jump with an offset whose
sum with the register is this address. -/
def JumpsToSelf (s : State) (w : Word) : Prop :=
  w &&& 0xF000 = 0x1000 ∧ (wordAddress w).toNat = s.pc.toNat ∨
  w &&& 0xF000 = 0xB000 ∧
    (wordAddress w).toNat + (s.registers.get (wordX w)).toNat = s.pc.toNat

instance (s : State) : DecidablePred (JumpsToSelf s) := fun _ => inferInstanceAs (Decidable (_ ∨ _))

theorem CallStack.push_ne_self (s : CallStack) (a : Word) : s.push a ≠ s := by
  intro h
  have hdepth : s.depth + 1 = s.depth := congrArg CallStack.depth h
  simp at hdepth

theorem CallStack.pop_ne_self (s : CallStack) : s.pop.1 ≠ s := by
  intro h
  have hdepth : s.depth - 1 = s.depth := congrArg CallStack.depth h
  bv_omega

namespace State

variable {s : State} {w : Word}

/-- A sum of an address and a byte does not wrap in a program counter. -/
theorem toNat_offset (base : Address) (b : Byte) :
    (base.setWidth 16 + b.setWidth 16).toNat = base.toNat + b.toNat := by
  have hbase := base.isLt
  have hb := b.isLt
  simp only [BitVec.toNat_add, BitVec.toNat_setWidth]
  omega

theorem advanced_at_eq_self {a : Word} (h : a.toNat = s.pc.toNat) :
    { s.advanced with pc := a } = s := by
  rw [BitVec.eq_of_toNat_eq h]
  rfl

theorem pc_advanced_ne (s : State) : s.advanced.pc ≠ s.pc ∧ s.advanced.pc + 2 ≠ s.pc := by
  simp only [advanced]
  constructor <;> intro h <;> bv_omega

/-- Carrying a word out leaves a machine as it is only if the word jumps to where it stands. -/
theorem jumpsToSelf_of_runWord (h : s.runWord w = .ok s) : JumpsToSelf s w := by
  obtain ⟨i, hd, hi⟩ := runWord_eq_ok_iff.1 h
  have hpc : s.pc = i.nextPc s.advanced := Instruction.pc_of_run hi
  obtain ⟨hnext, hskip⟩ := pc_advanced_ne s
  cases i with
  | jump target =>
    obtain ⟨hw, rfl⟩ := decode?_eq_jump_iff.1 hd
    refine .inl ⟨hw, ?_⟩
    rw [hpc]
    exact (BitVec.toNat_setWidth_of_le (by decide)).symm
  | jumpOffset x base =>
    obtain ⟨hw, rfl, rfl⟩ := decode?_eq_jumpOffset_iff.1 hd
    refine .inr ⟨hw, ?_⟩
    rw [hpc]
    exact (toNat_offset _ _).symm
  | call target =>
    obtain ⟨-, hs⟩ := Instruction.run_call_eq_ok_iff.1 hi
    exact absurd (congrArg State.stack hs) (CallStack.push_ne_self _ _)
  | ret =>
    obtain ⟨-, hs⟩ := Instruction.run_ret_eq_ok_iff.1 hi
    exact absurd (congrArg State.stack hs) (CallStack.pop_ne_self _)
  | skipIf condition =>
    simp only [Instruction.nextPc] at hpc
    split at hpc
    · exact absurd hpc.symm hskip
    · exact absurd hpc.symm hnext
  | _ => exact absurd hpc.symm hnext

theorem runWord_of_jumpsToSelf (h : JumpsToSelf s w) : s.runWord w = .ok s := by
  rcases h with ⟨hw, htarget⟩ | ⟨hw, hsum⟩
  · refine runWord_eq_ok_iff.2 ⟨_, decode?_eq_jump_iff.2 ⟨hw, rfl⟩, ?_⟩
    refine congrArg Except.ok (advanced_at_eq_self ?_)
    rwa [BitVec.toNat_setWidth_of_le (by decide)]
  · refine runWord_eq_ok_iff.2 ⟨_, decode?_eq_jumpOffset_iff.2 ⟨hw, rfl, rfl⟩, ?_⟩
    refine congrArg Except.ok (advanced_at_eq_self ?_)
    rwa [toNat_offset]

/-! ## Slots -/

/-- The machine stands still: it has halted, it waits with the keys down that it counts as held, or
it is at a jump to where it is. -/
def Idle (s : State) : Prop :=
  s.halted = true ∨
  s.halted = false ∧ s.wait.pending = true ∧ s.wait.held = s.keypad ∨
  s.Running ∧ s.pc.toNat ≤ 0xFFE ∧ JumpsToSelf s s.fetch

instance : DecidablePred Idle := fun _ => inferInstanceAs (Decidable (_ ∨ _))

theorem withStatus_ne_self (hs : s.halted = false) (f : Fault) (a : Word) :
    s.withStatus (.ofFault f a w) ≠ s := by
  intro h
  have hcode : f.code = s.status.code := congrArg (fun t => t.status.code) h
  exact f.code_ne_zero (hcode.trans (halted_eq_false_iff.1 hs))

theorem idle_of_step_eq_self (h : s.step = s) : s.Idle := by
  generalize ht : s.step = t at h
  have hslot : Slot s t := ht ▸ slot_step s
  cases hslot with
  | stay hs => exact .inl hs
  | poll hs hw => exact .inr (.inl ⟨hs, hw, (pollKey_eq_self_iff hw).1 h⟩)
  | unfetched hrun => exact absurd h (withStatus_ne_self hrun.not_halted _ _)
  | fault hrun => exact absurd h (withStatus_ne_self hrun.not_halted _ _)
  | run hrun hf hd hi =>
    rw [h] at hi
    have hpc : s.pc.toNat + 1 < 4096 := canFetch_iff.1 hf
    have hself := jumpsToSelf_of_runWord (runWord_eq_ok_iff.2 ⟨_, hd, hi⟩)
    exact .inr (.inr ⟨hrun, by omega, hself⟩)

theorem step_of_idle (h : s.Idle) : s.step = s := by
  rcases h with hs | ⟨hs, hw, hheld⟩ | ⟨hrun, hpc, hself⟩
  · exact step_of_halted hs
  · rw [step_of_waiting hs hw, pollKey_eq_self_iff hw]
    exact hheld
  · have hf : s.canFetch = true := canFetch_iff.2 (show s.pc.toNat + 1 < 4096 by omega)
    rw [step_of_canFetch hrun hf]
    exact execute_of_ok hrun.not_halted (runWord_of_jumpsToSelf hself)

theorem run_of_idle (h : s.Idle) (n : Nat) : s.run n = s := by
  induction n with
  | zero => rfl
  | succ n ih => rw [run, step_of_idle h, ih]

/-- A poll without a fresh key brings a machine to rest. -/
theorem idle_step_of_not_fresh (hw : s.wait.pending = true)
    (h : ∀ key, ¬ Fresh [s.wait.held] s.keypad key) : s.step.Idle := by
  cases hs : s.halted with
  | true =>
    rw [step_of_halted hs]
    exact .inl hs
  | false =>
    rw [step_of_waiting hs hw, pollKey_of_not_fresh h]
    exact .inr (.inl ⟨hs, hw, rfl⟩)

end State

open State

/-- **When a slot changes nothing.** A slot leaves a machine as it is exactly if the machine is
idle. A machine that waits while no key is fresh is idle from its next slot on, so as long as the
keypad stays the same it makes no difference how many slots it goes through. -/
theorem step_eq_self_iff_idle (s : State) :
    (s.step = s ↔ s.Idle) ∧
    (s.wait.pending = true → (∀ key, ¬ Fresh [s.wait.held] s.keypad key) →
      ∀ n ≥ 1, s.run n = s.step) := by
  refine ⟨⟨idle_of_step_eq_self, step_of_idle⟩, fun hw hnone n hn => ?_⟩
  obtain ⟨k, rfl⟩ := Nat.exists_eq_add_of_le' hn
  rw [run, run_of_idle (idle_step_of_not_fresh hw hnone)]

/-- A machine at a jump with an offset that leads back to it: `0x1F0` and the `0x10` in its
register. -/
def atOffsetLoop : State :=
  { State.withRom .keyed ⟨0, 0⟩ [0xB1, 0xF0] programStart with
    registers := Registers.zero.set 1 0x10 }

/-- A machine in a wait that began with key 5 down, which has been let up since. -/
def keyLetUp : State :=
  { State.withRom .keyed ⟨0, 0⟩ keyRom programStart with
    pc := 0x202, wait := ⟨true, 3, Keypad.none.press 5⟩ }

theorem fetch_atOffsetLoop : atOffsetLoop.fetch = 0xB1F0 := by
  simp [State.fetch, atOffsetLoop, State.withRom, State.powerOn, Memory.read_writeAll, memorySize,
    programStart]

/-- The jump to itself is recognised. The wait is not at rest yet, since the key that was let up is
still counted as held, but it is so after one slot. -/
theorem standstill_after_letUp :
    atOffsetLoop.step = atOffsetLoop ∧ keyLetUp.wait.pending = true ∧
      (∀ key, ¬ Fresh [keyLetUp.wait.held] keyLetUp.keypad key) ∧ keyLetUp.step ≠ keyLetUp ∧
      keyLetUp.run 1000 = keyLetUp.step := by
  have hloop : atOffsetLoop.Idle := by
    refine .inr (.inr ⟨⟨rfl, rfl⟩, by decide, ?_⟩)
    rw [fetch_atOffsetLoop]
    decide
  have hwait : ¬ keyLetUp.Idle := by decide
  have hup : ∀ key, ¬ keyLetUp.keypad.isDown key = true := by decide
  have hnone : ∀ key, ¬ Fresh [keyLetUp.wait.held] keyLetUp.keypad key :=
    fun key hfresh => hup key hfresh.down
  obtain ⟨hiff, hsettled⟩ := step_eq_self_iff_idle keyLetUp
  exact ⟨(step_eq_self_iff_idle atOffsetLoop).1.2 hloop, rfl, hnone, fun h => hwait (hiff.1 h),
    hsettled rfl hnone 1000 (by decide)⟩

end Chip8
