import Chip8.Proofs.Slot

/-!
# Faults are atomic

A word is executed on a state whose program counter has already moved, and a fault is noticed only
then. **`fault_atomicity`** says that nothing of this is left behind: whatever the state, executing
any word either ends without a fault recorded or gives back the state that was there before, with
another status. A slot that ends halted does the same, and a halted machine stays as it is over any
number of slots.

A host counts slots in 32 bits, so a halted machine refuses a count beyond that like any other
machine does (`runInt_halted_refused`).
-/

namespace Chip8

namespace State

variable {s : State}

/-- A halted outcome of a word is the state before it, but for the record of the fault. -/
theorem execute_eq_withStatus {w : Word} (h : (s.execute w).status.code ≠ 0) :
    s.execute w = s.withStatus (s.execute w).status ∧
      (s.execute w).status.pc = s.pc ∧ (s.execute w).status.word = w := by
  cases hw : s.runWord w with
  | error f =>
    rw [execute_of_error hw]
    exact ⟨rfl, rfl, rfl⟩
  | ok t =>
    cases hs : s.halted with
    | true =>
      rw [execute_of_ok_of_halted hs hw]
      exact ⟨rfl, rfl, rfl⟩
    | false =>
      rw [execute_of_ok hs hw, status_of_runWord hw] at h
      exact absurd (halted_eq_false_iff.1 hs) h

theorem step_eq_withStatus (h : s.step.halted = true) : s.step = s.withStatus s.step.status := by
  generalize ht : s.step = t at h ⊢
  have hslot : Slot s t := ht ▸ slot_step s
  cases hslot with
  | stay => rfl
  | poll hs =>
    rw [halted, status_pollKey, ← halted, hs] at h
    cases h
  | unfetched => rfl
  | fault => rfl
  | run hrun _ _ hi =>
    rw [halted, Instruction.status_of_run hi] at h
    exact absurd h (by simpa [advanced, halted] using hrun.not_halted)

end State

/-- **Faults are atomic.** Executing a word ends without a fault recorded or changes nothing but
the status, which names the place and the word; a slot that ends halted changes nothing but the
status; and a halted machine stays the same over any number of slots. -/
theorem fault_atomicity (s : State) :
    (∀ w : Word, (s.execute w).status.code = 0 ∨
      s.execute w = s.withStatus (s.execute w).status ∧
        (s.execute w).status.pc = s.pc ∧ (s.execute w).status.word = w) ∧
    (s.step.halted = true → s.step = s.withStatus s.step.status) ∧
    (s.halted = true → (∀ n : Nat, s.run n = s) ∧
      ∀ n : Int, -0x80000000 ≤ n → n < 0x80000000 → s.runInt n = .ok s) := by
  refine ⟨fun w => ?_, State.step_eq_withStatus, fun hs => ⟨State.run_of_halted hs, ?_⟩⟩
  · by_cases h : (s.execute w).status.code = 0
    · exact .inl h
    · exact .inr (State.execute_eq_withStatus h)
  · intro n hlow hhigh
    rw [State.runInt, if_pos ⟨hlow, hhigh⟩, State.run_of_halted hs]

/-- A machine that was switched on and has a fault recorded. -/
def haltedAtPowerOn : State :=
  (State.powerOn .keyed ⟨0, 0⟩ (BitVec.ofInt 16 programStart)).withStatus ⟨1, 0, 0, 0⟩

/-- The halted machine at the greatest count of slots. -/
theorem haltedAtPowerOn_inert :
    haltedAtPowerOn.halted = true ∧ haltedAtPowerOn.step = haltedAtPowerOn.withStatus
      haltedAtPowerOn.step.status ∧ haltedAtPowerOn.runInt 0x7FFFFFFF = .ok haltedAtPowerOn :=
  have hhalted : haltedAtPowerOn.halted = true := rfl
  have hstep : haltedAtPowerOn.step.halted = true := by
    rw [State.step_of_halted hhalted]
    exact hhalted
  ⟨hhalted, (fault_atomicity haltedAtPowerOn).2.1 hstep,
    ((fault_atomicity haltedAtPowerOn).2.2 hhalted).2 _ (by decide) (by decide)⟩

/-- One slot more than a host can count is refused, by a halted machine too. -/
theorem runInt_halted_refused :
    haltedAtPowerOn.halted = true ∧ haltedAtPowerOn.runInt 0x80000000 = .error .outOfRange ∧
      haltedAtPowerOn.runInt 0x80000000 ≠ .ok haltedAtPowerOn := by
  have h : haltedAtPowerOn.runInt 0x80000000 = .error .outOfRange := rfl
  refine ⟨rfl, h, ?_⟩
  rw [h]
  exact fun heq => by cases heq

end Chip8
