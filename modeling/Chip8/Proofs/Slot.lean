import Chip8.Proofs.Effect
import Chip8.Step

/-!
# What one slot can be

`Slot s t` lists the five ways in which a machine goes from `s` to `t` in one slot: it has halted
and stays, it polls the keypad, it cannot fetch, it fetches a word that faults, or it carries an
instruction out. **`slot_step`** says that `State.step` is always one of them, so an argument about
slots is a case split with five cases and never looks into `State.step` again.
-/

namespace Chip8

namespace State

variable {s t : State} {w : Word}

/-- The state that an instruction runs on: the program counter stands behind the word. -/
def advanced (s : State) : State := { s with pc := s.pc + 2 }

@[simp] theorem index_advanced : s.advanced.index = s.index := rfl

/-- Moving the program counter behind a word leaves everything else alone. -/
theorem kept_advanced_of_ne {p : Part} (hp : p ≠ .pc) : p.Kept s s.advanced := by
  cases p with
  | pc => exact absurd rfl hp
  | _ => rfl

/-- The machine goes on with the word at its program counter. -/
structure Running (s : State) : Prop where
  not_halted : s.halted = false
  not_waiting : s.wait.pending = false

instance : Decidable s.Running :=
  decidable_of_iff (s.halted = false ∧ s.wait.pending = false)
    ⟨fun h => ⟨h.1, h.2⟩, fun h => ⟨h.1, h.2⟩⟩

theorem running_iff : s.Running ↔ s.halted = false ∧ s.wait.pending = false :=
  ⟨fun h => ⟨h.1, h.2⟩, fun h => ⟨h.1, h.2⟩⟩

theorem canFetch_iff : s.canFetch = true ↔ s.pc.toNat + 1 < memorySize := by
  simp [canFetch]

theorem canFetch_eq_false_iff : s.canFetch = false ↔ memorySize ≤ s.pc.toNat + 1 := by
  simp [canFetch]

/-- The two bytes of a word that can be fetched stand one behind the other. -/
theorem toNat_pc_add_one (h : s.canFetch = true) : (s.pc + 1).toNat = s.pc.toNat + 1 := by
  rw [BitVec.toNat_add]
  exact Nat.mod_eq_of_lt (Nat.lt_trans (canFetch_iff.1 h) (by decide))

/-! ## Executing a word -/

theorem halted_eq_false_iff : s.halted = false ↔ s.status.code = 0 := by
  simp [halted]

theorem runWord_eq_ok_iff :
    s.runWord w = .ok t ↔ ∃ i, decode? w = some i ∧ i.run s.advanced = .ok t := by
  unfold runWord advanced
  split <;> simp_all

theorem runWord_eq_error_iff {f : Fault} :
    s.runWord w = .error f ↔ (decode? w = none ∧ .invalidOpcode = f) ∨
      ∃ i, decode? w = some i ∧ i.run s.advanced = .error f := by
  unfold runWord advanced
  split <;> simp_all

theorem status_of_runWord (h : s.runWord w = .ok t) : t.status = s.status := by
  obtain ⟨i, -, hi⟩ := runWord_eq_ok_iff.1 h
  exact (Instruction.status_of_run hi).trans rfl

theorem execute_of_error {f : Fault} (h : s.runWord w = .error f) :
    s.execute w = s.withStatus (.ofFault f s.pc w) := by
  simp only [execute, h]

theorem execute_of_ok (hs : s.halted = false) (h : s.runWord w = .ok t) : s.execute w = t := by
  have ht : t.halted = false := by
    rw [halted, status_of_runWord h]
    exact hs
  simp [execute, h, ht]

/-- An instruction that does not fault leaves the code and address of an earlier fault. -/
theorem execute_of_ok_of_halted (hs : s.halted = true) (h : s.runWord w = .ok t) :
    s.execute w = s.withStatus ⟨s.status.code, s.pc, w, s.status.address⟩ := by
  have hstatus := status_of_runWord h
  have ht : t.halted = true := by
    rw [halted, hstatus]
    exact hs
  simp [execute, h, ht, hstatus]

/-- A word is carried out: it does not fault and comes to another state, which is what a machine
that has not halted goes on with. -/
structure CarriesOut (s : State) (w : Word) (t : State) : Prop where
  runWord_eq : s.runWord w = .ok t
  execute_eq : s.halted = false → s.execute w = t

theorem carriesOut_iff : s.CarriesOut w t ↔ ∃ i, decode? w = some i ∧ i.run s.advanced = .ok t :=
  ⟨fun h => runWord_eq_ok_iff.1 h.runWord_eq, fun h =>
    have hw := runWord_eq_ok_iff.2 h
    ⟨hw, fun hs => execute_of_ok hs hw⟩⟩

theorem carriesOut_iff_of_decode? {i : Instruction} (hd : decode? w = some i) :
    s.CarriesOut w t ↔ i.run s.advanced = .ok t := by
  rw [carriesOut_iff, hd]
  exact ⟨fun ⟨_, hi, h⟩ => Option.some.inj hi ▸ h, fun h => ⟨i, rfl, h⟩⟩

/-- Executing a word leaves a machine that has not halted only by carrying the word out. -/
theorem halted_execute_iff :
    (s.execute w).halted = false ↔ s.halted = false ∧ ∃ t, s.CarriesOut w t := by
  constructor
  · intro h
    cases hw : s.runWord w with
    | error f =>
      rw [execute_of_error hw, halted_eq_false_iff] at h
      exact absurd h f.code_ne_zero
    | ok t =>
      have hs : s.halted = false := by
        rw [Bool.eq_false_iff]
        intro hs
        rw [execute_of_ok_of_halted hs hw] at h
        exact absurd hs (by simpa [halted, withStatus] using h)
      exact ⟨hs, t, hw, fun hs => execute_of_ok hs hw⟩
  · rintro ⟨hs, t, ht⟩
    rw [ht.execute_eq hs, halted, status_of_runWord ht.runWord_eq]
    exact hs

/-! ## Polling the keypad -/

/-- A poll touches the registers and the wait alone. -/
theorem kept_pollKey (s : State) {p : Part} (hp : p ∉ [.registers, .wait]) :
    p.Kept s s.pollKey := by
  simp only [pollKey]
  split <;> cases p <;> simp_all [Part.Kept]

theorem status_pollKey (s : State) : s.pollKey.status = s.status :=
  kept_pollKey s (p := .status) (by decide)

/-- A poll may end a wait but does not begin one. -/
theorem pending_of_pollKey (h : s.pollKey.wait.pending = true) : s.wait.pending = true := by
  simp only [pollKey] at h
  split at h
  · cases h
  · exact h

theorem step_of_waiting (hs : s.halted = false) (hw : s.wait.pending = true) :
    s.step = s.pollKey := by
  simp [step, hs, hw]

theorem register_pollKey (s : State) : s.pollKey.wait.register = s.wait.register := by
  simp only [pollKey]
  split <;> rfl

end State

/-! ## Slots -/

open State

/-- The ways through one slot. -/
inductive Slot (s : State) : State → Prop
  | stay : s.halted = true → Slot s s
  | poll : s.halted = false → s.wait.pending = true → Slot s s.pollKey
  | unfetched : s.Running → s.canFetch = false → Slot s s.fetchFault
  | fault {f : Fault} : s.Running → s.canFetch = true → s.runWord s.fetch = .error f →
      Slot s (s.withStatus (.ofFault f s.pc s.fetch))
  | run {i : Instruction} {t : State} : s.Running → s.canFetch = true →
      decode? s.fetch = some i → i.run s.advanced = .ok t → Slot s t

/-- **Every slot is one of the five.** -/
theorem slot_step (s : State) : Slot s s.step := by
  unfold step
  split
  · exact .stay ‹_›
  · rename_i hs
    have hs : s.halted = false := Bool.eq_false_iff.2 hs
    split
    · exact .poll hs ‹_›
    · rename_i hw
      have hrun : s.Running := ⟨hs, Bool.eq_false_iff.2 hw⟩
      split
      · rename_i hf
        cases h : s.runWord s.fetch with
        | error f =>
          rw [execute_of_error h]
          exact .fault hrun hf h
        | ok t =>
          rw [execute_of_ok hs h]
          obtain ⟨i, hd, hi⟩ := runWord_eq_ok_iff.1 h
          exact .run hrun hf hd hi
      · exact .unfetched hrun (Bool.eq_false_iff.2 ‹_›)

/-- No slot changes the keypad. -/
theorem keypad_step (s : State) : s.step.keypad = s.keypad := by
  generalize ht : s.step = t
  have hslot : Slot s t := ht ▸ slot_step s
  cases hslot with
  | stay | unfetched | fault => rfl
  | poll => exact kept_pollKey s (p := .keypad) (by decide)
  | run _ _ _ hi => exact (Instruction.keypad_of_run hi).trans rfl

/-! ## Slots of a running machine -/

section Running

variable {s t : State} (hrun : s.Running)

include hrun

theorem step_of_not_canFetch (hf : s.canFetch = false) : s.step = s.fetchFault := by
  simp [step, hrun.not_halted, hrun.not_waiting, hf]

theorem step_of_canFetch (hf : s.canFetch = true) : s.step = s.execute s.fetch := by
  simp [step, hrun.not_halted, hrun.not_waiting, hf]

theorem step_of_fault {f : Fault} (hf : s.canFetch = true)
    (h : s.runWord s.fetch = .error f) : s.step = s.withStatus (.ofFault f s.pc s.fetch) := by
  rw [step_of_canFetch hrun hf, execute_of_error h]

theorem step_of_run {i : Instruction} (hf : s.canFetch = true) (hd : decode? s.fetch = some i)
    (hi : i.run s.advanced = .ok t) : s.step = t := by
  rw [step_of_canFetch hrun hf]
  exact execute_of_ok hrun.not_halted (runWord_eq_ok_iff.2 ⟨i, hd, hi⟩)

end Running

end Chip8
