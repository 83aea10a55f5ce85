import Chip8.Proofs.Run
import Chip8.Proofs.WriteSet

/-!
# Ticks between slots

A timer tick changes the two timers and nothing else, and three kinds of words have to do with
them. A slot that executes none of the three can change places with a tick (`step_tick`): it does
not read what the tick changes, and it leaves the timers as they are.

**`ticks_commute_with_slots`.** If `n` slots execute none of these words, then it does not matter
how `k` ticks fall between them. Every order leads to the state that the slots lead to with the
ticks after them, whether the slots carry out instructions, poll the keypad, fault, or find the
machine halted. The condition is on the slots without ticks between them: the ticks do not change
which words are executed (`executed?_tick`).
-/

namespace Chip8

/-- The word reads the delay timer, or sets one of the two timers. -/
def UsesTimer (w : Word) : Prop := w &&& 0xF0FF ∈ [0xF007, 0xF015, 0xF018]

instance : DecidablePred UsesTimer := fun w =>
  inferInstanceAs (Decidable (w &&& 0xF0FF ∈ [0xF007, 0xF015, 0xF018]))

/-- The word sets one of the two timers. -/
def SetsTimer (w : Word) : Prop := w &&& 0xF0FF ∈ [0xF015, 0xF018]

instance : DecidablePred SetsTimer := fun w =>
  inferInstanceAs (Decidable (w &&& 0xF0FF ∈ [0xF015, 0xF018]))

theorem SetsTimer.usesTimer {w : Word} (h : SetsTimer w) : UsesTimer w := .tail _ h

theorem setsTimer_iff {w : Word} : SetsTimer w ↔ Writes w .delay ∨ Writes w .sound := by
  simp [SetsTimer, Writes]

namespace State

variable {s : State} {w : Word} {i : Instruction} {n k : Nat}

/-! ## Instructions that leave the timers alone -/

theorem delay_not_mem_reads (hd : decode? w = some i) (hw : ¬ UsesTimer w) : .delay ∉ i.reads := by
  intro hmem
  obtain ⟨x, rfl⟩ := Instruction.delay_mem_reads_iff.1 hmem
  obtain ⟨hmask, -⟩ := decode?_eq_readDelay_iff.1 hd
  exact hw (by rw [UsesTimer, hmask]; decide)

/-! ## One slot and one tick -/

theorem agreeBut_tick (s : State) : AgreeBut [.delay, .sound] s s.tick := by
  intro p hp
  cases p <;> simp_all [Part.Kept, tick]

theorem executed?_tick (s : State) : s.tick.executed? = s.executed? :=
  executed?_congr rfl rfl rfl rfl

/-- A slot that sets no timer leaves both as they are. -/
theorem timers_step (h : ∀ a w, s.executed? = some (a, w) → ¬ SetsTimer w) :
    s.step.delay = s.delay ∧ s.step.sound = s.sound :=
  ⟨kept_step_of_not_writes (p := .delay) (by decide) fun a w hw hset =>
      h a w hw (setsTimer_iff.2 (.inl hset)),
    kept_step_of_not_writes (p := .sound) (by decide) fun a w hw hset =>
      h a w hw (setsTimer_iff.2 (.inr hset))⟩

section Avoiding

variable (h : ∀ a w, s.executed? = some (a, w) → ¬ UsesTimer w)

include h

theorem timers_not_mem_slotReads : ∀ p ∈ s.reads, p ∉ [Part.delay, .sound] := by
  refine not_mem_of_mem_reads (by decide) (fun _ => by decide) fun i hi p hp => ?_
  obtain ⟨w, hd, hw⟩ := exists_word hi h
  have hdelay : p ≠ .delay := fun heq => delay_not_mem_reads hd hw (heq ▸ hp)
  have hsound : p ≠ .sound := fun heq => i.sound_not_mem_reads (heq ▸ hp)
  simp [hdelay, hsound]

/-- A slot that has nothing to do with the timers can change places with a tick. -/
theorem step_tick : s.tick.step = s.step.tick := by
  obtain ⟨hdelay, hsound⟩ := timers_step fun a w hw hset => h a w hw hset.usesTimer
  obtain ⟨hdelay', hsound'⟩ := timers_step (s := s.tick) fun a w hw hset =>
    h a w (executed?_tick s ▸ hw) hset.usesTimer
  have hslots : AgreeBut [.delay, .sound] s.step s.tick.step :=
    (agreeBut_tick s).step (timers_not_mem_slotReads h)
  refine ext_kept fun p => ?_
  by_cases hp : p ∈ [Part.delay, .sound]
  · have htimers : p = .delay ∨ p = .sound := by simpa using hp
    rcases htimers with rfl | rfl
    · show countDown s.step.delay = s.tick.step.delay
      rw [hdelay, hdelay']
      rfl
    · show countDown s.step.sound = s.tick.step.sound
      rw [hsound, hsound']
      rfl
  · exact hslots.symm.trans (agreeBut_tick s.step) p hp

end Avoiding

/-! ## Many slots and many ticks -/

theorem timers_run (h : s.Avoids n SetsTimer) :
    (s.run n).delay = s.delay ∧ (s.run n).sound = s.sound :=
  ⟨kept_run_of_avoids (p := .delay) (by decide) (h.mono fun _ hset => setsTimer_iff.2 (.inl hset)),
    kept_run_of_avoids (p := .sound) (by decide) (h.mono fun _ hset => setsTimer_iff.2 (.inr hset))⟩

theorem run_tick (h : s.Avoids n UsesTimer) : s.tick.run n = (s.run n).tick := by
  induction n generalizing s with
  | zero => rfl
  | succ n ih => rw [run, step_tick h.head, ih h.step, run]

theorem Avoids.tick (h : s.Avoids n UsesTimer) : s.tick.Avoids n UsesTimer := by
  intro k hk a w hw
  have hprefix : s.Avoids k UsesTimer := fun j hj => h j (Nat.lt_trans hj hk)
  rw [run_tick hprefix, executed?_tick] at hw
  exact h k hk a w hw

end State

open State

/-- **Ticks commute with slots** that have nothing to do with the timers: every order of `n` slots
and `k` ticks leads to the same state. -/
theorem ticks_commute_with_slots {s : State} {n k : Nat} {es : List Event}
    (h : s.Avoids n UsesTimer) (hes : es.Perm (.replicate n .slot ++ .replicate k .tick)) :
    s.applyAll es = (s.run n).ticks k := by
  -- The first event is a slot or a tick, and without it the rest is such an order again.
  induction es generalizing s n k with
  | nil =>
    have hnil := hes.symm.eq_nil
    obtain ⟨hn, hk⟩ := List.append_eq_nil_iff.1 hnil
    obtain rfl := List.replicate_eq_nil_iff _ |>.1 hn
    obtain rfl := List.replicate_eq_nil_iff _ |>.1 hk
    rfl
  | cons e es ih =>
    rw [applyAll_cons]
    rcases List.mem_append.1 (hes.subset List.mem_cons_self) with he | he
    · obtain ⟨hn, rfl⟩ := List.mem_replicate.1 he
      obtain ⟨n, rfl⟩ := Nat.exists_eq_succ_of_ne_zero hn
      exact ih h.step hes.cons_inv
    · obtain ⟨hk, rfl⟩ := List.mem_replicate.1 he
      obtain ⟨k, rfl⟩ := Nat.exists_eq_succ_of_ne_zero hk
      have hrest : es.Perm (.replicate n .slot ++ .replicate k .tick) :=
        (hes.trans List.perm_middle).cons_inv
      rw [apply, ih h.tick hrest, run_tick h, ticks]

/-- A program of one instruction, with no instruction behind it. -/
def loadByteRom : Rom := [0x61, 0x2A]

/-- The machine at the start of the program, with both timers running. -/
def beforeLoadByte : State :=
  { State.withRom .keyed ⟨0, 0⟩ loadByteRom programStart with delay := 9, sound := 2 }

/-- The machine behind the instruction. -/
def afterLoadByte : State :=
  { beforeLoadByte with registers := beforeLoadByte.registers.set 1 0x2A, pc := 0x202 }

theorem executed?_beforeLoadByte : beforeLoadByte.executed? = some (0x200, 0x612A) := by
  refine executed?_eq_some_iff.2 ⟨⟨rfl, rfl⟩, by decide, rfl, ?_⟩
  simp [State.fetch, beforeLoadByte, loadByteRom, State.withRom, State.powerOn,
    Memory.read_writeAll, memorySize, programStart]

theorem step_beforeLoadByte : beforeLoadByte.step = afterLoadByte := by
  obtain ⟨hrun, hf, -, hfetch⟩ := executed?_eq_some_iff.1 executed?_beforeLoadByte
  exact step_of_run (i := .loadByte 1 0x2A) hrun hf (by rw [hfetch]; decide) rfl

theorem executed?_afterLoadByte : afterLoadByte.executed? = some (0x202, 0) := by
  refine executed?_eq_some_iff.2 ⟨⟨rfl, rfl⟩, by decide, rfl, ?_⟩
  simp [State.fetch, afterLoadByte, beforeLoadByte, loadByteRom, State.withRom, State.powerOn,
    Memory.read_writeAll, Memory.powerOn, Memory.read_blank, memorySize, programStart, fontStart,
    fontBytes]

theorem step_afterLoadByte : afterLoadByte.step = afterLoadByte.withStatus ⟨1, 0x202, 0, 0⟩ := by
  obtain ⟨hrun, hf, -, hfetch⟩ := executed?_eq_some_iff.1 executed?_afterLoadByte
  have hfault : afterLoadByte.runWord afterLoadByte.fetch = .error .invalidOpcode := by
    rw [hfetch]
    rfl
  rw [step_of_fault hrun hf hfault, hfetch]
  rfl

theorem run_beforeLoadByte :
    beforeLoadByte.run 3 = afterLoadByte.withStatus ⟨1, 0x202, 0, 0⟩ := by
  rw [State.run, step_beforeLoadByte, State.run, step_afterLoadByte]
  exact run_of_halted rfl 1

/-- Three slots execute these two words alone: the third finds the machine halted. -/
theorem avoids_beforeLoadByte {Kind : Word → Prop} (hload : ¬ Kind 0x612A) (hzero : ¬ Kind 0) :
    beforeLoadByte.Avoids 3 Kind := by
  refine avoids_succ ?_ (avoids_succ ?_ (avoids_succ ?_ avoids_zero))
  · rintro a w hw
    obtain ⟨-, rfl⟩ := Prod.mk.inj (Option.some.inj (executed?_beforeLoadByte.symm.trans hw))
    exact hload
  · rintro a w hw
    rw [step_beforeLoadByte, executed?_afterLoadByte] at hw
    obtain ⟨-, rfl⟩ := Prod.mk.inj (Option.some.inj hw)
    exact hzero
  · rintro a w hw
    rw [step_beforeLoadByte, step_afterLoadByte] at hw
    obtain ⟨hrun, -⟩ := executed?_eq_some_iff.1 hw
    exact absurd hrun.not_halted (by decide)

/-- An instruction, a fault and a halted slot with two ticks between them. -/
theorem ticks_around_loadByte :
    beforeLoadByte.Avoids 3 UsesTimer ∧
      [Event.slot, .tick, .slot, .tick, .slot].Perm (.replicate 3 .slot ++ .replicate 2 .tick) ∧
      beforeLoadByte.applyAll [.slot, .tick, .slot, .tick, .slot] =
        { afterLoadByte with delay := 7, sound := 0, status := ⟨1, 0x202, 0, 0⟩ } := by
  have havoids : beforeLoadByte.Avoids 3 UsesTimer :=
    avoids_beforeLoadByte (by decide) (by decide)
  have hperm : [Event.slot, .tick, .slot, .tick, .slot].Perm
      (.replicate 3 .slot ++ .replicate 2 .tick) := by decide
  refine ⟨havoids, hperm, ?_⟩
  rw [ticks_commute_with_slots havoids hperm, run_beforeLoadByte]
  rfl

end Chip8
