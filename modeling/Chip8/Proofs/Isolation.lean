import Chip8.Proofs.Interleaving

/-!
# What comes in from outside

A machine has five parts that its surroundings feed: the random source and its key, the keypad, and
the timers. By the read rule, two states that agree but for these go through the same slots as long
as no slot reads one of them.

**`inputs_isolated`** has two halves. States that agree but for the five inputs execute the same
words at the same addresses, and end agreeing but for the inputs, for as long as the run of the
first executes none of the words that read an input (`ReadsInput`), whatever ticks and key changes
either run meets. States that agree but for the sound timer agree but for it after any sequence of
events, since no instruction reads that timer.
-/

namespace Chip8

/-- The parts that the surroundings of the machine feed. -/
def Part.inputs : List Part := [.source, .key, .keypad, .delay, .sound]

/-- The word draws a random byte, tests a key, waits for one, or reads the delay timer. -/
def ReadsInput (w : Word) : Prop :=
  w &&& 0xF000 = 0xC000 ∨ w &&& 0xF0FF ∈ [0xE09E, 0xE0A1, 0xF00A, 0xF007]

instance : DecidablePred ReadsInput := fun w =>
  inferInstanceAs (Decidable
    (w &&& 0xF000 = 0xC000 ∨ w &&& 0xF0FF ∈ [0xE09E, 0xE0A1, 0xF00A, 0xF007]))

namespace State

variable {s u : State} {w : Word} {i : Instruction}

/-! ## Instructions that read no input -/

theorem readsInput_of_mask {m : Word} (hmask : w &&& 0xF0FF = m)
    (hm : m ∈ [(0xE09E : Word), 0xE0A1, 0xF00A, 0xF007]) : ReadsInput w :=
  .inr (hmask ▸ hm)

theorem not_input_of_mem_reads (hd : decode? w = some i) (hw : ¬ ReadsInput w) :
    ∀ p ∈ i.reads, p ∉ Part.inputs := by
  cases i with
  | random x mask => exact absurd (.inl (decode?_eq_random_iff.1 hd).1) hw
  | readDelay x =>
    exact absurd (readsInput_of_mask (decode?_eq_readDelay_iff.1 hd).1 (by decide)) hw
  | waitKey x =>
    exact absurd (readsInput_of_mask (decode?_eq_waitKey_iff.1 hd).1 (by decide)) hw
  | skipIf condition =>
    cases condition with
    | keyDown x =>
      exact absurd (readsInput_of_mask (decode?_eq_skipIf_keyDown_iff.1 hd).1 (by decide)) hw
    | keyUp x =>
      exact absurd (readsInput_of_mask (decode?_eq_skipIf_keyUp_iff.1 hd).1 (by decide)) hw
    | _ => simp [Instruction.reads, Condition.reads, Part.inputs]
  | _ => simp [Instruction.reads, Part.inputs]

theorem wait_not_mem_touched (hd : decode? w = some i) (hw : ¬ ReadsInput w) :
    .wait ∉ i.touched := by
  cases i with
  | waitKey x =>
    exact absurd (readsInput_of_mask (decode?_eq_waitKey_iff.1 hd).1 (by decide)) hw
  | _ => simp [Instruction.touched]

/-! ## Slots that read no input -/

section Avoiding

variable (hwait : s.wait.pending = false)
  (h : ∀ a w, s.executed? = some (a, w) → ¬ ReadsInput w)

include hwait h

theorem not_input_of_mem_slotReads : ∀ p ∈ s.reads, p ∉ Part.inputs := by
  refine not_mem_of_mem_reads (by decide) (fun hpending => ?_) fun i hi => ?_
  · rw [hwait] at hpending
    cases hpending
  · obtain ⟨w, hd, hw⟩ := exists_word hi h
    exact not_input_of_mem_reads hd hw

/-- Only the word that waits for a key begins a wait. -/
theorem not_waiting_step : s.step.wait.pending = false := by
  generalize ht : s.step = t
  have hslot : Slot s t := ht ▸ slot_step s
  cases hslot with
  | stay | unfetched | fault => exact hwait
  | poll _ hpending =>
    rw [hwait] at hpending
    cases hpending
  | run hrun hf hd hi =>
    have hw := h _ _ (executed?_eq_some_iff.2 ⟨hrun, hf, rfl, rfl⟩)
    have hkept : t.wait = s.wait := Instruction.kept_of_run hi (wait_not_mem_touched hd hw)
    rwa [hkept]

end Avoiding

/-! ## Runs -/

/-- What each slot of a run executes: an address and the word there, if anything. -/
def trace (s : State) : List Event → List (Option (Word × Word))
  | [] => []
  | .slot :: es => s.executed? :: s.step.trace es
  | .tick :: es => s.tick.trace es
  | .keys keypad :: es => ({ s with keypad } : State).trace es

theorem executed?_of_agreeBut (h : AgreeBut Part.inputs s u) : u.executed? = s.executed? :=
  executed?_congr (h .status (by decide)) (h .wait (by decide)) (h .pc (by decide))
    (h .memory (by decide))

theorem agreeBut_keys (s : State) (keypad : Keypad) : AgreeBut Part.inputs s { s with keypad } := by
  intro p hp
  cases p <;> simp_all [Part.inputs, Part.Kept]

/-- A run whose surroundings do anything at all follows the run of a state that agrees with it but
for the inputs and goes through the slots alone. -/
theorem follows_slots {es : List Event} (hagree : AgreeBut Part.inputs s u)
    (hwait : s.wait.pending = false) (h : s.Avoids (es.count .slot) ReadsInput) :
    u.trace es = s.trace (.replicate (es.count .slot) .slot) ∧
      AgreeBut Part.inputs (s.run (es.count .slot)) (u.applyAll es) := by
  induction es generalizing s u with
  | nil => exact ⟨rfl, hagree⟩
  | cons e es ih =>
    cases e with
    | slot =>
      rw [List.count_cons_self] at h ⊢
      have hstep := hagree.step (not_input_of_mem_slotReads hwait h.head)
      obtain ⟨htrace, hend⟩ := ih hstep (not_waiting_step hwait h.head) h.step
      refine ⟨?_, hend⟩
      rw [List.replicate_succ, trace, trace, htrace, executed?_of_agreeBut hagree]
    | tick =>
      rw [List.count_cons_of_ne (by decide)] at h ⊢
      exact ih (hagree.trans ((agreeBut_tick u).mono (by decide))) hwait h
    | keys keypad =>
      rw [List.count_cons_of_ne (by simp)] at h ⊢
      exact ih (hagree.trans (agreeBut_keys u keypad)) hwait h

/-! ## The sound timer -/

theorem sound_not_mem_slotReads : ∀ p ∈ s.reads, p ∉ [Part.sound] :=
  not_mem_of_mem_reads (by decide) (fun _ => by decide) fun i _ _ hp hmem =>
    i.sound_not_mem_reads (List.mem_singleton.1 hmem ▸ hp)

theorem agreeBut_sound_apply (h : AgreeBut [.sound] s u) (e : Event) :
    AgreeBut [.sound] (s.apply e) (u.apply e) := by
  cases e with
  | slot => exact h.step sound_not_mem_slotReads
  | tick =>
    intro p hp
    have hdelay : u.delay = s.delay := h .delay (by decide)
    have hkept := h p hp
    cases p <;> simp_all [Part.Kept, apply, tick]
  | keys keypad =>
    intro p hp
    have hkept := h p hp
    cases p <;> simp_all [Part.Kept, apply]

theorem agreeBut_sound_applyAll (h : AgreeBut [.sound] s u) (es : List Event) :
    AgreeBut [.sound] (s.applyAll es) (u.applyAll es) := by
  induction es generalizing s u with
  | nil => exact h
  | cons e es ih => exact ih (agreeBut_sound_apply h e)

end State

open State

/-- **External inputs enter a program through their own instructions only**, and the sound timer
does not enter it at all. -/
theorem inputs_isolated :
    (∀ {s u : State} {n : Nat}, AgreeBut Part.inputs s u → s.wait.pending = false →
      s.Avoids n ReadsInput → ∀ es es' : List Event, es.count .slot = n → es'.count .slot = n →
        u.trace es' = s.trace es ∧ AgreeBut Part.inputs (s.applyAll es) (u.applyAll es')) ∧
    ∀ {s u : State}, AgreeBut [.sound] s u → ∀ es : List Event,
      AgreeBut [.sound] (s.applyAll es) (u.applyAll es) := by
  refine ⟨?_, fun h es => agreeBut_sound_applyAll h es⟩
  rintro s u n hagree hwait h es es' rfl hes'
  -- Both runs follow the slots of the first state alone.
  obtain ⟨htrace, hend⟩ := follows_slots (.refl _ s) hwait h
  rw [← hes'] at h
  obtain ⟨htrace', hend'⟩ := follows_slots hagree hwait h
  rw [hes'] at htrace' hend'
  exact ⟨htrace'.trans htrace.symm, hend.symm.trans hend'⟩

/-- A machine with the same program as `beforeLoadByte` in other surroundings. -/
def besideLoadByte : State :=
  { beforeLoadByte with
    keypad := .all, delay := 1, source := .replay [7] (by decide), key := ⟨3, 4⟩ }

/-- Both machines carry out the one instruction, fault at the same place, and stay there; and the
sound timer of the first makes no difference. -/
theorem loadByte_isolated :
    beforeLoadByte.Avoids 3 ReadsInput ∧
      besideLoadByte.trace [.tick, .slot, .keys .none, .slot, .tick, .slot] =
        [some (0x200, 0x612A), some (0x202, 0), none] ∧
      (besideLoadByte.applyAll [.tick, .slot, .keys .none, .slot, .tick, .slot]).status =
        ⟨1, 0x202, 0, 0⟩ ∧
      AgreeBut [.sound] (beforeLoadByte.applyAll [.slot, .tick, .slot])
        (({ beforeLoadByte with sound := 0 } : State).applyAll [.slot, .tick, .slot]) := by
  have havoids : beforeLoadByte.Avoids 3 ReadsInput :=
    avoids_beforeLoadByte (by decide) (by decide)
  have hagree : AgreeBut Part.inputs beforeLoadByte besideLoadByte := by
    intro p hp
    cases p <;> first | rfl | exact absurd (by decide) hp
  have hsound : AgreeBut [.sound] beforeLoadByte { beforeLoadByte with sound := 0 } := by
    intro p hp
    cases p <;> first | rfl | exact absurd (by decide) hp
  obtain ⟨htrace, hend⟩ := inputs_isolated.1 hagree rfl havoids [.slot, .slot, .slot]
    [.tick, .slot, .keys .none, .slot, .tick, .slot] (by decide) (by decide)
  refine ⟨havoids, ?_, ?_, inputs_isolated.2 hsound _⟩
  · rw [htrace, trace, trace, trace, trace, executed?_beforeLoadByte, step_beforeLoadByte,
      executed?_afterLoadByte, step_afterLoadByte]
    rfl
  · have hfault : beforeLoadByte.applyAll [.slot, .slot, .slot] =
        afterLoadByte.withStatus ⟨1, 0x202, 0, 0⟩ :=
      (applyAll_slots beforeLoadByte 3).trans run_beforeLoadByte
    have hstatus := hend .status (by decide)
    rw [hfault] at hstatus
    exact hstatus

end Chip8
