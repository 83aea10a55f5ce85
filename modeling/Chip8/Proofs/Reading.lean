import Chip8.Proofs.Slot

/-!
# What a slot reads

`Instruction.reads` lists the parts of the state that an instruction looks at, and `State.reads`
those that the next slot looks at. **`kept_step`** is the read rule, the counterpart of the frame
rule: if two states agree in what the next slot of one of them reads, then the other goes through
the same slot, and every part in which they agreed before is one in which they agree afterwards.
`AgreeBut ps` is agreement in all parts but `ps`, and slots that read none of these preserve it.

`State.executed?` is the address and the word that a slot executes, if it executes one. States that
agree in what decides this execute the same (`executed?_congr`).
-/

namespace Chip8

/-! ## Instructions -/

/-- The parts that a test looks at. -/
def Condition.reads : Condition → List Part
  | eqByte .. | neByte .. | eqReg .. | neReg .. => [.registers]
  | keyDown _ | keyUp _ => [.registers, .keypad]

/-- Two outcomes of an instruction are the same fault, or states that agree in some parts. -/
inductive Matching (ps : List Part) : Except Fault State → Except Fault State → Prop
  | fault (f : Fault) : Matching ps (.error f) (.error f)
  | done {t t' : State} : (∀ p ∈ ps, p.Kept t t') → Matching ps (.ok t) (.ok t')

namespace State

variable {s u next next' : State} {ps : List Part} {n : Nat}

theorem leavesMemory_congr (h : u.index = s.index) : u.leavesMemory n = s.leavesMemory n := by
  rw [leavesMemory, leavesMemory, h]

theorem matching_guardRead (h : u.index = s.index) (hnext : ∀ p ∈ ps, p.Kept next next') :
    Matching ps (s.guardRead n next) (u.guardRead n next') := by
  rw [guardRead, guardRead, leavesMemory_congr h, h]
  split
  · exact .fault _
  · exact .done hnext

theorem matching_guardWrite (h : u.index = s.index) (hnext : ∀ p ∈ ps, p.Kept next next') :
    Matching ps (s.guardWrite n next) (u.guardWrite n next') := by
  rw [guardWrite, guardWrite, h]
  split
  · exact .fault _
  · exact matching_guardRead h hnext

end State

namespace Instruction

variable {i : Instruction} {s u : State}

/-- The parts that an instruction looks at. One that changes a single register looks at all of
them, since what it leaves behind depends on the others too. -/
def reads : Instruction → List Part
  | clearScreen | jump _ | loadIndex _ => []
  | ret => [.stack]
  | call _ => [.stack, .pc]
  | skipIf condition => .pc :: condition.reads
  | loadByte .. | addByte .. | alu .. | jumpOffset .. | setDelay _ | setSound _ | glyph _ =>
    [.registers]
  | random .. => [.registers, .source, .key]
  | draw .. => [.index, .memory, .registers, .display]
  | readDelay _ => [.registers, .delay]
  | waitKey _ => [.keypad]
  | addIndex _ => [.index, .registers]
  | decimal _ | store _ | load _ => [.index, .memory, .registers]

theorem sound_not_mem_reads (i : Instruction) : .sound ∉ i.reads := by
  cases i with
  | skipIf condition => cases condition <;> simp [reads, Condition.reads]
  | _ => simp [reads]

theorem delay_mem_reads_iff : .delay ∈ i.reads ↔ ∃ x, i = .readDelay x := by
  cases i with
  | skipIf condition => cases condition <;> simp [reads, Condition.reads]
  | _ => simp [reads]

theorem holds_congr {condition : Condition} (h : ∀ p ∈ condition.reads, p.Kept s u) :
    condition.holds u = condition.holds s := by
  cases condition <;> simp_all [Condition.reads, Condition.holds, Part.Kept]

/-- States that agree in what an instruction reads have the same outcome in what it touches. -/
theorem matching_run (h : ∀ p ∈ i.reads, p.Kept s u) :
    Matching i.touched (i.run s) (i.run u) := by
  cases i with
  | ret =>
    have hstack : u.stack = s.stack := h .stack (by simp [reads])
    simp only [run, hstack]
    split
    · exact .fault _
    · exact .done (by simp [touched, Part.Kept])
  | call target =>
    have hstack : u.stack = s.stack := h .stack (by simp [reads])
    have hpc : u.pc = s.pc := h .pc (by simp [reads])
    simp only [run, hstack, hpc]
    split
    · exact .fault _
    · exact .done (by simp [touched, Part.Kept])
  | skipIf condition =>
    have hpc : u.pc = s.pc := h .pc (by simp [reads])
    have hholds : condition.holds u = condition.holds s :=
      holds_congr fun p hp => h p (List.mem_cons_of_mem _ hp)
    simp only [run, hholds]
    split <;> exact .done (by simp [touched, Part.Kept, hpc])
  | draw x y height =>
    refine State.matching_guardRead (h .index (by simp [reads])) ?_
    simp_all [reads, touched, Part.Kept, State.drawSprite, State.spriteLayer]
  | load x =>
    refine State.matching_guardRead (h .index (by simp [reads])) ?_
    simp_all [reads, touched, Part.Kept, State.loadWindow]
  | decimal x =>
    refine State.matching_guardWrite (h .index (by simp [reads])) ?_
    simp_all [reads, touched, Part.Kept]
  | store x =>
    refine State.matching_guardWrite (h .index (by simp [reads])) ?_
    simp_all [reads, touched, Part.Kept, State.storeWindow]
  | _ => exact .done (by simp_all [reads, touched, Part.Kept])

end Instruction

/-! ## Slots -/

namespace State

variable {s u : State} {w : Word} {i : Instruction} {p : Part}

/-- The address and the word that the next slot executes, if it executes one. -/
def executed? (s : State) : Option (Word × Word) :=
  if s.Running ∧ s.canFetch = true then some (s.pc, s.fetch) else none

/-- The instruction that the next slot executes, if it executes a word that stands for one. -/
def instruction? (s : State) : Option Instruction := s.executed?.bind fun (_, w) => decode? w

/-- The parts that the next slot looks at: those that decide what the slot does, the keypad and the
registers if it polls, and what its instruction reads. -/
def reads (s : State) : List Part :=
  [.status, .wait, .pc, .memory] ++
    (if !s.halted && s.wait.pending then [.keypad, .registers] else []) ++
    s.instruction?.elim [] Instruction.reads

theorem executed?_eq_some_iff {a : Word} :
    s.executed? = some (a, w) ↔ s.Running ∧ s.canFetch = true ∧ s.pc = a ∧ s.fetch = w := by
  unfold executed?
  split <;> simp_all

theorem instruction?_eq_some_iff :
    s.instruction? = some i ↔ ∃ a w, s.executed? = some (a, w) ∧ decode? w = some i := by
  simp [instruction?, Option.bind_eq_some_iff]

theorem mem_reads_iff :
    p ∈ s.reads ↔ p ∈ [Part.status, .wait, .pc, .memory] ∨
      (s.halted = false ∧ s.wait.pending = true ∧ p ∈ [Part.keypad, .registers]) ∨
      ∃ i, s.instruction? = some i ∧ p ∈ i.reads := by
  simp only [reads, List.mem_append, or_assoc]
  refine or_congr Iff.rfl (or_congr ?_ ?_)
  · split <;> simp_all
  · cases s.instruction? <;> simp

theorem halted_congr (h : u.status = s.status) : u.halted = s.halted := by rw [halted, halted, h]

theorem canFetch_congr (h : u.pc = s.pc) : u.canFetch = s.canFetch := by rw [canFetch, canFetch, h]

theorem fetch_congr (hpc : u.pc = s.pc) (hmemory : u.memory = s.memory) : u.fetch = s.fetch := by
  rw [fetch, fetch, hpc, hmemory]

theorem running_congr (hstatus : u.status = s.status) (hwait : u.wait = s.wait) :
    u.Running ↔ s.Running := by
  rw [running_iff, running_iff, halted_congr hstatus, hwait]

theorem executed?_congr (hstatus : u.status = s.status) (hwait : u.wait = s.wait)
    (hpc : u.pc = s.pc) (hmemory : u.memory = s.memory) : u.executed? = s.executed? := by
  simp only [executed?, running_congr hstatus hwait, canFetch_congr hpc, fetch_congr hpc hmemory,
    hpc]

theorem kept_advanced (hpc : u.pc = s.pc) (hp : p.Kept s u) : p.Kept s.advanced u.advanced := by
  cases p <;> simp_all [Part.Kept, advanced]

theorem kept_withStatus (status : Status) (hp : p.Kept s u) :
    p.Kept (s.withStatus status) (u.withStatus status) := by
  cases p <;> simp_all [Part.Kept, withStatus]

theorem matching_runWord (hpc : u.pc = s.pc)
    (h : ∀ i, decode? w = some i → ∀ p ∈ i.reads, p.Kept s u) :
    Matching ((decode? w).elim [] Instruction.touched) (s.runWord w) (u.runWord w) := by
  unfold runWord
  cases hd : decode? w with
  | none => exact .fault _
  | some i => exact Instruction.matching_run fun p hp => kept_advanced hpc (h i hd p hp)

theorem kept_execute (hs : s.halted = false) (hstatus : u.status = s.status) (hpc : u.pc = s.pc)
    (h : ∀ i, decode? w = some i → ∀ p ∈ i.reads, p.Kept s u) (hp : p.Kept s u) :
    p.Kept (s.execute w) (u.execute w) := by
  have hmatching := matching_runWord hpc h
  generalize hrs : s.runWord w = r, hru : u.runWord w = r' at hmatching
  cases hmatching with
  | fault f =>
    rw [execute_of_error hrs, execute_of_error hru, hpc]
    exact kept_withStatus _ hp
  | @done t t' htouched =>
    rw [execute_of_ok hs hrs, execute_of_ok ((halted_congr hstatus).trans hs) hru]
    obtain ⟨i, hd, hi⟩ := runWord_eq_ok_iff.1 hrs
    obtain ⟨i', hd', hi'⟩ := runWord_eq_ok_iff.1 hru
    obtain rfl : i = i' := Option.some.inj (hd.symm.trans hd')
    rw [hd] at htouched
    by_cases hmem : p ∈ i.touched
    · exact htouched p hmem
    · have hbefore : p.Kept t s.advanced := (Instruction.kept_of_run hi hmem).symm
      exact (hbefore.trans (kept_advanced hpc hp)).trans (Instruction.kept_of_run hi' hmem)

theorem kept_pollKey_congr (hwait : u.wait = s.wait) (hkeypad : u.keypad = s.keypad)
    (hregisters : u.registers = s.registers) (hp : p.Kept s u) : p.Kept s.pollKey u.pollKey := by
  simp only [pollKey, hwait, hkeypad, hregisters]
  split <;> cases p <;> simp_all [Part.Kept]

/-- **The read rule.** States that agree in what the next slot reads go through the same slot, and
agree afterwards in every part in which they agreed before. -/
theorem kept_step (h : ∀ p ∈ s.reads, p.Kept s u) (hp : p.Kept s u) : p.Kept s.step u.step := by
  have hstatus : u.status = s.status := h .status (mem_reads_iff.2 (.inl (by decide)))
  have hwait : u.wait = s.wait := h .wait (mem_reads_iff.2 (.inl (by decide)))
  have hpc : u.pc = s.pc := h .pc (mem_reads_iff.2 (.inl (by decide)))
  have hmemory : u.memory = s.memory := h .memory (mem_reads_iff.2 (.inl (by decide)))
  have hhalted := halted_congr hstatus
  cases hs : s.halted with
  | true => rwa [step_of_halted hs, step_of_halted (hhalted.trans hs)]
  | false =>
    cases hw : s.wait.pending with
    | true =>
      have hpolled : ∀ p ∈ [Part.keypad, .registers], p.Kept s u := fun p hp =>
        h p (mem_reads_iff.2 (.inr (.inl ⟨hs, hw, hp⟩)))
      rw [step_of_waiting hs hw, step_of_waiting (hhalted.trans hs) (by rw [hwait, hw])]
      exact kept_pollKey_congr hwait (hpolled .keypad (by simp)) (hpolled .registers (by simp)) hp
    | false =>
      have hrun : s.Running := ⟨hs, hw⟩
      have hrun' : u.Running := (running_congr hstatus hwait).2 hrun
      cases hf : s.canFetch with
      | false =>
        have hf' : u.canFetch = false := (canFetch_congr hpc).trans hf
        rw [step_of_not_canFetch hrun hf, step_of_not_canFetch hrun' hf', fetchFault, fetchFault,
          hpc]
        exact kept_withStatus _ hp
      | true =>
        have hf' : u.canFetch = true := (canFetch_congr hpc).trans hf
        rw [step_of_canFetch hrun hf, step_of_canFetch hrun' hf', fetch_congr hpc hmemory]
        refine kept_execute hs hstatus hpc (fun i hd p hp => h p ?_) hp
        exact mem_reads_iff.2 (.inr (.inr ⟨i, instruction?_eq_some_iff.2
          ⟨_, _, executed?_eq_some_iff.2 ⟨hrun, hf, rfl, rfl⟩, hd⟩, hp⟩))

/-- A slot reads none of some parts if what it always reads, what it polls and what its instruction
reads are none of them. -/
theorem not_mem_of_mem_reads {ps : List Part}
    (hslot : ∀ p ∈ [Part.status, .wait, .pc, .memory], p ∉ ps)
    (hpoll : s.wait.pending = true → ∀ p ∈ [Part.keypad, .registers], p ∉ ps)
    (hrun : ∀ i, s.instruction? = some i → ∀ p ∈ i.reads, p ∉ ps) : ∀ p ∈ s.reads, p ∉ ps := by
  intro p hp
  rcases mem_reads_iff.1 hp with hp | ⟨-, hpending, hp⟩ | ⟨i, hi, hp⟩
  · exact hslot p hp
  · exact hpoll hpending p hp
  · exact hrun i hi p hp

end State

/-! ## States that agree but for some parts -/

/-- Two states agree in every part that is not listed. -/
def AgreeBut (ps : List Part) (s u : State) : Prop := ∀ p ∉ ps, p.Kept s u

namespace AgreeBut

variable {ps qs : List Part} {s u v : State}

theorem refl (ps : List Part) (s : State) : AgreeBut ps s s := fun p _ => Part.Kept.refl s p

theorem symm (h : AgreeBut ps s u) : AgreeBut ps u s := fun p hp => (h p hp).symm

theorem trans (h : AgreeBut ps s u) (h' : AgreeBut ps u v) : AgreeBut ps s v :=
  fun p hp => (h p hp).trans (h' p hp)

theorem mono (h : AgreeBut ps s u) (hsub : ps ⊆ qs) : AgreeBut qs s u :=
  fun p hp => h p fun hmem => hp (hsub hmem)

theorem step (h : AgreeBut ps s u) (hreads : ∀ p ∈ s.reads, p ∉ ps) : AgreeBut ps s.step u.step :=
  fun p hp => State.kept_step (fun q hq => h q (hreads q hq)) (h p hp)

end AgreeBut

namespace State

/-! ## Words that a run avoids -/

/-- None of the words that the next `n` slots execute is of a kind. -/
def Avoids (s : State) (n : Nat) (Kind : Word → Prop) : Prop :=
  ∀ k < n, ∀ a w, (s.run k).executed? = some (a, w) → ¬ Kind w

variable {s : State} {i : Instruction} {n : Nat} {Kind Kind' : Word → Prop}

theorem Avoids.mono (h : s.Avoids n Kind) (hsub : ∀ w, Kind' w → Kind w) : s.Avoids n Kind' :=
  fun k hk a w hw hkind => h k hk a w hw (hsub w hkind)

theorem exists_word (hi : s.instruction? = some i)
    (h : ∀ a w, s.executed? = some (a, w) → ¬ Kind w) : ∃ w, decode? w = some i ∧ ¬ Kind w := by
  obtain ⟨a, w, hw, hd⟩ := instruction?_eq_some_iff.1 hi
  exact ⟨w, hd, h a w hw⟩

theorem Avoids.head (h : s.Avoids (n + 1) Kind) :
    ∀ a w, s.executed? = some (a, w) → ¬ Kind w :=
  h 0 (Nat.succ_pos n)

theorem Avoids.step (h : s.Avoids (n + 1) Kind) : s.step.Avoids n Kind :=
  fun k hk => h (k + 1) (Nat.succ_lt_succ hk)

theorem avoids_zero : s.Avoids 0 Kind := fun _ hk => absurd hk (Nat.not_lt_zero _)

theorem avoids_succ (h : ∀ a w, s.executed? = some (a, w) → ¬ Kind w) (hn : s.step.Avoids n Kind) :
    s.Avoids (n + 1) Kind
  | 0, _ => h
  | k + 1, hk => hn k (Nat.lt_of_succ_lt_succ hk)

end State

end Chip8
