import Chip8.Proofs.Decoding
import Chip8.Proofs.Run

/-!
# The call stack over whole runs

A stack is well formed if it holds at most sixteen addresses of twelve bits and every free slot is
zero. Only calls and returns change it, a call when there is a free slot and a return when there is
an entry, and both keep it well formed; so it is well formed in every reachable state.

**`call_discipline`.** Take any reachable state whose next slot is a call, with `d` calls on the
stack, and any continuation during which the depth stays above `d`. Then the return addresses of the
`d` callers and of this call are still in their slots, whatever was called, returned from, drawn,
rewritten or refused in between. The first event that brings the depth back to `d` is a return; it
goes on behind the call, and all sixteen slots and the depth are what they were before the call.
-/

namespace Chip8

namespace CallStack

/-! ## Well-formed stacks -/

/-- At most sixteen entries, each an address of twelve bits, and zeros above them. -/
structure WellFormed (s : CallStack) : Prop where
  depth_le : s.depth.toNat ≤ stackSize
  slot_le : ∀ i < s.depth.toNat, (s.slot i).toNat ≤ 0xFFF
  slot_eq_zero : ∀ i, s.depth.toNat ≤ i → i < stackSize → s.slot i = 0

variable {s : CallStack}

theorem wellFormed_empty : empty.WellFormed where
  depth_le := by decide
  slot_le i hi := absurd hi (Nat.not_lt_zero i)
  slot_eq_zero _ _ hi := slot_empty hi

theorem toNat_and_addressMask (a : Word) : (a &&& addressMask).toNat = a.toNat % 4096 :=
  Nat.and_two_pow_sub_one_eq_mod a.toNat 12

theorem WellFormed.push (h : s.WellFormed) (a : Word) (hroom : s.isFull = false) :
    (s.push a).WellFormed := by
  have hdepth := toNat_depth_push a hroom
  have hlt := isFull_eq_false_iff.1 hroom
  refine ⟨by omega, fun i hi => ?_, fun i hi hsize => ?_⟩
  · rw [hdepth] at hi
    rw [slot_push s a (by omega)]
    split
    · rw [toNat_and_addressMask]
      omega
    · exact h.slot_le i (by omega)
  · rw [hdepth] at hi
    rw [slot_push s a hsize, if_neg (by omega)]
    exact h.slot_eq_zero i (by omega) hsize

theorem WellFormed.pop (h : s.WellFormed) (hentry : s.isEmpty = false) : s.pop.1.WellFormed := by
  have hdepth : s.pop.1.depth.toNat = s.depth.toNat - 1 := toNat_depth_sub_one hentry
  have htop := toNat_depth_sub_one hentry
  have hle := h.depth_le
  refine ⟨by omega, fun i hi => ?_, fun i hi hsize => ?_⟩
  · rw [hdepth] at hi
    rw [slot_pop s (by omega), if_neg (by omega)]
    exact h.slot_le i (by omega)
  · rw [hdepth] at hi
    rw [slot_pop s hsize]
    split
    · rfl
    · exact h.slot_eq_zero i (by omega) hsize

theorem WellFormed.toNat_pop_le (h : s.WellFormed) (hentry : s.isEmpty = false) :
    s.pop.2.toNat ≤ 0xFFF := by
  have hpos := isEmpty_eq_false_iff.1 hentry
  refine h.slot_le _ ?_
  rw [toNat_depth_sub_one hentry]
  omega

/-- A stack that has one entry more than another one is popped to it. -/
theorem pop_eq_of_slots {u : CallStack} (hs : s.WellFormed) (hu : u.WellFormed)
    (hdepth : u.depth.toNat = s.depth.toNat + 1)
    (hslot : ∀ i < s.depth.toNat, u.slot i = s.slot i) : u.pop = (s, u.slot s.depth.toNat) := by
  have hentry : u.isEmpty = false := isEmpty_eq_false_iff.2 (by omega)
  have htop : (u.depth - 1).toNat = s.depth.toNat := by
    rw [toNat_depth_sub_one hentry]
    omega
  have hstack : u.pop.1 = s := by
    refine ext_slot (BitVec.eq_of_toNat_eq htop) fun i hi => ?_
    rw [slot_pop u hi, htop]
    split
    · exact (hs.slot_eq_zero i (by omega) hi).symm
    · by_cases hlt : i < s.depth.toNat
      · exact hslot i hlt
      -- Above the entry both stacks have their free slots.
      · rw [hu.slot_eq_zero i (by omega) hi, hs.slot_eq_zero i (by omega) hi]
  exact Prod.ext hstack (congrArg u.slot htop)

end CallStack

/-! ## Calls and returns -/

/-- A running machine whose next slot is a call that has room on the stack. -/
structure State.Calls (s : State) : Prop extends s.Running where
  canFetch : s.canFetch = true
  fetch : s.fetch &&& 0xF000 = 0x2000
  room : s.stack.depth.toNat < stackSize

/-- A running machine whose next slot is a return with an entry on the stack. -/
structure State.Returns (s : State) : Prop extends s.Running where
  canFetch : s.canFetch = true
  fetch : s.fetch = 0x00EE
  entry : 0 < s.stack.depth.toNat

namespace State

variable {s : State}

theorem step_of_calls (h : s.Calls) :
    s.step = { s with stack := s.stack.push (s.pc + 2), pc := (wordAddress s.fetch).setWidth 16 } :=
  step_of_run h.toRunning h.canFetch (decode?_eq_call_iff.2 ⟨h.fetch, rfl⟩)
    (Instruction.run_call_eq_ok_iff.2 ⟨CallStack.isFull_eq_false_iff.2 h.room, rfl⟩)

theorem step_of_returns (h : s.Returns) :
    s.step = { s with stack := s.stack.pop.1, pc := s.stack.pop.2 } :=
  step_of_run h.toRunning h.canFetch (decode?_eq_ret_iff.2 h.fetch)
    (Instruction.run_ret_eq_ok_iff.2 ⟨CallStack.isEmpty_eq_false_iff.2 h.entry, rfl⟩)

/-- **The stack is touched by calls and returns alone.** -/
theorem stack_step (s : State) : s.step.stack = s.stack ∨ s.Calls ∨ s.Returns := by
  generalize ht : s.step = t
  have hslot : Slot s t := ht ▸ slot_step s
  cases hslot with
  | stay | unfetched | fault => exact .inl rfl
  | poll => exact .inl (kept_pollKey s (p := .stack) (by decide))
  | run hrun hf hd hi =>
    rcases Instruction.stack_of_run hi with hstack | rfl | ⟨target, rfl⟩
    · exact .inl hstack
    · obtain ⟨hentry, -⟩ := Instruction.run_ret_eq_ok_iff.1 hi
      exact .inr (.inr ⟨hrun, hf, decode?_eq_ret_iff.1 hd, CallStack.isEmpty_eq_false_iff.1 hentry⟩)
    · obtain ⟨hroom, -⟩ := Instruction.run_call_eq_ok_iff.1 hi
      exact .inr (.inl ⟨hrun, hf, (decode?_eq_call_iff.1 hd).1,
        CallStack.isFull_eq_false_iff.1 hroom⟩)

theorem stack_apply (s : State) (e : Event) :
    (s.apply e).stack = s.stack ∨ e = .slot ∧ (s.Calls ∨ s.Returns) := by
  cases e with
  | slot =>
    rcases stack_step s with h | h
    · exact .inl h
    · exact .inr ⟨rfl, h⟩
  | tick | keys => exact .inl rfl

theorem wellFormed_stack_apply (h : s.stack.WellFormed) (e : Event) :
    (s.apply e).stack.WellFormed := by
  rcases stack_apply s e with hstack | ⟨rfl, hcall | hret⟩
  · rw [hstack]
    exact h
  · rw [apply, step_of_calls hcall]
    exact h.push _ (CallStack.isFull_eq_false_iff.2 hcall.room)
  · rw [apply, step_of_returns hret]
    exact h.pop (CallStack.isEmpty_eq_false_iff.2 hret.entry)

end State

/-- The stack is well formed in every reachable state. -/
theorem wellFormed_stack {s : State} (h : Reachable s) : s.stack.WellFormed := by
  induction h with
  | start hs =>
    obtain ⟨source, key, rom, a, -, rfl⟩ := started_iff.1 hs
    exact CallStack.wellFormed_empty
  | event e _ ih => exact State.wellFormed_stack_apply ih e

/-! ## Slots over a run -/

namespace State

variable {t : State} {i : Nat}

/-- A slot that is in use before and after an event keeps its address. -/
theorem slot_apply (h : t.stack.WellFormed) (e : Event) (hbefore : i < t.stack.depth.toNat)
    (hafter : i < (t.apply e).stack.depth.toNat) :
    (t.apply e).stack.slot i = t.stack.slot i := by
  have hsize : i < stackSize := Nat.lt_of_lt_of_le hbefore h.depth_le
  rcases stack_apply t e with hstack | ⟨rfl, hcall | hret⟩
  · rw [hstack]
  · rw [apply, step_of_calls hcall, CallStack.slot_push _ _ hsize, if_neg (by omega)]
  · rw [apply, step_of_returns hret] at hafter ⊢
    have htop : (t.stack.depth - 1).toNat = t.stack.depth.toNat - 1 :=
      CallStack.toNat_depth_sub_one (CallStack.isEmpty_eq_false_iff.2 hret.entry)
    have hdepth : i < (t.stack.depth - 1).toNat := hafter
    rw [CallStack.slot_pop _ hsize, if_neg (by omega)]

/-- A slot that is in use all along a run keeps its address. -/
theorem slot_applyAll (h : t.stack.WellFormed) (es : List Event)
    (hdeep : ∀ es', es' <+: es → i < (t.applyAll es').stack.depth.toNat) :
    (t.applyAll es).stack.slot i = t.stack.slot i := by
  induction es generalizing t with
  | nil => rfl
  | cons e es ih =>
    have hnow : i < t.stack.depth.toNat := hdeep [] List.nil_prefix
    have hnext : i < (t.apply e).stack.depth.toNat :=
      hdeep [e] (List.cons_prefix_cons.2 ⟨rfl, List.nil_prefix⟩)
    have hrest := ih (wellFormed_stack_apply h e) fun es' hes' =>
      hdeep (e :: es') (List.cons_prefix_cons.2 ⟨rfl, hes'⟩)
    rw [applyAll_cons, hrest, slot_apply h e hnow hnext]

end State

/-! ## From a call to its return -/

section Call

variable {s : State} (hcall : s.Calls)

include hcall

theorem depth_of_calls : s.step.stack.depth.toNat = s.stack.depth.toNat + 1 := by
  rw [State.step_of_calls hcall]
  exact CallStack.toNat_depth_push _ (CallStack.isFull_eq_false_iff.2 hcall.room)

theorem slot_of_calls {i : Nat} (hi : i < s.stack.depth.toNat) :
    s.step.stack.slot i = s.stack.slot i := by
  have hroom := hcall.room
  rw [State.step_of_calls hcall, CallStack.slot_push _ _ (by omega), if_neg (by omega)]

theorem top_of_calls : (s.step.stack.slot s.stack.depth.toNat).toNat = (s.pc.toNat + 2) % 4096 := by
  rw [State.step_of_calls hcall, CallStack.slot_push _ _ hcall.room, if_pos rfl,
    CallStack.toNat_and_addressMask, BitVec.toNat_add]
  exact Nat.mod_mod_of_dvd _ (by decide)

end Call

/-- **A call and its return.** A call takes one slot. As long as the depth stays above that of the
call, the return addresses of its callers and its own are in their slots, and the first event that
brings the depth back is a return to the place behind the call that leaves the stack as it was. -/
theorem call_discipline {s : State} (hs : Reachable s) (hcall : s.Calls) (es : List Event)
    (hdeep : ∀ es', es' <+: es → es' ≠ [] →
      s.stack.depth.toNat < (s.step.applyAll es').stack.depth.toNat) :
    s.step.stack.depth.toNat = s.stack.depth.toNat + 1 ∧
    (∀ i < s.stack.depth.toNat, (s.step.applyAll es).stack.slot i = s.stack.slot i) ∧
    ((s.step.applyAll es).stack.slot s.stack.depth.toNat).toNat = (s.pc.toNat + 2) % 4096 ∧
    ∀ e, ((s.step.applyAll es).apply e).stack.depth.toNat ≤ s.stack.depth.toNat →
      e = .slot ∧ (s.step.applyAll es).Returns ∧
        ((s.step.applyAll es).apply e).pc.toNat = (s.pc.toNat + 2) % 4096 ∧
        ((s.step.applyAll es).apply e).stack = s.stack := by
  -- Before any event the call itself has brought the machine one slot deeper.
  have hdeep : ∀ es', es' <+: es →
      s.stack.depth.toNat < (s.step.applyAll es').stack.depth.toNat := by
    intro es' hes'
    cases es' with
    | nil =>
      show s.stack.depth.toNat < s.step.stack.depth.toNat
      rw [depth_of_calls hcall]
      exact Nat.lt_succ_self _
    | cons e es' => exact hdeep _ hes' (List.cons_ne_nil e es')
  have hwf : s.step.stack.WellFormed := wellFormed_stack (hs.event .slot)
  have hwf' : (s.step.applyAll es).stack.WellFormed :=
    wellFormed_stack ((hs.event .slot).applyAll es)
  have hnow := hdeep es (List.prefix_refl es)
  have hslots : ∀ i ≤ s.stack.depth.toNat,
      (s.step.applyAll es).stack.slot i = s.step.stack.slot i := fun i hi =>
    State.slot_applyAll hwf es fun es' hes' => Nat.lt_of_le_of_lt hi (hdeep es' hes')
  have hbelow : ∀ i < s.stack.depth.toNat,
      (s.step.applyAll es).stack.slot i = s.stack.slot i := fun i hi =>
    (hslots i (Nat.le_of_lt hi)).trans (slot_of_calls hcall hi)
  have htop : ((s.step.applyAll es).stack.slot s.stack.depth.toNat).toNat =
      (s.pc.toNat + 2) % 4096 := by
    rw [hslots _ (Nat.le_refl _)]
    exact top_of_calls hcall
  refine ⟨depth_of_calls hcall, hbelow, htop, fun e hback => ?_⟩
  generalize s.step.applyAll es = u at *
  rcases State.stack_apply u e with hstack | ⟨rfl, hagain | hret⟩
  · rw [hstack] at hback
    omega
  · rw [State.apply, depth_of_calls hagain] at hback
    omega
  · have hentry := CallStack.isEmpty_eq_false_iff.2 hret.entry
    have hdepth : u.stack.depth.toNat = s.stack.depth.toNat + 1 := by
      have hpop : (u.stack.depth - 1).toNat ≤ s.stack.depth.toNat := by
        rw [State.apply, State.step_of_returns hret] at hback
        exact hback
      rw [CallStack.toNat_depth_sub_one hentry] at hpop
      omega
    have hpop := CallStack.pop_eq_of_slots (wellFormed_stack hs) hwf' hdepth hbelow
    refine ⟨rfl, hret, ?_, ?_⟩
    · rw [State.apply, State.step_of_returns hret, hpop]
      exact htop
    · rw [State.apply, State.step_of_returns hret, hpop]

/-- A program that calls a subroutine, which only returns, and then stays where it is. -/
def subroutineRom : Rom := [0x22, 0x04, 0x12, 0x02, 0x00, 0xEE]

/-- The machine about to call the subroutine. -/
def beforeCall : State := .withRom .keyed ⟨0, 0⟩ subroutineRom programStart

/-- The machine in the subroutine. -/
def inSubroutine : State :=
  { beforeCall with stack := beforeCall.stack.push 0x202, pc := 0x204 }

theorem reachable_beforeCall : Reachable beforeCall :=
  .start (started_iff.2 ⟨_, _, _, _, by decide, rfl⟩)

theorem fetch_beforeCall : beforeCall.fetch = 0x2204 := by
  simp [State.fetch, beforeCall, subroutineRom, State.withRom, State.powerOn,
    Memory.read_writeAll, memorySize, programStart]

theorem fetch_inSubroutine : inSubroutine.fetch = 0x00EE := by
  simp [State.fetch, inSubroutine, beforeCall, subroutineRom, State.withRom, State.powerOn,
    Memory.read_writeAll, memorySize, programStart]

theorem calls_beforeCall : beforeCall.Calls :=
  ⟨⟨rfl, rfl⟩, by decide, by rw [fetch_beforeCall]; decide, by decide⟩

theorem step_beforeCall : beforeCall.step = inSubroutine := by
  rw [State.step_of_calls calls_beforeCall, fetch_beforeCall]
  rfl

/-- A tick and a change of all keys in the subroutine; then its return is the first event that
brings the depth back, and it goes on behind the call with the stack as it was. -/
theorem return_to_beforeCall :
    Reachable beforeCall ∧ beforeCall.Calls ∧
      (∀ es', es' <+: [.tick, .keys .all] → es' ≠ [] →
        beforeCall.stack.depth.toNat < (beforeCall.step.applyAll es').stack.depth.toNat) ∧
      ((beforeCall.step.applyAll [.tick, .keys .all]).apply .slot).pc.toNat = 0x202 ∧
      ((beforeCall.step.applyAll [.tick, .keys .all]).apply .slot).stack = beforeCall.stack := by
  have hdeep : ∀ es', es' <+: [.tick, .keys .all] → es' ≠ [] →
      beforeCall.stack.depth.toNat < (beforeCall.step.applyAll es').stack.depth.toNat := by
    intro es' hes' _
    rw [step_beforeCall]
    simp only [List.prefix_cons_iff, List.prefix_nil] at hes'
    rcases hes' with rfl | ⟨_, rfl, rfl | ⟨_, rfl, rfl⟩⟩ <;> decide
  have hret : (inSubroutine.applyAll [.tick, .keys .all]).Returns :=
    ⟨⟨rfl, rfl⟩, by decide, fetch_inSubroutine, by decide⟩
  have hback : ((beforeCall.step.applyAll [.tick, .keys .all]).apply .slot).stack.depth.toNat ≤
      beforeCall.stack.depth.toNat := by
    rw [step_beforeCall, State.apply, State.step_of_returns hret]
    decide
  obtain ⟨-, -, -, hfirst⟩ :=
    call_discipline reachable_beforeCall calls_beforeCall [.tick, .keys .all] hdeep
  obtain ⟨-, -, hpc, hstack⟩ := hfirst .slot hback
  have hbehind : (beforeCall.pc.toNat + 2) % 4096 = 0x202 := rfl
  exact ⟨reachable_beforeCall, calls_beforeCall, hdeep, hpc.trans hbehind, hstack⟩

end Chip8
