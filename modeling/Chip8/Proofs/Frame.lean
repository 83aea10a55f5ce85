import Chip8.Console
import Chip8.Proofs.Action
import Chip8.Proofs.Run

/-!
# A frame and its cycles

A frame goes through all its slots before it looks for a fault, whereas a cycle goes through one
slot and looks right after it. **`runFrame_agrees_with_cycles`** says that this makes no difference:
as many cycles as a frame has slots, followed by the ticks of the frame, lead to the same state and
fail in the same way, provided that no tick comes due between the cycles. The reason is that a
halted machine stays as it is, so that the rest of a frame behind a fault does nothing.

The agreement ends where a host can no longer count the slots of a frame
(`runFrame_refuses_beyond_limit`).
-/

namespace Chip8

/-- The failure that a machine has recorded, if it has recorded one. -/
def State.fault? (s : State) : Option Failure :=
  match s.failure with
  | .ok f => f
  | .error _ => none

theorem State.fault?_of_not_halted {s : State} (h : s.halted = false) : s.fault? = none := by
  rw [fault?, failure_of_not_halted h]

namespace Session

variable {σ : Type} {host : Host σ} {s : Session σ} {n : Nat}

/-! ## Frames -/

theorem machine_synced :
    s.synced.machine = { s.machine with soundReported := s.machine.state.soundActive } :=
  machine_heard _

/-- A frame without a fault: its slots, its ticks, and one more on the count. -/
theorem run_runFrame (host : Host σ) (ticks : Int)
    (hk : s.machine.config.slotsPerFrame < slotLimit)
    (hrun : (s.machine.state.run s.machine.config.slotsPerFrame).halted = false) :
    ∃ t, (runFrame host ticks).run s = .ok () t ∧
      t.machine = { s.machine with
        state := (s.machine.state.run s.machine.config.slotsPerFrame).ticks ticks.toNat
        frameCount := s.machine.frameCount + 1
        soundReported := t.machine.state.soundActive } := by
  simp only [runFrame, EStateM.run_bind, run_getMachine, run_runSlots hk hrun, run_tick, run_update,
    run_present, EStateM.Result.ok.injEq, true_and, exists_eq_left', machine_synced, withState]

/-- A frame that meets a fault ends with it. -/
theorem run_runFrame_of_fault (host : Host σ) (ticks : Int)
    (hk : s.machine.config.slotsPerFrame < slotLimit)
    (hs : s.machine.state.halted = false) {f : Failure}
    (hf : (s.machine.state.run s.machine.config.slotsPerFrame).failure = .ok (some f)) :
    (runFrame host ticks).run s =
      .error f (s.stopped (s.machine.state.run s.machine.config.slotsPerFrame) f) := by
  simp only [runFrame, EStateM.run_bind, run_getMachine, run_runSlots_of_fault hk hs hf]

/-- A frame with more slots than a host can count is refused. -/
theorem run_runFrame_of_limit (host : Host σ) (ticks : Int)
    (hk : slotLimit ≤ s.machine.config.slotsPerFrame) (hs : s.machine.state.halted = false) :
    (runFrame host ticks).run s = .error .outOfRange s := by
  rw [runFrame, run_bind_of_ok run_getMachine, run_bind_of_error (run_runSlots_of_limit hk hs)]

/-! ## Cycles -/

/-- Cycles one after the other; the first that fails ends them. -/
def cycles (host : Host σ) : Nat → Action σ Unit
  | 0 => pure ()
  | n + 1 => do
    cycle host
    cycles host n

/-- No tick is due at any of the polls of so many cycles, each after the slot of its cycle. -/
def NoTickDue (host : Host σ) (n : Nat) (s : Session σ) : Prop :=
  ∀ j < n, ∀ u, (do cycles host j; runSlots 1 : Action σ Unit).run s = .ok () u →
    ∃ clock, u.machine.clock.due (host.now u.world).1 = .ok (0, clock)

/-- A cycle without a fault and with no tick due is one slot. -/
theorem run_cycle (hrun : s.machine.state.step.halted = false) (hquiet : NoTickDue host (n + 1) s) :
    ∃ t, (cycle host).run s = .ok () t ∧ t.machine.state = s.machine.state.step ∧
      NoTickDue host n t := by
  have hslot : (runSlots 1).run s = .ok () (s.withState s.machine.state.step).synced :=
    run_runSlots (by decide) hrun
  obtain ⟨clock, hdue⟩ := hquiet 0 (Nat.succ_pos n) _ hslot
  have hcycle : ∃ t, (cycle host).run s = .ok () t ∧ t.machine.state = s.machine.state.step := by
    rw [cycle, run_bind_of_ok hslot, run_bind_of_ok (run_dueTicks hdue), run_tick]
    exact ⟨_, rfl, by simp only [machine_synced, withState]; rfl⟩
  obtain ⟨t, hcycle, hstate⟩ := hcycle
  refine ⟨t, hcycle, hstate, fun j hj u hu => hquiet (j + 1) (Nat.succ_lt_succ hj) u ?_⟩
  rw [EStateM.run_bind] at hu ⊢
  rw [cycles, EStateM.run_bind, hcycle]
  exact hu

theorem run_cycle_of_fault (hs : s.machine.state.halted = false) {f : Failure}
    (hf : s.machine.state.step.failure = .ok (some f)) :
    (cycle host).run s = .error f (s.stopped s.machine.state.step f) := by
  have hslot : (runSlots 1).run s = .error f (s.stopped s.machine.state.step f) :=
    run_runSlots_of_fault (by decide) hs hf
  rw [cycle, run_bind_of_error hslot]

/-- **Cycles are slots** as long as no tick comes due: a fault ends them, and then the remaining
slots would have done nothing. -/
theorem cycles_outcome (hs : s.machine.state.halted = false) (hquiet : NoTickDue host n s) :
    (left ((cycles host n).run s)).machine.state = s.machine.state.run n ∧
      failure? ((cycles host n).run s) = (s.machine.state.run n).fault? := by
  -- A cycle without a fault hands on its state, and that no tick is due at the polls to come.
  induction n generalizing s with
  | zero => exact ⟨rfl, (State.fault?_of_not_halted hs).symm⟩
  | succ n ih =>
    rw [cycles, EStateM.run_bind, State.run]
    cases hstep : s.machine.state.step.halted with
    | false =>
      obtain ⟨t, hcycle, hstate, hlater⟩ := run_cycle hstep hquiet
      rw [hcycle, ← hstate]
      exact ih (by rw [hstate, hstep]) hlater
    | true =>
      obtain ⟨f, hf, -⟩ := State.failure_run hs (n := 1) hstep
      have hf : s.machine.state.step.failure = .ok (some f) := hf
      rw [run_cycle_of_fault hs hf, State.run_of_halted hstep]
      exact ⟨rfl, by rw [State.fault?, hf]; rfl⟩

/-! ## A clock that stands still -/

section StandingClock

variable {c : TickClock} (hc : ∀ w, c.due (host.now w).1 = .ok (0, c))

include hc

omit hc in
theorem keeps_clock_runSlots (n : Nat) :
    Keeps (fun s : Session σ => s.machine.clock = c) (runSlots n) :=
  Keeps.runSlots (fun _ _ hs _ _ => hs) fun _ hs _ =>
    (congrArg Machine.clock machine_synced).trans hs

theorem keeps_clock_cycle : Keeps (fun s => s.machine.clock = c) (cycle host) := by
  refine (keeps_clock_runSlots 1).bind fun _ s hs => ?_
  have hdue : s.machine.clock.due (host.now s.world).1 = .ok (0, c) := by rw [hs, hc]
  rw [run_bind_of_ok (run_dueTicks hdue), run_tick]
  exact congrArg Machine.clock machine_synced

theorem keeps_clock_cycles (n : Nat) : Keeps (fun s => s.machine.clock = c) (cycles host n) := by
  induction n with
  | zero => exact Keeps.pure ()
  | succ n ih => exact (keeps_clock_cycle hc).bind fun _ => ih

/-- No tick comes due as long as the clock stands still. -/
theorem noTickDue_of_standing (hs : s.machine.clock = c) : NoTickDue host n s := by
  intro j _ u hu
  have hkeeps := ((keeps_clock_cycles hc j).bind fun _ => keeps_clock_runSlots 1) s hs
  rw [hu] at hkeeps
  exact ⟨c, hkeeps ▸ hc u.world⟩

end StandingClock

theorem due_startAt (w : Unit) :
    (TickClock.startAt timerFrequency.toFloat 0).due (Console.stillHost.now w).1 =
      .ok (0, .startAt timerFrequency.toFloat 0) := by
  have helapsed : (TickClock.startAt timerFrequency.toFloat 0).elapsed 0 = .ok 0 := rfl
  exact TickClock.due_of_elapsed helapsed

/-! ## Frames and cycles -/

/-- Cycles, and if none of them failed a number of ticks. -/
def cyclesAndTicks (host : Host σ) (n : Nat) (ticks : Int) : Action σ Unit := do
  cycles host n
  tick ticks

theorem run_cyclesAndTicks {ticks : Int} {t : Session σ} (h : (cycles host n).run s = .ok () t) :
    (cyclesAndTicks host n ticks).run s =
      .ok () (t.withState (t.machine.state.ticks ticks.toNat)).synced := by
  rw [cyclesAndTicks, run_bind_of_ok h, run_tick]

theorem run_cyclesAndTicks_of_error {ticks : Int} {t : Session σ} {f : Failure}
    (h : (cycles host n).run s = .error f t) :
    (cyclesAndTicks host n ticks).run s = .error f t := by
  rw [cyclesAndTicks, run_bind_of_error h]

/-- A frame with as many slots as a host can count, and no tick due at any poll of its cycles: the
frame and the cycles followed by the ticks of the frame leave the same state, and all fail alike. -/
theorem runFrame_eq_cycles {k : Nat} (hk : s.machine.config.slotsPerFrame = k)
    (hlimit : k < slotLimit) (hs : s.machine.state.halted = false) (hquiet : NoTickDue host k s)
    (ticks : Int) :
    (left ((runFrame host ticks).run s)).machine.state =
      (left ((cyclesAndTicks host k ticks).run s)).machine.state ∧
    failure? ((runFrame host ticks).run s) = failure? ((cycles host k).run s) ∧
    failure? ((cyclesAndTicks host k ticks).run s) = failure? ((cycles host k).run s) ∧
    ∀ f, failure? ((cycles host k).run s) = some f →
      (left ((runFrame host ticks).run s)).machine.state = s.machine.state.run k ∧
      (left ((cyclesAndTicks host k ticks).run s)).machine.state = s.machine.state.run k := by
  subst hk
  obtain ⟨hstate, hfailure⟩ := cycles_outcome hs hquiet
  cases hrun : (s.machine.state.run s.machine.config.slotsPerFrame).halted with
  | false =>
    rw [State.fault?_of_not_halted hrun] at hfailure
    obtain ⟨t, hframe, hmachine⟩ := run_runFrame host ticks hlimit hrun
    cases hcycles : (cycles host s.machine.config.slotsPerFrame).run s with
    | error f u =>
      rw [hcycles] at hfailure
      cases hfailure
    | ok _ u =>
      have hu : u.machine.state = s.machine.state.run s.machine.config.slotsPerFrame := by
        rw [hcycles] at hstate
        exact hstate
      rw [hframe, run_cyclesAndTicks hcycles]
      refine ⟨?_, rfl, rfl, fun f hf => by cases hf⟩
      simp only [left, machine_synced, withState, hu]
      rw [hmachine]
  | true =>
    obtain ⟨f, hf, -⟩ := State.failure_run hs hrun
    rw [State.fault?, hf] at hfailure
    have hframe := run_runFrame_of_fault host ticks hlimit hs hf
    cases hcycles : (cycles host s.machine.config.slotsPerFrame).run s with
    | ok _ u =>
      rw [hcycles] at hfailure
      cases hfailure
    | error f' u =>
      rw [hcycles] at hstate hfailure
      rw [hframe, run_cyclesAndTicks_of_error hcycles]
      exact ⟨hstate.symm, hfailure.symm, rfl, fun _ _ => ⟨rfl, hstate⟩⟩

/-- **A frame and its cycles agree.** Take a machine that has not halted, and as many cycles as a
frame has slots. More of them than a host can count make it refuse the frame, and the machine is
left as it was. Otherwise, and with no tick due at any poll of the cycles, the frame leaves the
state that the cycles leave when they are followed by the ticks of the frame. It fails exactly if
one of the cycles does, with the same failure, and then neither has let the timers tick: the state
is that after the slots alone. -/
theorem runFrame_agrees_with_cycles {k : Nat} (hk : s.machine.config.slotsPerFrame = k)
    (hs : s.machine.state.halted = false) (ticks : Int) :
    (slotLimit ≤ k → (runFrame host ticks).run s = .error .outOfRange s) ∧
    (k < slotLimit → NoTickDue host k s →
      (left ((runFrame host ticks).run s)).machine.state =
        (left ((cyclesAndTicks host k ticks).run s)).machine.state ∧
      failure? ((runFrame host ticks).run s) = failure? ((cycles host k).run s) ∧
      failure? ((cyclesAndTicks host k ticks).run s) = failure? ((cycles host k).run s) ∧
      ∀ f, failure? ((cycles host k).run s) = some f →
        (left ((runFrame host ticks).run s)).machine.state = s.machine.state.run k ∧
        (left ((cyclesAndTicks host k ticks).run s)).machine.state = s.machine.state.run k) :=
  ⟨fun hlimit => run_runFrame_of_limit host ticks (hk ▸ hlimit) hs,
    fun hlimit hquiet => runFrame_eq_cycles hk hlimit hs hquiet ticks⟩

/-- A program that sounds the beeper for five ticks and then meets a word that is no instruction. -/
def beepRom : Rom := [0x60, 0x05, 0xF0, 0x18, 0x00, 0x00]

/-- The machine with the program. -/
def beforeBeep : State := .withRom .keyed ⟨0, 0⟩ beepRom programStart

/-- The machine with the number of ticks in its register. -/
def loadedBeep : State :=
  { beforeBeep with registers := beforeBeep.registers.set 0 5, pc := 0x202 }

/-- The machine that sounds. -/
def soundingBeep : State := { loadedBeep with sound := 5, pc := 0x204 }

/-- The machine that sounds and has halted. -/
def afterBeep : State := soundingBeep.withStatus ⟨1, 0x204, 0, 0⟩

theorem run_beforeBeep (n : Nat) : beforeBeep.run (n + 3) = afterBeep := by
  have hload : beforeBeep.step = loadedBeep := by
    have hfetch : beforeBeep.fetch = 0x6005 := by
      simp [State.fetch, beforeBeep, beepRom, State.withRom, State.powerOn, Memory.read_writeAll,
        memorySize, programStart]
    exact step_of_run (i := .loadByte 0 5) ⟨rfl, rfl⟩ (by decide) (by rw [hfetch]; decide) rfl
  have hsound : loadedBeep.step = soundingBeep := by
    have hfetch : loadedBeep.fetch = 0xF018 := by
      simp [State.fetch, loadedBeep, beforeBeep, beepRom, State.withRom, State.powerOn,
        Memory.read_writeAll, memorySize, programStart]
    refine step_of_run (i := .setSound 0) ⟨rfl, rfl⟩ (by decide) (by rw [hfetch]; decide) ?_
    rfl
  have hfault : soundingBeep.step = afterBeep := by
    have hfetch : soundingBeep.fetch = 0x0000 := by
      simp [State.fetch, soundingBeep, loadedBeep, beforeBeep, beepRom, State.withRom,
        State.powerOn, Memory.read_writeAll, memorySize, programStart]
    have hnone : soundingBeep.runWord soundingBeep.fetch = .error .invalidOpcode :=
      State.runWord_eq_error_iff.2 (.inl ⟨by rw [hfetch]; decide, rfl⟩)
    rw [step_of_fault ⟨rfl, rfl⟩ (by decide) hnone, hfetch]
    rfl
  rw [State.run, hload, State.run, hsound, State.run, hfault, State.run_of_halted rfl]

/-- A machine in the state `state` that has not yet run, with a host whose clock stands still. -/
def still (config : Config) (rom : Option Rom) (state : State) : Session Unit where
  machine := {
    config, rom, state
    source := .keyed
    frameCount := 0
    clock := .startAt timerFrequency.toFloat 0
    soundReported := false }
  world := ()
  effects := #[]

/-- A machine with the program and the usual settings. -/
def beepSession : Session Unit := still {} (some beepRom) beforeBeep

/-- The fault in the third of eleven slots ends the frame and the third cycle alike, and the five
ticks of sound are all there in the end. -/
theorem beepSession_agrees :
    beepSession.machine.config.slotsPerFrame = 11 ∧ 11 < slotLimit ∧
    beepSession.machine.state.halted = false ∧ NoTickDue Console.stillHost 11 beepSession ∧
    failure? ((cycles Console.stillHost 11).run beepSession) = some (.invalidOpcode 0 0x204) ∧
    failure? ((runFrame Console.stillHost 1).run beepSession) = some (.invalidOpcode 0 0x204) ∧
    (left ((runFrame Console.stillHost 1).run beepSession)).machine.state = afterBeep ∧
    (left ((cyclesAndTicks Console.stillHost 11 1).run beepSession)).machine.state = afterBeep := by
  have hk : beepSession.machine.config.slotsPerFrame = 11 :=
    (Config.slotsPerFrame_int rfl).trans (by decide)
  have hlimit : 11 < slotLimit := by decide
  have hquiet : NoTickDue Console.stillHost 11 beepSession := noTickDue_of_standing due_startAt rfl
  have hrun : beepSession.machine.state.run 11 = afterBeep := run_beforeBeep 8
  obtain ⟨-, hfailure, -, hstate⟩ := (runFrame_agrees_with_cycles hk rfl 1).2 hlimit hquiet
  have hcycles :
      failure? ((cycles Console.stillHost 11).run beepSession) = some (.invalidOpcode 0 0x204) := by
    rw [(cycles_outcome rfl hquiet).2, hrun]
    rfl
  obtain ⟨hframe, hapart⟩ := hstate _ hcycles
  exact ⟨hk, hlimit, rfl, hquiet, hcycles, hfailure.trans hcycles, hframe.trans hrun,
    hapart.trans hrun⟩

/-! ## Beyond what a host can count -/

/-- The machine at the last byte of memory. -/
def atLastByte : State := .powerOn .keyed ⟨0, 0⟩ 0xFFF

/-- A machine without a program at the last byte of memory, so fast that a frame has one slot more
than a host can count. -/
def fastSession : Session Unit :=
  still { speed := .int 128849018880, loadAddress := .int 0xFFF } none atLastByte

theorem slotsPerFrame_fastSession : fastSession.machine.config.slotsPerFrame = slotLimit :=
  (Config.slotsPerFrame_int rfl).trans (by decide)

/-- The first cycle of the fast machine cannot fetch a word. -/
theorem run_cycle_fastSession :
    (cycle Console.stillHost).run fastSession = .error (.memoryOutOfBounds 0x1000 (some 0xFFF))
      (fastSession.stopped atLastByte.step (.memoryOutOfBounds 0x1000 (some 0xFFF))) := by
  refine run_cycle_of_fault rfl ?_
  have hstep : fastSession.machine.state.step = atLastByte.fetchFault :=
    step_of_not_canFetch ⟨rfl, rfl⟩ (by decide)
  rw [hstep]
  rfl

/-- The fast machine refuses its frame, whose slots are too many, and stays as it is. The first of
its cycles ends with a fault instead. -/
theorem runFrame_refuses_beyond_limit :
    fastSession.machine.state.halted = false ∧
    NoTickDue Console.stillHost fastSession.machine.config.slotsPerFrame fastSession ∧
    failure? ((runFrame Console.stillHost 1).run fastSession) = some .outOfRange ∧
    (left ((runFrame Console.stillHost 1).run fastSession)).machine.state = atLastByte ∧
    failure? ((cycles Console.stillHost fastSession.machine.config.slotsPerFrame).run fastSession) =
      some (.memoryOutOfBounds 0x1000 (some 0xFFF)) := by
  have hframe : (runFrame Console.stillHost 1).run fastSession = .error .outOfRange fastSession :=
    run_runFrame_of_limit Console.stillHost 1 (Nat.le_of_eq slotsPerFrame_fastSession.symm) rfl
  obtain ⟨n, hn⟩ : ∃ n, fastSession.machine.config.slotsPerFrame = n + 1 :=
    ⟨_, slotsPerFrame_fastSession⟩
  refine ⟨rfl, noTickDue_of_standing due_startAt rfl, ?_, ?_, ?_⟩
  · rw [hframe]
    rfl
  · rw [hframe]
    rfl
  · rw [hn, cycles, run_bind_of_error run_cycle_fastSession]
    rfl

end Session

end Chip8
