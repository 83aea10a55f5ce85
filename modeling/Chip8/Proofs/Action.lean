import Chip8.Machine.Operation
import Chip8.Proofs.Run

/-!
# What an action leaves behind

An action ends with a value or with a failure, and in both cases it leaves a session behind. `left`
is that session and `failure?` the failure. The first part of this module says what each elementary
action does, one equation for each, and from these what the building blocks of the operations do:
going through slots (`run_runSlots`, `run_runSlots_of_fault`), letting the timers tick (`run_tick`),
telling the host of the sound signal (`run_syncSound`) and starting over (`run_reset`).

`Keeps P` says that an action keeps a property of sessions however it ends. It goes through
sequences of actions, so that what an operation keeps follows from what its parts keep.
-/

namespace Chip8

/-- The number of slots from which on a host cannot count them. -/
def slotLimit : Nat := 0x80000000

@[simp] theorem ok_bind {α β : Type} (a : α) (f : α → Except Failure β) :
    (Except.ok a >>= f) = f a := rfl

theorem bind_eq_ok {α β : Type} {x : Except Failure α} {f : α → Except Failure β} {b : β}
    (h : x >>= f = .ok b) : ∃ a, x = .ok a ∧ f a = .ok b := by
  cases x with
  | error e => cases h
  | ok a => exact ⟨a, rfl, h⟩

theorem bind_eq_error {α β : Type} {x : Except Failure α} {f : α → Except Failure β} {e : Failure}
    (h : x >>= f = .error e) : x = .error e ∨ ∃ a, x = .ok a ∧ f a = .error e := by
  cases x with
  | error e' =>
    cases h
    exact .inl rfl
  | ok a => exact .inr ⟨a, rfl, h⟩

namespace State

variable {s : State}

/-! ## The failure of a halted machine -/

/-- A status that halts the machine records a fault. -/
def Faulted (s : State) : Prop := ∃ f pc word, s.status = .ofFault f pc word

/-- A machine that starts without a fault halts only when it has recorded one. -/
theorem faulted_step (h : s.halted = true → s.Faulted) (hs : s.step.halted = true) :
    s.step.Faulted := by
  generalize ht : s.step = t at hs ⊢
  have hslot : Slot s t := ht ▸ slot_step s
  cases hslot with
  | stay => exact h hs
  | poll hrun =>
    rw [halted, status_pollKey, ← halted, hrun] at hs
    cases hs
  | unfetched => exact ⟨_, _, _, rfl⟩
  | fault => exact ⟨_, _, _, rfl⟩
  | run hrun _ _ hi =>
    have hstatus : t.status = s.status := (Instruction.status_of_run hi).trans rfl
    rw [halted, hstatus, ← halted, hrun.not_halted] at hs
    cases hs

theorem faulted_run (h : s.halted = true → s.Faulted) (n : Nat) :
    (s.run n).halted = true → (s.run n).Faulted := by
  induction n generalizing s with
  | zero => exact h
  | succ n ih => exact ih (faulted_step h)

/-- The failure of a fault is a fatal error, whose kind is that of the fault. -/
theorem Faulted.failure (h : s.Faulted) : ∃ f, s.failure = .ok (some f) ∧ f.isFatal = true := by
  obtain ⟨f, pc, word, hstatus⟩ := h
  rw [State.failure, hstatus]
  cases f <;> exact ⟨_, rfl, rfl⟩

theorem failure_run (hs : s.halted = false) {n : Nat} (h : (s.run n).halted = true) :
    ∃ f, (s.run n).failure = .ok (some f) ∧ f.isFatal = true :=
  (faulted_run (fun hh => by rw [hs] at hh; cases hh) n h).failure

theorem failure_of_not_halted (hs : s.halted = false) : s.failure = .ok none := by
  rw [failure, Status.failure, halted_eq_false_iff.1 hs]
  rfl

/-- A halted machine has some failure to end with, if not the one of a fault. -/
theorem failure_of_halted (hs : s.halted = true) :
    (∃ f, s.failure = .error f) ∨ ∃ f, s.failure = .ok (some f) := by
  have hcode : (s.status.code.toNat : Int) ≠ 0 := by
    intro h
    have hzero : s.status.code = 0 := BitVec.eq_of_toNat_eq (by simpa using h)
    simp [halted, hzero] at hs
  simp only [failure, Status.failure, Failure.ofStatus, if_neg hcode]
  repeat' split
  · exact .inr ⟨_, rfl⟩
  · exact .inr ⟨_, rfl⟩
  · exact .inr ⟨_, rfl⟩
  · exact .inr ⟨_, rfl⟩
  · exact .inl ⟨_, rfl⟩

theorem not_halted_of_run {n : Nat} (h : (s.run n).halted = false) : s.halted = false := by
  cases hs : s.halted with
  | false => rfl
  | true =>
    rw [run_of_halted hs, hs] at h
    cases h

@[simp] theorem status_ticks (s : State) (n : Nat) : (s.ticks n).status = s.status := by
  induction n generalizing s with
  | zero => rfl
  | succ n ih => exact ih s.tick

theorem runInt_of_lt {n : Nat} (h : n < slotLimit) : s.runInt n = .ok (s.run n) := by
  simp only [slotLimit] at h
  rw [runInt, if_pos (by omega), Int.toNat_natCast]

theorem runInt_of_le {n : Nat} (h : slotLimit ≤ n) : s.runInt n = .error .outOfRange := by
  simp only [slotLimit] at h
  rw [runInt, if_neg (by omega)]

end State

namespace Session

variable {σ α β : Type} {s : Session σ}

/-! ## Ends of actions -/

/-- The session that an action leaves behind. -/
def left : EStateM.Result Failure (Session σ) α → Session σ
  | .ok _ s => s
  | .error _ s => s

/-- The failure that an action ends with, if it fails. -/
def failure? : EStateM.Result Failure (Session σ) α → Option Failure
  | .ok .. => none
  | .error f _ => some f

theorem run_bind_of_ok {a : Action σ α} {f : α → Action σ β} {t : Session σ} {x : α}
    (h : a.run s = .ok x t) : (a >>= f).run s = (f x).run t := by
  rw [EStateM.run_bind, h]

theorem run_bind_of_error {a : Action σ α} {f : α → Action σ β} {t : Session σ} {e : Failure}
    (h : a.run s = .error e t) : (a >>= f).run s = .error e t := by
  rw [EStateM.run_bind, h]

theorem run_bind_eq_ok {a : Action σ α} {f : α → Action σ β} {y : β} {u : Session σ}
    (h : (a >>= f).run s = .ok y u) : ∃ x t, a.run s = .ok x t ∧ (f x).run t = .ok y u := by
  cases ha : a.run s with
  | ok x t => exact ⟨x, t, rfl, (run_bind_of_ok ha).symm.trans h⟩
  | error e t => cases (run_bind_of_error ha).symm.trans h

theorem run_bind_congr {a b : Action σ α} {f : α → Action σ β} {t : Session σ}
    (h : a.run s = b.run t) : (a >>= f).run s = (b >>= f).run t := by
  rw [EStateM.run_bind, EStateM.run_bind, h]

/-- An action keeps a property of sessions, whether it ends with a value or fails. -/
def Keeps (P : Session σ → Prop) (a : Action σ α) : Prop := ∀ s, P s → P (left (a.run s))

theorem Keeps.pure {P : Session σ → Prop} (a : α) : Keeps P (pure a : Action σ α) :=
  fun _ hs => hs

/-- What the first of two actions leaves behind is not undone by one that keeps it. -/
theorem left_bind_of_keeps {P : Session σ → Prop} {a : Action σ α} {f : α → Action σ β}
    (h : P (left (a.run s))) (hf : ∀ x, Keeps P (f x)) : P (left ((a >>= f).run s)) := by
  cases hrun : a.run s with
  | ok x t =>
    rw [hrun] at h
    rw [run_bind_of_ok hrun]
    exact hf x t h
  | error f t =>
    rw [hrun] at h
    rw [run_bind_of_error hrun]
    exact h

theorem Keeps.bind {P : Session σ → Prop} {a : Action σ α} {f : α → Action σ β} (ha : Keeps P a)
    (hf : ∀ x, Keeps P (f x)) : Keeps P (a >>= f) :=
  fun s hs => left_bind_of_keeps (ha s hs) hf

theorem Keeps.of_run_eq_ok {P : Session σ → Prop} {a : Action σ α} {x : α} {t : Session σ}
    (ha : Keeps P a) (hs : P s) (h : a.run s = .ok x t) : P t := by
  have hleft := ha s hs
  rwa [h] at hleft

theorem Keeps.ite {P : Session σ → Prop} {c : Prop} [Decidable c] {a b : Action σ α}
    (ha : Keeps P a) (hb : Keeps P b) : Keeps P (if c then a else b) := by
  split
  · exact ha
  · exact hb

theorem Keeps.lift {P : Session σ → Prop} {x : Except Failure α} :
    Keeps P (lift x : Action σ α) := by
  cases x with
  | ok a => exact fun _ hs => hs
  | error f => exact fun _ hs => hs

/-! ## Elementary actions -/

@[simp] theorem run_getMachine : getMachine.run s = .ok s.machine s := rfl

@[simp] theorem run_update (f : Machine → Machine) :
    (update f).run s = .ok () { s with machine := f s.machine } := rfl

@[simp] theorem run_tell (e : Effect) :
    (tell e).run s = .ok () { s with effects := s.effects.push e } := rfl

/-- The session with one more message in its log. -/
def noted (s : Session σ) (level : LogLevel) (message : Text) : Session σ :=
  { s with effects := s.effects.push (.log level message) }

@[simp] theorem run_log (level : LogLevel) (message : Text) :
    (log level message).run s = .ok () (s.noted level message) := rfl

@[simp] theorem run_now (host : Host σ) :
    (now host).run s = .ok (host.now s.world).1 { s with world := (host.now s.world).2 } := rfl

@[simp] theorem run_lift_ok (a : α) : (lift (.ok a)).run s = .ok a s := rfl

@[simp] theorem run_lift_error (f : Failure) :
    (lift (.error f) : Action σ α).run s = .error f s := rfl

@[simp] theorem run_stops (stop : StopRule σ) :
    (stops stop).run s =
      .ok (stop s.machine s.world).1 { s with world := (stop s.machine s.world).2 } := rfl

@[simp] theorem run_present (host : Host σ) :
    (present host).run s = .ok () { s with
      effects := s.effects.push (.frame s.machine.state.display)
      world := host.present s.machine.state.display s.world } := rfl

/-! ## The sound signal -/

/-- The session with another state in its machine. -/
def withState (s : Session σ) (state : State) : Session σ :=
  { s with machine := { s.machine with state } }

/-- The message about a change of the sound signal. -/
def soundMessage (active : Bool) : Text := if active then "Sound on" else "Sound off"

/-- The session after its host was told of the sound signal, if the signal has changed. -/
def heard (s : Session σ) (active : Bool) : Session σ :=
  if active = s.machine.soundReported then s
  else { s with
    machine := { s.machine with soundReported := active }
    effects := (s.effects.push (.log .debug (soundMessage active))).push (.sound active) }

/-- The session after its host was told of the sound signal as it is. -/
def synced (s : Session σ) : Session σ := s.heard s.machine.state.soundActive

@[simp] theorem machine_heard (active : Bool) :
    (s.heard active).machine = { s.machine with soundReported := active } := by
  unfold heard
  split
  · subst active
    rfl
  · rfl

@[simp] theorem run_reportSound (active : Bool) :
    (reportSound active).run s = .ok () (s.heard active) := by
  by_cases h : active = s.machine.soundReported
  · simp [reportSound, heard, h]
  · simp [reportSound, heard, h, noted, soundMessage]

@[simp] theorem run_syncSound : syncSound.run s = .ok () s.synced := by
  simp [syncSound, synced]

/-! ## Slots and ticks -/

@[simp] theorem run_tick (n : Int) :
    (tick n).run s = .ok () (s.withState (s.machine.state.ticks n.toNat)).synced := by
  simp [tick, withState]

theorem run_ensureRunning (hs : s.machine.state.halted = false) :
    ensureRunning.run s = .ok () s := by
  simp [ensureRunning, hs]

/-- A halted machine refuses to run and stays as it is. -/
theorem run_ensureRunning_of_halted (hs : s.machine.state.halted = true) :
    ∃ f, ensureRunning.run s = .error f s := by
  rcases State.failure_of_halted hs with ⟨f, hf⟩ | ⟨f, hf⟩ <;>
    exact ⟨f, by simp [ensureRunning, hs, hf]⟩

/-- The session after slots that ended with a failure, which has been logged. -/
def stopped (s : Session σ) (state : State) (f : Failure) : Session σ :=
  (s.withState state).noted .error ("Halting: " ++ f.message)

/-- Slots without a fault go through, and the host hears of the sound signal after them. -/
theorem run_runSlots {n : Nat} (hn : n < slotLimit)
    (hrun : (s.machine.state.run n).halted = false) :
    (runSlots n).run s = .ok () (s.withState (s.machine.state.run n)).synced := by
  have hs : s.machine.state.halted = false := State.not_halted_of_run hrun
  have hfailure := State.failure_of_not_halted hrun
  simp [runSlots, run_ensureRunning hs, State.runInt_of_lt hn, checkFault, hfailure, withState]

/-- Slots that meet a fault end with its failure, and the host is told nothing of the sound. -/
theorem run_runSlots_of_fault {n : Nat} (hn : n < slotLimit)
    (hs : s.machine.state.halted = false) {f : Failure}
    (hf : (s.machine.state.run n).failure = .ok (some f)) :
    (runSlots n).run s = .error f (s.stopped (s.machine.state.run n) f) := by
  simp [runSlots, run_ensureRunning hs, State.runInt_of_lt hn, checkFault, hf, stopped, withState]

/-- More slots than a host can count are refused. -/
theorem run_runSlots_of_limit {n : Nat} (hn : slotLimit ≤ n)
    (hs : s.machine.state.halted = false) : (runSlots n).run s = .error .outOfRange s := by
  simp [runSlots, run_ensureRunning hs, State.runInt_of_le hn]

theorem run_runSlots_of_halted (n : Nat) (hs : s.machine.state.halted = true) :
    ∃ f, (runSlots n).run s = .error f s := by
  obtain ⟨f, hf⟩ := run_ensureRunning_of_halted hs
  exact ⟨f, run_bind_of_error hf⟩

/-- The ways in which a number of slots can end. -/
inductive SlotsEnd (n : Nat) (s : Session σ) : EStateM.Result Failure (Session σ) Unit → Prop
  | refused (f : Failure) : (slotLimit ≤ n ∨ s.machine.state.halted = true) →
      SlotsEnd n s (.error f s)
  | fault (f : Failure) : s.machine.state.halted = false →
      (s.machine.state.run n).halted = true → (s.machine.state.run n).failure = .ok (some f) →
      SlotsEnd n s (.error f (s.stopped (s.machine.state.run n) f))
  | done : (s.machine.state.run n).halted = false →
      SlotsEnd n s (.ok () (s.withState (s.machine.state.run n)).synced)

/-- Slots are refused, they meet a fault, or they go through. -/
theorem slotsEnd_runSlots (n : Nat) (s : Session σ) : SlotsEnd n s ((runSlots n).run s) := by
  cases hs : s.machine.state.halted with
  | true =>
    obtain ⟨f, hf⟩ := run_runSlots_of_halted n hs
    rw [hf]
    exact .refused f (.inr hs)
  | false =>
    by_cases hn : n < slotLimit
    · cases hrun : (s.machine.state.run n).halted with
      | false =>
        rw [run_runSlots hn hrun]
        exact .done hrun
      | true =>
        obtain ⟨f, hf, -⟩ := State.failure_run hs hrun
        rw [run_runSlots_of_fault hn hs hf]
        exact .fault f hs hrun hf
    · rw [run_runSlots_of_limit (Nat.le_of_not_lt hn) hs]
      exact .refused _ (.inl (Nat.le_of_not_lt hn))

theorem Keeps.runSlots {P : Session σ → Prop} {n : Nat}
    (hfault : ∀ s f, P s → s.machine.state.halted = false →
      (s.machine.state.run n).halted = true → P (s.stopped (s.machine.state.run n) f))
    (hdone : ∀ s, P s → (s.machine.state.run n).halted = false →
      P (s.withState (s.machine.state.run n)).synced) : Keeps P (runSlots n) := by
  intro s hs
  generalize hr : (Session.runSlots n).run s = r
  have hend : SlotsEnd n s r := hr ▸ slotsEnd_runSlots n s
  cases hend with
  | refused => exact hs
  | fault f hrun hhalt => exact hfault s f hs hrun hhalt
  | done hrun => exact hdone s hs hrun

/-- The ticks that have come due, and the clock that counts on from here. -/
theorem run_dueTicks {host : Host σ} {due : Int} {clock : TickClock}
    (h : s.machine.clock.due (host.now s.world).1 = .ok (due, clock)) :
    (dueTicks host).run s =
      .ok due { s with machine := { s.machine with clock }, world := (host.now s.world).2 } := by
  simp only [dueTicks, EStateM.run_bind, run_now, run_getMachine, h, run_lift_ok, run_update]
  rfl

/-! ## Starting over -/

/-- The state in which a machine starts over. -/
def initialState (m : Machine) : Except Failure State := do
  let fresh ← Machine.freshState m.config m.source
  match m.rom with
  | some rom => fresh.loadRomAt rom m.config.loadAddress
  | none => return fresh

theorem eq_powerOn_of_freshState {config : Config} {source : RandomSource} {fresh : State}
    (h : Machine.freshState config source = .ok fresh) :
    ∃ key pc, fresh = .powerOn source key pc := by
  rw [Machine.freshState] at h
  split at h
  · obtain ⟨address, -, hcreate⟩ := bind_eq_ok h
    rw [State.create] at hcreate
    split at hcreate
    · exact ⟨_, _, (Except.ok.inj hcreate).symm⟩
    · cases hcreate
  · cases h

/-- A machine starts over as it is at power-on, with its program in memory. -/
theorem eq_powerOn_of_initialState {m : Machine} {state : State}
    (h : initialState m = .ok state) :
    ∃ source key pc memory, state = { State.powerOn source key pc with memory } := by
  obtain ⟨fresh, hfresh, hload⟩ := bind_eq_ok h
  obtain ⟨key, pc, rfl⟩ := eq_powerOn_of_freshState hfresh
  cases hrom : m.rom with
  | none =>
    rw [hrom] at hload
    obtain rfl := Except.ok.inj hload
    exact ⟨_, key, pc, _, rfl⟩
  | some rom =>
    rw [hrom] at hload
    obtain ⟨a, ha⟩ := loadRom_of_loadRomAt hload
    obtain ⟨-, rfl⟩ := loadRom_eq_ok_iff.1 ha
    exact ⟨_, key, _, _, rfl⟩

/-- A machine starts over with no fault recorded, and without sound. -/
theorem initialState_quiet {m : Machine} {state : State} (h : initialState m = .ok state) :
    state.halted = false ∧ state.soundActive = false := by
  obtain ⟨source, key, pc, memory, rfl⟩ := eq_powerOn_of_initialState h
  exact ⟨rfl, rfl⟩

/-- A machine that has a whole number as its load address starts over by loading its program. -/
theorem initialState_of_rom {m : Machine} {rom : Rom} {key : WordPair} {a : Int} {pc : Word}
    (hrom : m.rom = some rom) (hkey : WordPair.ofSeed? m.config.seed = some key)
    (ha : m.config.loadAddress = .int a) (hpc : counterOfInt? a = some pc) :
    initialState m = (State.powerOn m.source key pc).loadRom rom a := by
  have hscalar : (HostValue.int a).toScalar = .ok a := rfl
  have hfresh : Machine.freshState m.config m.source = .ok (.powerOn m.source key pc) := by
    rw [Machine.freshState, hkey, ha]
    show (HostValue.int a).toScalar >>= State.create m.source key = _
    rw [hscalar]
    show State.create m.source key a = _
    rw [State.create, hpc]
  rw [initialState, hfresh, hrom, ha, ← State.loadRomAt_int]
  rfl

/-- The session after its machine has started over in a state. -/
def restarted (host : Host σ) (s : Session σ) (state : State) : Session σ :=
  let (time, world) := host.now s.world
  let clock := s.machine.clock.reset time
  let t := { s with world, machine := { s.machine with state, clock, frameCount := 0 } }
  (t.heard false).noted .info "Machine reset"

theorem machine_restarted (host : Host σ) (state : State) :
    (s.restarted host state).machine = { s.machine with
      state
      frameCount := 0
      clock := s.machine.clock.reset (host.now s.world).1
      soundReported := false } := by
  simp [restarted, noted]

theorem run_reset {host : Host σ} {state : State} (h : initialState s.machine = .ok state) :
    (reset host).run s = .ok () (s.restarted host state) := by
  obtain ⟨fresh, hfresh, hload⟩ := bind_eq_ok h
  cases hrom : s.machine.rom <;> rw [hrom] at hload
  · cases hload
    simp [reset, hfresh, hrom, restarted]
  · simp [reset, hfresh, hrom, hload, restarted]

/-- A machine that cannot start over stays as it is. -/
theorem run_reset_of_error {host : Host σ} {f : Failure} (h : initialState s.machine = .error f) :
    (reset host).run s = .error f s := by
  rcases bind_eq_error h with hfresh | ⟨fresh, hfresh, hload⟩
  · simp [reset, hfresh]
  · cases hrom : s.machine.rom <;> rw [hrom] at hload
    · cases hload
    · simp [reset, hfresh, hrom, hload]

/-- The session whose machine has been given a program, but has not started over yet. -/
def withRom (s : Session σ) (rom : Rom) : Session σ :=
  { s with machine := { s.machine with rom := some rom } }

/-- The message after a program has been loaded. -/
def loadMessage (rom : Rom) (address : Int) : Text :=
  s!"Loaded {rom.length} bytes at 0x" ++ Text.hex 3 address

/-- A program that can be loaded is in place when the message about it is put together. -/
theorem run_load_of_initialState {host : Host σ} {rom : Rom} {state : State}
    (h : initialState (s.withRom rom).machine = .ok state) :
    (load host rom).run s = (do
      let address ← lift s.machine.config.loadAddress.hexNumber
      log .info (loadMessage rom address)).run ((s.withRom rom).restarted host state) := by
  have hmachine := machine_restarted (s := s.withRom rom) host state
  have hreset : (reset host).run (s.withRom rom) = _ := run_reset h
  rw [load, run_bind_of_ok (run_update _)]
  show ((reset host) >>= _ : Action σ Unit).run (s.withRom rom) = _
  rw [run_bind_of_ok hreset, run_bind_of_ok run_getMachine, hmachine]
  rfl

theorem run_load {host : Host σ} {rom : Rom} {state : State} {address : Int}
    (h : initialState (s.withRom rom).machine = .ok state)
    (ha : s.machine.config.loadAddress.hexNumber = .ok address) :
    (load host rom).run s =
      .ok () (((s.withRom rom).restarted host state).noted .info (loadMessage rom address)) := by
  rw [run_load_of_initialState h, ha, run_bind_of_ok (run_lift_ok _), run_log]

/-- A program that cannot be loaded is kept all the same, in a machine that stays as it is. -/
theorem run_load_of_error {host : Host σ} {rom : Rom} {f : Failure}
    (h : initialState (s.withRom rom).machine = .error f) :
    (load host rom).run s = .error f (s.withRom rom) := by
  rw [load, run_bind_of_ok (run_update _)]
  exact run_bind_of_error (run_reset_of_error h)

theorem run_loadFile (host : Host σ) (name : Text) (rom : Rom) :
    (loadFile host name (.ok rom)).run s =
      (load host rom).run (s.noted .info ("Reading ROM " ++ name)) := by
  rw [loadFile, run_bind_of_ok (run_log _ _), run_bind_of_ok (run_lift_ok _)]

end Session

end Chip8
