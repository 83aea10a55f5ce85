import Chip8.Proofs.Sound

/-!
# Loads that fail

A program that is loaded replaces the one that the machine remembers, and then the machine starts
over with it. A program that is refused is remembered all the same, although the machine does not
start over: everything else is as it was before, and a reset tries the refused program again.

**`failed_load_keeps_state`** says what a load leaves behind that a fatal error has ended, or that
could not read its file. `refused_program_replaces_loaded` is a machine that has lost its program
in this way: it could be reset before the load and cannot be reset after it.
-/

namespace Chip8

theorem not_fatal_of_hexNumber {v : HostValue} {f : Failure} (h : v.hexNumber = .error f) :
    f.isFatal = false := by
  cases v with
  | bool b | int n => cases h
  | null | float x | text t | list values | record fields =>
    cases h
    rfl

namespace Session

variable {σ : Type} {s t : Session σ} {host : Host σ} {rom : Rom} {f : Failure}

/-! ## Starting over -/

/-- Resets of two sessions end with the same failure, if any, and leave the same machine. -/
def ResetsAlike (host : Host σ) (s t : Session σ) : Prop :=
  failure? ((reset host).run t) = failure? ((reset host).run s) ∧
    (left ((reset host).run t)).machine = (left ((reset host).run s)).machine

/-- What a host was told before makes no difference to a reset. -/
theorem resetsAlike_of_machine (hmachine : t.machine = s.machine) (hworld : t.world = s.world) :
    ResetsAlike host s t := by
  cases h : initialState s.machine with
  | error f =>
    rw [ResetsAlike, run_reset_of_error h, run_reset_of_error (hmachine ▸ h)]
    exact ⟨rfl, hmachine⟩
  | ok state =>
    rw [ResetsAlike, run_reset h, run_reset (hmachine ▸ h)]
    refine ⟨rfl, ?_⟩
    simp only [left, machine_restarted, hmachine, hworld]

/-! ## Loading -/

/-- A program can be loaded at an address that cannot be shown; the load fails all the same. -/
theorem run_load_of_unshown {state : State}
    (h : initialState (s.withRom rom).machine = .ok state)
    (ha : s.machine.config.loadAddress.hexNumber = .error f) :
    (load host rom).run s = .error f ((s.withRom rom).restarted host state) := by
  rw [run_load_of_initialState h, ha, run_bind_of_error (run_lift_error f)]

/-- A load that a fatal error ends has not started over. -/
theorem of_run_load_eq_error (h : (load host rom).run s = .error f t) (hf : f.isFatal = true) :
    initialState (s.withRom rom).machine = .error f ∧ s.withRom rom = t := by
  cases hstate : initialState (s.withRom rom).machine with
  | error g =>
    rw [run_load_of_error hstate] at h
    cases h
    exact ⟨rfl, rfl⟩
  | ok state =>
    cases ha : s.machine.config.loadAddress.hexNumber with
    | ok address =>
      rw [run_load hstate ha] at h
      cases h
    | error g =>
      rw [run_load_of_unshown hstate ha] at h
      cases h
      rw [not_fatal_of_hexNumber ha] at hf
      cases hf

theorem run_loadFile_of_error (host : Host σ) (name : Text) (f : Failure) :
    (loadFile host name (.error f)).run s = .error f (s.noted .info ("Reading ROM " ++ name)) := by
  rw [loadFile, run_bind_of_ok (run_log _ _), run_bind_of_error (run_lift_error f)]

/-- The program that an operation loads, or why it cannot be read, if it is one that loads. -/
def Operation.program? : Operation σ → Option (Except Failure Rom)
  | .load rom => some (.ok rom)
  | .loadFile _ content => some content
  | _ => none

/-- **A load that fails** leaves everything as it was but for the program that the machine
remembers: this is the refused one from then on, so that a reset fails like the load. If it is the
file that could not be read, then the machine is as it was before, and resets as before. -/
theorem failed_load_keeps_state {op : Operation σ} {content : Except Failure Rom}
    (hop : op.program? = some content) (h : (op.action host).run s = .error f t)
    (hf : f.isFatal = true ∨ content = .error f) :
    t.world = s.world ∧ t.signal.reports = s.signal.reports ∧
      match content with
      | .ok rom => t.machine = { s.machine with rom := some rom } ∧
          (reset host).run t = .error f t
      | .error _ => t.machine = s.machine ∧ ResetsAlike host s t := by
  cases op with
  | load rom =>
    obtain rfl := Option.some.inj hop
    have hfatal : f.isFatal = true := hf.resolve_right nofun
    obtain ⟨hstate, rfl⟩ := of_run_load_eq_error h hfatal
    exact ⟨rfl, rfl, rfl, run_reset_of_error hstate⟩
  | loadFile name content =>
    obtain rfl := Option.some.inj hop
    have hreports := congrArg Signal.reports
      (signal_noted (s := s) .info ("Reading ROM " ++ name))
    cases content with
    | ok rom =>
      have hfatal : f.isFatal = true := hf.resolve_right nofun
      have hload := (run_loadFile host name rom).symm.trans h
      obtain ⟨hstate, rfl⟩ := of_run_load_eq_error hload hfatal
      exact ⟨rfl, hreports, rfl, run_reset_of_error hstate⟩
    | error g =>
      have hfile := (run_loadFile_of_error host name g).symm.trans h
      obtain ⟨rfl, rfl⟩ := EStateM.Result.error.inj hfile
      exact ⟨rfl, hreports, rfl, resetsAlike_of_machine rfl rfl⟩
  | _ => cases hop

/-- A new machine that loads its programs at the last byte of memory. -/
def narrowSession : Session Unit := still { loadAddress := .int 0xFFF } none atLastByte

/-- The last byte of memory is a program. -/
def oneByteState : State := { atLastByte with memory := atLastByte.memory.writeAll 0xFFF [0x12] }

/-- The machine with a program of one byte. -/
def oneByteSession : Session Unit :=
  ((narrowSession.withRom [0x12]).restarted Console.stillHost oneByteState).noted .info
    (loadMessage [0x12] 0xFFF)

theorem machine_oneByteSession : oneByteSession.machine =
    { narrowSession.machine with rom := some [0x12], state := oneByteState } :=
  (machine_restarted (s := narrowSession.withRom [0x12]) Console.stillHost oneByteState).trans rfl

/-- There is room for one byte. -/
theorem initialState_oneByte {state : State} :
    initialState { narrowSession.machine with rom := some [0x12], state } = .ok oneByteState := by
  rw [initialState_of_rom rfl rfl rfl rfl]
  exact loadRom_eq_ok_iff.2 ⟨by decide, rfl⟩

/-- There is no room for two bytes. -/
theorem initialState_twoBytes : initialState (oneByteSession.withRom [0x12, 0x34]).machine =
    .error (.romTooLarge 2 (.int 1)) := by
  rw [withRom, machine_oneByteSession, initialState_of_rom rfl rfl rfl rfl]
  rfl

theorem run_load_oneByte :
    (load Console.stillHost [0x12]).run narrowSession = .ok () oneByteSession :=
  run_load initialState_oneByte rfl

theorem run_load_twoBytes :
    (load Console.stillHost [0x12, 0x34]).run oneByteSession =
      .error (.romTooLarge 2 (.int 1)) (oneByteSession.withRom [0x12, 0x34]) :=
  run_load_of_error initialState_twoBytes

theorem run_reset_oneByte :
    failure? ((reset Console.stillHost).run oneByteSession) = none := by
  have hstate : initialState oneByteSession.machine = .ok oneByteState := by
    rw [machine_oneByteSession]
    exact initialState_oneByte
  rw [run_reset hstate]
  rfl

/-- A second program that does not fit: the machine is as it was but for the program. -/
theorem twoBytes_refused :
    (load Console.stillHost [0x12, 0x34]).run oneByteSession =
      .error (.romTooLarge 2 (.int 1)) (oneByteSession.withRom [0x12, 0x34]) ∧
    (oneByteSession.withRom [0x12, 0x34]).machine =
      { oneByteSession.machine with rom := some [0x12, 0x34] } ∧
    (reset Console.stillHost).run (oneByteSession.withRom [0x12, 0x34]) =
      .error (.romTooLarge 2 (.int 1)) (oneByteSession.withRom [0x12, 0x34]) := by
  have hprogram : (Operation.load [0x12, 0x34] : Operation Unit).program? =
      some (.ok [0x12, 0x34]) := rfl
  obtain ⟨-, -, hmachine, hreset⟩ :=
    failed_load_keeps_state hprogram run_load_twoBytes (.inl rfl)
  exact ⟨run_load_twoBytes, hmachine, hreset⟩

/-- The machine has been created and given a program, and it can be reset. After a load that fails
it remembers another program, and cannot be reset any more. -/
theorem refused_program_replaces_loaded :
    Session.create Console.stillHost { loadAddress := .int 0xFFF } .keyed () = .ok narrowSession ∧
    (load Console.stillHost [0x12]).run narrowSession = .ok () oneByteSession ∧
    oneByteSession.machine.rom = some [0x12] ∧
    failure? ((reset Console.stillHost).run oneByteSession) = none ∧
    ∃ t, (load Console.stillHost [0x12, 0x34]).run oneByteSession =
        .error (.romTooLarge 2 (.int 1)) t ∧
      t.machine.rom = some [0x12, 0x34] ∧
      failure? ((reset Console.stillHost).run t) = some (.romTooLarge 2 (.int 1)) := by
  refine ⟨rfl, run_load_oneByte, ?_, run_reset_oneByte, _, run_load_twoBytes, rfl, ?_⟩
  · rw [machine_oneByteSession]
  · rw [run_reset_of_error initialState_twoBytes]
    rfl

end Session

end Chip8
