import Chip8.Proofs.Frame

/-!
# What a host does with a machine

An `Operation` is one of the things that a host does with a machine, and `after` is what a list of
them leaves behind. A failure ends an operation and not the list, so a property of sessions that
each of the operations keeps, whatever their outcome, is kept by all of them (`Keeps.after`). Those
that hand over keys only change the keypad (`Keeps.input`). `after_frameFault` has what is left of a
new machine by a program that meets a fault in its first frame.
-/

namespace Chip8

namespace Session

variable {σ : Type} {s : Session σ} {host : Host σ}

/-- Something that a host does with a machine. -/
inductive Operation (σ : Type)
  | load (rom : Rom)
  | loadFile (name : Text) (content : Except Failure Rom)
  | reset
  | press (key : HostValue)
  | release (key : HostValue)
  | setKeys (keys : HostValue)
  | cycle
  | tick (count : Int)
  | runFrame (ticks : Int)
  | run (frames : Option Int) (stop : StopRule σ)

/-- What an operation does; the number of frames of a run is of no interest here. -/
def Operation.action (host : Host σ) : Operation σ → Action σ Unit
  | .load rom => Session.load host rom
  | .loadFile name content => Session.loadFile host name content
  | .reset => Session.reset host
  | .press key => Session.press key
  | .release key => Session.release key
  | .setKeys keys => Session.setKeys keys
  | .cycle => Session.cycle host
  | .tick count => Session.tick count
  | .runFrame ticks => Session.runFrame host ticks
  | .run frames stop => do let _ ← runUntil host frames stop

/-- The session that operations leave behind; one that fails does not end the session. -/
def after (host : Host σ) (s : Session σ) (ops : List (Operation σ)) : Session σ :=
  ops.foldl (fun s op => left ((op.action host).run s)) s

theorem after_nil : after host s [] = s := rfl

theorem after_cons (op : Operation σ) (ops : List (Operation σ)) :
    after host s (op :: ops) = after host (left ((op.action host).run s)) ops := rfl

theorem after_concat (ops : List (Operation σ)) (op : Operation σ) :
    after host s (ops ++ [op]) = left ((op.action host).run (after host s ops)) := by
  simp [after]

/-- An operation that hands over keys. -/
def Operation.IsInput : Operation σ → Prop
  | .press _ => True
  | .release _ => True
  | .setKeys _ => True
  | _ => False

/-- Keys that are handed over only change the keypad, if they are not refused. -/
theorem Keeps.input {P : Session σ → Prop} (h : ∀ f, Keeps P (setKeypad f)) {op : Operation σ}
    (hop : op.IsInput) : Keeps P (op.action host) := by
  cases op with
  | press key | release key =>
    exact Keeps.bind (fun _ hs => hs) fun _ => Keeps.lift.bind fun _ => h _
  | setKeys keys => exact Keeps.lift.bind fun _ => h _
  | _ => exact hop.elim

/-- Operations one after the other keep what each of them keeps. -/
theorem Keeps.after {P : Session σ → Prop} {ops : List (Operation σ)}
    (h : ∀ op ∈ ops, Keeps P (op.action host)) (hs : P s) : P (after host s ops) := by
  induction ops generalizing s with
  | nil => exact hs
  | cons op ops ih =>
    exact ih (fun op' hop => h op' (List.mem_cons_of_mem op hop)) (h op List.mem_cons_self s hs)

/-! ## A fault in a frame -/

/-- A new machine with the usual settings. -/
def newSession : Session Unit := still {} none (.powerOn .keyed ⟨0, 0⟩ 0x200)

theorem create_newSession :
    Session.create Console.stillHost {} .keyed () = .ok newSession := rfl

/-- The new machine with the program that sounds the beeper and then meets a fault. -/
def loadedSession : Session Unit :=
  ((newSession.withRom beepRom).restarted Console.stillHost beforeBeep).noted .info
    (loadMessage beepRom programStart)

theorem run_load_newSession :
    (load Console.stillHost beepRom).run newSession = .ok () loadedSession := by
  refine run_load ?_ rfl
  rw [initialState_of_rom rfl rfl rfl rfl]
  exact loadRom_eq_ok_iff.2 ⟨by decide, rfl⟩

theorem machine_loadedSession : loadedSession.machine = beepSession.machine :=
  (machine_restarted (s := newSession.withRom beepRom) Console.stillHost beforeBeep).trans rfl

/-- The first frame of the program meets its fault when the beeper sounds already. -/
theorem after_frameFault :
    after Console.stillHost newSession [.load beepRom, .runFrame 1] =
      loadedSession.stopped afterBeep (.invalidOpcode 0 0x204) := by
  have hk : loadedSession.machine.config.slotsPerFrame = 11 := by
    rw [machine_loadedSession]
    exact (Config.slotsPerFrame_int rfl).trans (by decide)
  have hrun : loadedSession.machine.state.run loadedSession.machine.config.slotsPerFrame =
      afterBeep := by
    rw [hk, machine_loadedSession]
    exact run_beforeBeep 8
  have hs : loadedSession.machine.state.halted = false := by
    rw [machine_loadedSession]
    rfl
  have hfailure : afterBeep.failure = .ok (some (.invalidOpcode 0 0x204)) := rfl
  have hload : ((Operation.load beepRom).action Console.stillHost).run newSession =
      .ok () loadedSession := run_load_newSession
  have hframe : ((Operation.runFrame 1).action Console.stillHost).run loadedSession = _ :=
    run_runFrame_of_fault Console.stillHost 1 (by rw [hk]; decide) hs (by rw [hrun]; exact hfailure)
  rw [after_cons, hload, after_cons, left, hframe, hrun, after_nil, left]

end Session

end Chip8
