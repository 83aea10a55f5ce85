import Chip8.Config
import Chip8.Log.Level
import Chip8.Rom
import Chip8.Step

/-!
# A machine and its host

A `Machine` owns a state of the virtual machine, its settings, the program it was given last and the
clock of its timers. It runs in a `Session` with a host, which has a clock that can be read and
waited on, and which is told of frames, sound changes and log messages. What the host was told is
kept in order in `effects`.

An `Action` is an operation of a session. It ends with a value or a failure, and in either case with
the session that it has left behind.
-/

namespace Chip8

/-- A machine that runs programs for a host. -/
structure Machine where
  config : Config
  source : RandomSource
  rom : Option Rom
  frameCount : Nat
  clock : TickClock
  soundReported : Bool
  state : State

/-- Something that a machine tells its host. -/
inductive Effect
  | sound (active : Bool)
  | frame (picture : Display)
  | sleep (seconds : Float)
  | log (level : LogLevel) (message : Text)

/-- How a host with states `σ` keeps time. -/
structure Host (σ : Type) where
  now : σ → Float × σ
  sleep : Float → σ → σ
  present : Display → σ → σ

/-- A machine, the state of its host and what the host was told. -/
structure Session (σ : Type) where
  machine : Machine
  world : σ
  effects : Array Effect

/-- An operation of a session. -/
abbrev Action (σ α : Type) := EStateM Failure (Session σ) α

namespace Session

variable {σ : Type}

/-! ## Elementary actions -/

/-- The machine as it is. -/
def getMachine : Action σ Machine := do
  return (← get).machine

/-- Change the machine. -/
def update (f : Machine → Machine) : Action σ Unit :=
  modify fun s => { s with machine := f s.machine }

/-- Tell the host something. -/
def tell (e : Effect) : Action σ Unit := modify fun s => { s with effects := s.effects.push e }

/-- Give the host a log message. -/
def log (level : LogLevel) (message : Text) : Action σ Unit := tell (.log level message)

/-- Read the host's clock. -/
def now (host : Host σ) : Action σ Float :=
  modifyGet fun s =>
    let (time, world) := host.now s.world
    (time, { s with world })

/-- Show the host the picture. -/
def present (host : Host σ) : Action σ Unit := do
  let picture := (← getMachine).state.display
  tell (.frame picture)
  modify fun s => { s with world := host.present picture s.world }

/-- Let the host's clock run on. -/
def sleep (host : Host σ) (seconds : Float) : Action σ Unit := do
  tell (.sleep seconds)
  modify fun s => { s with world := host.sleep seconds s.world }

/-- End with the failure of a computation, or go on with its value. -/
def lift {α : Type} : Except Failure α → Action σ α
  | .ok a => pure a
  | .error failure => throw failure

end Session

/-! ## Making a machine -/

/-- The state at power-on with a machine's settings. -/
def Machine.freshState (config : Config) (source : RandomSource) : Except Failure State :=
  match WordPair.ofSeed? config.seed with
  | some key => do State.create source key (← config.loadAddress.toScalar)
  | none => .error .outOfRange

/-- A machine with no program, whose timers start at a time. -/
def Machine.create (config : Config) (source : RandomSource) (now : Float) :
    Except Failure Machine := do
  let config ← config.validate
  let state ← freshState config source
  return {
    config, source, state
    rom := none
    frameCount := 0
    clock := .startAt timerFrequency.toFloat now
    soundReported := false }

/-- A session with a new machine. -/
def Session.create {σ : Type} (host : Host σ) (config : Config) (source : RandomSource)
    (world : σ) : Except Failure (Session σ) := do
  let (time, world) := host.now world
  let machine ← Machine.create config source time
  return { machine, world, effects := #[] }

end Chip8
