import Chip8.Machine.Session

/-!
# The operations of a machine

Loading, input, and running by the slot, by the frame or until a limit. The sound signal is compared
with what was last reported after every operation that may have changed it, and the host is told of
each change once. A fault ends the operation that meets it and every later one that would run the
machine; it is logged when it is met.
-/

namespace Chip8

namespace Session

variable {σ : Type}

/-! ## Sound and faults -/

/-- Tell the host of a change of the sound signal. -/
def reportSound (active : Bool) : Action σ Unit := do
  if active != (← getMachine).soundReported then
    update fun m => { m with soundReported := active }
    log .debug (if active then "Sound on" else "Sound off")
    tell (.sound active)

/-- Tell the host if the sound signal is not as it was last reported. -/
def syncSound : Action σ Unit := do
  reportSound (← getMachine).state.soundActive

/-- Fail with what the machine has recorded if it is halted. -/
def ensureRunning : Action σ Unit := do
  let state := (← getMachine).state
  if state.halted then
    match ← lift state.failure with
    | some failure => throw failure
    | none => pure ()

/-- Log and fail with what the machine has recorded, if anything. -/
def checkFault : Action σ Unit := do
  match ← lift (← getMachine).state.failure with
  | some failure =>
    log .error ("Halting: " ++ failure.message)
    throw failure
  | none => pure ()

/-! ## Programs -/

/-- Go back to power-on and load the program again, if there is one. -/
def reset (host : Host σ) : Action σ Unit := do
  let m ← getMachine
  let fresh ← lift (Machine.freshState m.config m.source)
  let state ← match m.rom with
    | some rom => lift (fresh.loadRomAt rom m.config.loadAddress)
    | none => pure fresh
  update fun m => { m with state, frameCount := 0 }
  let time ← now host
  update fun m => { m with clock := m.clock.reset time }
  reportSound false
  log .info "Machine reset"

/-- Remember a program and reset to it. -/
def load (host : Host σ) (rom : Rom) : Action σ Unit := do
  update fun m => { m with rom := some rom }
  reset host
  let address ← lift (← getMachine).config.loadAddress.hexNumber
  log .info (s!"Loaded {rom.length} bytes at 0x" ++ Text.hex 3 address)

/-- Load the program in a file, given the outcome of reading the file. -/
def loadFile (host : Host σ) (name : Text) (content : Except Failure Rom) : Action σ Unit := do
  log .info ("Reading ROM " ++ name)
  load host (← lift content)

/-! ## Input -/

/-- Replace the keypad. -/
def setKeypad (f : Keypad → Keypad) : Action σ Unit :=
  update fun m => { m with state := { m.state with keypad := f m.state.keypad } }

/--
The keypad with the keys that a host names down or up; true names all keys and false none. A message
shows what names no key, unless it is too long to be shown.
-/
def setNamed (key : HostValue) (down : Bool) (k : Keypad) : Except Failure Keypad :=
  match key with
  | .bool true => .ok (if down then .all else .none)
  | .bool false => .ok k
  | .int v =>
    if 0 ≤ v ∧ v < keyCount then
      let key := BitVec.ofInt 4 v
      .ok (if down then k.press key else k.release key)
    else .error (.showing .invalidKey key)
  | _ => .error (.showing .invalidKey key)

/-- Put the key down that a host names. -/
def press (key : HostValue) : Action σ Unit := do
  let keypad ← lift (setNamed key true (← getMachine).state.keypad)
  setKeypad fun _ => keypad

/-- Let the key up that a host names. -/
def release (key : HostValue) : Action σ Unit := do
  let keypad ← lift (setNamed key false (← getMachine).state.keypad)
  setKeypad fun _ => keypad

/-- The states of sixteen keys that a host hands over, each of which counts as true or false. -/
def keyStates (keys : HostValue) : Except Failure (List Bool) :=
  match keys.elements? with
  | none => .error .wrongType
  | some values =>
    match (HostValue.list values).arrayShape? with
    | none => .error .malformed
    | some extents =>
      if extents = [keyCount] then .ok (values.map (·.isTruthy))
      else .error (.wrongKeyCount values.length)

/-- Replace the states of all keys. -/
def setKeys (keys : HostValue) : Action σ Unit := do
  let states ← lift (keyStates keys)
  setKeypad fun _ => .ofList states

/-! ## Running -/

/-- Let the timers tick a number of times; a negative number counts as zero. -/
def tick (count : Int) : Action σ Unit := do
  update fun m => { m with state := m.state.ticks count.toNat }
  syncSound

/-- The timer ticks that have come due. -/
def dueTicks (host : Host σ) : Action σ Int := do
  let time ← now host
  let (due, clock) ← lift ((← getMachine).clock.due time)
  update fun m => { m with clock }
  return due

/-- Go through slots; fail if this met a fault. -/
def runSlots (n : Nat) : Action σ Unit := do
  ensureRunning
  let state ← lift ((← getMachine).state.runInt n)
  update fun m => { m with state }
  checkFault
  syncSound

/-- Go through one slot and the timer ticks that are due after it. -/
def cycle (host : Host σ) : Action σ Unit := do
  runSlots 1
  tick (← dueTicks host)

/-- Go through the slots of a frame and a number of timer ticks, and show the picture. -/
def runFrame (host : Host σ) (ticks : Int) : Action σ Unit := do
  runSlots (← getMachine).config.slotsPerFrame
  tick ticks
  update fun m => { m with frameCount := m.frameCount + 1 }
  present host

/-- The seconds from one frame to the next. -/
def framePeriod : Float := 1.0 / timerFrequency.toFloat

/-- A frame with the timer ticks that are due. -/
def clockedFrame (host : Host σ) : Action σ Unit := do
  runFrame host (← dueTicks host)

/-- Sleep until a time, unless it has passed. -/
def sleepUntil (host : Host σ) (time : Float) : Action σ Unit := do
  let delay := time - (← now host)
  if 0 < delay then sleep host delay

/-- A frame at the pace of the clock: run it, and sleep until the next is due at the given time. -/
def pacedFrame (host : Host σ) (next : Float) : Action σ Unit := do
  clockedFrame host
  sleepUntil host next

/-- What a host says before a frame: whether a run is to stop there. -/
abbrev StopRule (σ : Type) := Machine → σ → Bool × σ

/--
A run without a number of frames is one of so many frames, after which it would end with their
number. They take longer than anyone can wait for, so only its host or a fault ends such a run.
-/
def endless : Nat := 0x4000000000000000

/-- Ask the host whether a run is to stop. -/
def stops (stop : StopRule σ) : Action σ Bool :=
  modifyGet fun s =>
    let (answer, world) := stop s.machine s.world
    (answer, { s with world })

/-- A frame of a run, paced by the clock or not; a paced frame lasts until the given time. -/
def frameOfRun (host : Host σ) (next : Float) : Action σ Unit := do
  if (← getMachine).config.throttle then pacedFrame host next else runFrame host 1

/-- Run so many frames at most; the host may stop before each. The result counts from `done`. -/
def runFrames (host : Host σ) (stop : StopRule σ) : Nat → Nat → Float → Action σ Nat
  | 0, done, _ => pure done
  | n + 1, done, last => do
    if ← stops stop then return done
    let next := last + framePeriod
    frameOfRun host next
    runFrames host stop n (done + 1) next

/-- Let the timers run from now on, and give the time at which the run starts. -/
def startClock (host : Host σ) : Action σ Float := do
  let start ← now host
  let time ← now host
  update fun m => { m with clock := m.clock.reset time }
  return start

/-- Run a number of frames, or until the host stops the run, and give their number. -/
def runUntil (host : Host σ) (frames : Option Int) (stop : StopRule σ) : Action σ Nat := do
  let start ← startClock host
  runFrames host stop (match frames with | some n => n.toNat | none => endless) 0 start

/-- When a run ends: after a number of frames, or when the frame count reaches a number. -/
structure RunLimit where
  frames : Option Int
  stopAt : Option Int

/-- The run stops when the frame count has reached the number that the limit gives. -/
def RunLimit.stopRule (limit : RunLimit) : StopRule σ := fun m world =>
  (limit.stopAt.any fun n => n ≤ (m.frameCount : Int), world)

/-- Run frames up to a limit, and give their number. -/
def run (host : Host σ) (limit : RunLimit) : Action σ Nat :=
  runUntil host limit.frames limit.stopRule

end Session

end Chip8
