import Chip8.CommandLine.Usage
import Chip8.Console
import Chip8.Picture.Encoding

/-!
# The program

The outer layer of the console program: it reads the file, gives the machine the time, and puts out
what the console program says is to be put out. A run is taken frame by frame. Between frames the
clock is read, so that a paced run keeps to it and every log line has its own time.
-/

namespace Chip8.Program

/-- A host that is told the time before each action. -/
def host : Host Float where
  now := fun time => (time, time)
  sleep := fun seconds time => time + seconds
  present := fun _ time => time

/-- Seconds on a clock that only goes forward. -/
def clock : IO Float := return (← IO.monoNanosNow).toFloat / 1.0e9

/-- Wait until the clock shows the given time, unless it has passed. -/
def waitUntil (time : Float) : IO Unit := do
  let ahead := time - (← clock)
  if 0 < ahead then IO.sleep (ahead * 1000.0).ceil.toUInt32

/-- A text as the system takes it, in which a replacement stands for every half. -/
def printed (t : Text) : String :=
  String.ofList <| t.map fun
    | .char c => c
    | .half _ => Char.ofNat 0xFFFD

/-- The code of the system's refusal to read a directory as a file. -/
def directoryCode : UInt32 := 21

/-- The codes of the system's refusal of a long name. -/
def longNameCodes : List UInt32 := [36, -36]

/-- The content of a file. -/
def readFile (name : Text) : IO (Except Failure Rom) := do
  match ← (IO.FS.readBinFile (printed name)).toBaseIO with
  | .ok bytes => return .ok (bytes.toList.map UInt8.toBitVec)
  | .error (.noFileOrDirectory ..) => return .error (.missingFile name)
  | .error (.inappropriateType _ code _) =>
    return .error (if code = directoryCode then .directoryAsFile name else .fileAsDirectory name)
  | .error e =>
    if let .invalidArgument _ code _ := e then
      if longNameCodes.contains code then return .error (.nameTooLong name)
    throw e

/-- The outcome of opening a file to write to it: it is there, or else its directory is. -/
def openFile (name : Text) : IO (Except Failure Unit) := do
  match ← readFile name with
  | .ok _ => return .ok ()
  | .error (.missingFile _) =>
    let directory := FileName.directory name
    if directory.isEmpty then return .ok ()
    match ← readFile directory with
    | .error (.directoryAsFile _) => return .ok ()
    | .error (.missingFile _) => return .error (.missingFile name)
    | _ => return .error (.fileAsDirectory name)
  | .error failure => return .error failure

/-- A run with its options, and the time at which it was started. -/
structure Run where
  options : Options
  logger : Logger
  started : Float

namespace Run

/-- Put things out. -/
def emit (r : Run) (outputs : List Output) : IO Unit := do
  let stdout ← IO.getStdout
  let elapsed := (← clock) - r.started
  for output in outputs do
    if let some line := output.console? r.logger elapsed then
      stdout.putStrLn (printed line)
      stdout.flush
    if let some snapshot := output.snapshot? then
      match snapshot.content with
      | .ok content => IO.FS.writeBinFile (printed snapshot.file) content
      | .error failure => throw (IO.userError (printed failure.message))

/--
Carry out an action at the present time, and put out what it told the host. The system's clock then
catches up with the host's, which is ahead if the action has slept.
-/
def act {α : Type} (r : Run) (action : Action Float α) (session : Session Float) :
    IO (Except Failure α × Session Float) := do
  let session := { session with world := ← clock, effects := #[] }
  let (result, session) : Except Failure α × Session Float := match action.run session with
    | .ok a session => (.ok a, session)
    | .error failure session => (.error failure, session)
  r.emit (Console.logOf session.effects)
  waitUntil session.world
  return (result, session)

/-- The frames of a run, each of which is a run of one frame; the result counts from `done`. -/
def frames (r : Run) (stop : Session.StopRule Float) :
    Nat → Nat → Float → Session Float → IO (Except Failure Nat × Session Float)
  | 0, done, _, session => return (.ok done, session)
  | n + 1, done, last, session => do
    match ← r.act (Session.runFrames host stop 1 done last) session with
    | (.ok reached, session) =>
      if reached = done then return (.ok done, session)
      r.frames stop n reached (last + Session.framePeriod) session
    | failed => return failed

/-- Report a failure that ends the program. -/
def fail (failure : Failure) : IO UInt32 := do
  IO.eprintln ("error: " ++ printed failure.message)
  return 1

/-- Print and write the last picture, given the status so far. -/
def finish (r : Run) (status : Nat) (session : Session Float) : IO UInt32 := do
  let opened ← openFile (r.options.snapshotFile?.getD [])
  let (outputs, result) := Console.finish r.options opened status session
  r.emit outputs
  match result with
  | .error failure => fail failure
  | .ok status => return status.toUInt32

/-- Run so many frames, and print and write the last picture. -/
def play (r : Run) (count : Int) (session : Session Float) : IO UInt32 := do
  let limit : Session.RunLimit := ⟨some count, none⟩
  let (result, session) ← match ← r.act (Session.startClock host) session with
    | (.ok start, session) => r.frames limit.stopRule count.toNat 0 start session
    | (.error failure, session) => pure (.error failure, session)
  let (outputs, result) := Console.played result
  r.emit outputs
  match result with
  | .error failure => fail failure
  | .ok status => r.finish status session

end Run

/-- The console program with the given options and the logger that they ask for. -/
def run (options : Options) (logger : Logger) : IO UInt32 := do
  let r : Run := ⟨options, logger, ← clock⟩
  let content ← readFile options.rom
  let (outputs, outcome) := Console.start host (← clock) options content
  r.emit outputs
  match outcome with
  | .running session =>
    match options.frames.required with
    | .ok frames => r.play frames session
    | .error failure => Run.fail failure
  | .ended status => return status.toUInt32
  | .failed failure => Run.fail failure

/-- Read the command line and do what it asks for. -/
def start (args : List String) : IO UInt32 := do
  match Options.read (args.map Text.ofString) with
  | .error .help =>
    Options.help.forM IO.println
    return 0
  | .error (.usage message) =>
    Options.usage.forM IO.eprintln
    IO.eprintln (printed (Options.grammar.errorLine message))
    return 2
  | .ok options =>
    match Console.logger options (← (← IO.getStdout).isTty) with
    | .ok logger => run options logger
    | .error failure => Run.fail failure

end Chip8.Program

/-- The console program. What the system refuses ends it with status one. -/
def main (args : List String) : IO UInt32 := do
  try Chip8.Program.start args
  catch e =>
    IO.eprintln s!"error: {e}"
    return 1
