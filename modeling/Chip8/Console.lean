import Chip8.CommandLine.Options
import Chip8.Log.Logger
import Chip8.Machine.Operation
import Chip8.Picture.Snapshot

/-!
# The console program

The console program runs a program file for a number of frames without a window. It logs what it
does, prints the last picture or writes it to an image file if asked to, and ends with a status:
zero if all went well, and one if the machine could not be made, the file not loaded, or the program
ran into a fault. After a fault the last picture is still printed and written.

A run has three parts, `start`, `play` and `finish`. `Console.run` puts them together for a host
whose clock stands still, which makes no difference to a run that is not paced.
-/

namespace Chip8

/-- Something that the console program puts out. -/
inductive Output
  | log (level : LogLevel) (message : Text)
  | text (lines : Text)
  | snapshot (s : Snapshot)

namespace Output

/-- The text that an output puts on the console, if any. -/
def console? (logger : Logger) (elapsed : Float) : Output → Option Text
  | log level message => logger.line? elapsed level.name message
  | text lines => some lines
  | snapshot _ => none

/-- The image file that an output writes, if any. -/
def snapshot? : Output → Option Snapshot
  | snapshot s => some s
  | _ => none

end Output

namespace Failure

/-- The program reports the failure and ends with status one, instead of failing itself. -/
def isReported : Failure → Bool
  | outOfRange | outOfMemory | wrongType | notText | readOnlyImageFormat _ => false
  | _ => true

end Failure

namespace Console

variable {σ : Type}

/-- The logger of the console program, with colours on a terminal. -/
def logger (o : Options) (terminal : Bool) : Except Failure Logger :=
  match o.logLevel with
  | .value level => .ok ⟨Logger.defaultName, level, terminal, true⟩
  | .blank => .error .notText

/-- The log messages among what a machine told its host. -/
def logOf (effects : Array Effect) : List Output :=
  effects.toList.filterMap fun
    | .log level message => some (.log level message)
    | _ => none

/-- How a part of a run ends: with a session to go on with, with a status, or by failing. -/
inductive Outcome (σ : Type)
  | running (session : Session σ)
  | ended (status : Nat)
  | failed (failure : Failure)

/-- Report a failure, or fail. -/
def report (outputs : List Output) (failure : Failure) : List Output × Outcome σ :=
  if failure.isReported then (outputs ++ [.log .error failure.message], .ended 1)
  else (outputs, .failed failure)

/-- A session with a machine that has the settings that the options ask for. -/
def begin (host : Host σ) (world : σ) (o : Options) : Except Failure (Session σ) := do
  let _ ← logger o false
  Session.create host (← o.config) .keyed world

/-- Make a machine and load the file, given the outcome of reading it. -/
def start (host : Host σ) (world : σ) (o : Options) (content : Except Failure Rom) :
    List Output × Outcome σ :=
  match begin host world o with
  | .error failure => report [] failure
  | .ok session =>
    match (Session.loadFile host o.rom content).run session with
    | .ok _ session => (logOf session.effects, .running { session with effects := #[] })
    | .error failure session => report (logOf session.effects) failure

/-- The message after a run of frames. -/
def ranFrames (frames : Nat) : Output := .log .info s!"Ran {frames} frames"

/-- What is put out when the frames are through or have failed, and the status so far. -/
def played : Except Failure Nat → List Output × Except Failure Nat
  | .ok frames => ([ranFrames frames], .ok 0)
  | .error failure => ([], if failure.isFatal then .ok 1 else .error failure)

/-- Run the frames that the options ask for, and give their number. -/
def runFrames (host : Host σ) (o : Options) : Action σ Nat := do
  Session.run host ⟨some (← Session.lift o.frames.required), none⟩

/-- Run the frames; the result has the status so far. -/
def play (host : Host σ) (o : Options) (session : Session σ) :
    List Output × Except Failure Nat × Session σ :=
  match (runFrames host o).run session with
  | .ok frames session =>
    (logOf session.effects ++ (played (.ok frames)).1, (played (.ok frames)).2, session)
  | .error failure session =>
    (logOf session.effects ++ (played (.error failure)).1, (played (.error failure)).2, session)

/-- The snapshot of the last picture, given the outcome of opening its file. -/
def snapshot (o : Options) (bitmap : Bitmap) (file : Text) (opened : Except Failure Unit)
    (room : Image.Room) : Except Failure Snapshot := do
  let scheme ← o.scheme.required
  Snapshot.create bitmap file (.int (← o.scale.required)) scheme.name opened room

/--
Print and write the last picture as asked for, given the outcome of opening the file for it and the
room for its image.
-/
def finish (o : Options) (opened : Except Failure Unit) (status : Nat) (session : Session σ)
    (room : Image.Room := .unlimited) : List Output × Except Failure Nat :=
  let bitmap := Bitmap.ofDisplay session.machine.state.display
  let printed : List Output :=
    if o.printFrame then [.text (bitmap.toText Bitmap.defaultOn Bitmap.defaultOff)] else []
  match o.snapshotFile? with
  | none => (printed, .ok status)
  | some file =>
    match snapshot o bitmap file opened room with
    | .ok s => (printed ++ [.snapshot s, .log .info ("Saved frame to " ++ file)], .ok status)
    | .error failure => (printed, .error failure)

/-- A host whose clock stands still. -/
def stillHost : Host Unit where
  now := fun world => (0, world)
  sleep := fun _ world => world
  present := fun _ world => world

/-- A whole run: what is put out in order, and the status or the failure in the end. -/
def run (o : Options) (content : Except Failure Rom) (opened : Except Failure Unit)
    (room : Image.Room := .unlimited) : List Output × Except Failure Nat :=
  match start stillHost () o content with
  | (outputs, .ended status) => (outputs, .ok status)
  | (outputs, .failed failure) => (outputs, .error failure)
  | (outputs, .running session) =>
    match play stillHost o session with
    | (more, .error failure, _) => (outputs ++ more, .error failure)
    | (more, .ok status, session) =>
      let (last, result) := finish o opened status session room
      (outputs ++ more ++ last, result)

end Console

end Chip8
