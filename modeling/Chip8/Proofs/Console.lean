import Chip8.Proofs.Arguments
import Chip8.Proofs.Unpaced

/-!
# What the console program prints

A run that logs nothing but critical messages and prints its last picture is followed from its
arguments to its last line. `start_loaded` makes the machine and loads the file, `play_ok` and
`play_fault` go through the frames, and nothing of what is logged meanwhile is written.
**`prints_last_picture`** puts the parts together: which status the program ends with and which
picture it prints follow from the states between its frames alone.
-/

namespace Chip8

/-! ## Pictures as text -/

/-- The lines of a picture from top to bottom, with a sign for lit and a point for dark pixels. -/
def Display.lines (d : Display) : List Text :=
  d.toRows.map fun row => row.map fun lit => .char (if lit then '#' else '.')

/-- The lines of a picture as one text. -/
def Display.text (d : Display) : Text := Text.join "\n" d.lines

theorem length_lines (d : Display) : d.lines.length = screenHeight := by
  simp [Display.lines, Display.toRows]

theorem length_of_mem_lines {d : Display} {line : Text} (h : line ∈ d.lines) :
    line.length = screenWidth := by
  simp only [Display.lines, Display.toRows, List.mem_map, exists_exists_and_eq_and] at h
  obtain ⟨y, -, rfl⟩ := h
  simp

theorem rows_ofDisplay (d : Display) : (Bitmap.ofDisplay d).rows = d.toRows := by
  have hheight : (Bitmap.ofDisplay d).height = screenHeight := rfl
  refine List.ext_getElem (by simp [Bitmap.length_rows, hheight, Display.toRows]) fun y hy hy' => ?_
  have hrow : y < screenHeight := by simpa [Bitmap.length_rows, hheight] using hy
  simp [Bitmap.rows, Bitmap.ofDisplay, Display.toRows, hrow]

theorem toLines_ofDisplay (d : Display) :
    (Bitmap.ofDisplay d).toLines Bitmap.defaultOn Bitmap.defaultOff = d.lines := by
  rw [Bitmap.toLines_default, rows_ofDisplay]
  rfl

theorem toText_ofDisplay (d : Display) :
    (Bitmap.ofDisplay d).toText Bitmap.defaultOn Bitmap.defaultOff = d.text := by
  rw [Bitmap.toText, toLines_ofDisplay]
  rfl

/-- The text of a picture has its lines, none of which is broken. -/
theorem lines_text (d : Display) : d.text.lines = d.lines := by
  have hheight : 0 < (Bitmap.ofDisplay d).height := by
    show 0 < screenHeight
    decide
  rw [← toText_ofDisplay, Bitmap.lines_toText hheight, toLines_ofDisplay]

/-! ## The room for a program -/

/-- The number of bytes from the usual load address to the end of memory. -/
def romCapacity : Nat := 3584

/-- At the usual address only the size of a program can be in its way. -/
theorem obstacle?_programStart (rom : Rom) :
    rom.obstacle? programStart =
      if romCapacity < rom.length then some (.romTooLarge rom.length (.int romCapacity))
      else none := by
  have hfont : touchesFont 0x200 rom.length = false := by
    simp [touchesFont, fontEnd]
  rw [Rom.obstacle?, if_neg (by decide)]
  show (if romCapacity < rom.length then _
    else if touchesFont 0x200 rom.length = true then _ else _) = _
  rw [hfont]
  rfl

namespace Console

/-! ## Texts -/

/-- The texts that outputs put on the console. -/
def texts (logger : Logger) (elapsed : Float) (outputs : List Output) : List Text :=
  outputs.filterMap (Output.console? logger elapsed)

variable {logger : Logger} {elapsed : Float}

theorem texts_append (outputs more : List Output) : texts logger elapsed (outputs ++ more) =
    texts logger elapsed outputs ++ texts logger elapsed more := List.filterMap_append

section

variable (hlogger : logger.threshold = .critical)

include hlogger

/-- A logger for critical messages writes no others. -/
theorem console?_log {level : LogLevel} (h : level ≠ .critical) (message : Text) :
    (Output.log level message).console? logger elapsed = none := by
  have hwrites : logger.writes level.name = false := by
    rw [Logger.writes, hlogger]
    cases level <;> first | rfl | exact absurd rfl h
  simp [Output.console?, Logger.line?, hwrites]

theorem texts_log {level : LogLevel} (h : level ≠ .critical) (message : Text) :
    texts logger elapsed [.log level message] = [] := by
  simp [texts, console?_log hlogger h]

theorem texts_logOf {σ : Type} {s : Session σ} (h : s.Mild) :
    texts logger elapsed (logOf s.effects) = [] := by
  refine List.filterMap_eq_nil_iff.2 fun output hmem => ?_
  obtain ⟨e, he, heq⟩ := List.mem_filterMap.1 hmem
  have hmild := h e (Array.mem_toList_iff.1 he)
  cases e with
  | log level message =>
    obtain rfl := Option.some.inj heq
    exact console?_log hlogger (by simpa [Effect.isMild] using hmild) message
  | _ => cases heq

end

/-! ## The start of a run -/

variable {rom : Text} {frames speed seed : Int}

/-- The settings of the machine of a run that prints its last picture. -/
def printConfig (speed seed : Int) : Config := { speed := .int speed, seed, throttle := false }

theorem config_printing (h : 0 < speed) :
    (Options.printing rom frames speed seed).config = .ok (printConfig speed seed) := by
  show (Config.validate { speed := .int speed, throttle := false } >>= _) = _
  rw [Config.validate_of_pos rfl h]
  rfl

theorem config_printing_of_nonpos (h : speed ≤ 0) :
    (Options.printing rom frames speed seed).config =
      .error (.showing .speedNotPositive (.int speed)) := by
  show (Config.validate { speed := .int speed, throttle := false } >>= _) = _
  rw [Config.validate_of_nonpos rfl h]
  rfl

/-- A speed that is not positive ends the run with status one. -/
theorem start_of_nonpos (hlogger : logger.threshold = .critical) (h : speed ≤ 0)
    (content : Except Failure Rom) :
    ∃ outputs, start stillHost () (Options.printing rom frames speed seed) content =
      (outputs, .ended 1) ∧ texts logger elapsed outputs = [] := by
  have hbegin : begin stillHost () (Options.printing rom frames speed seed) =
      .error (.showing .speedNotPositive (.int speed)) := by
    rw [begin, config_printing_of_nonpos h]
    rfl
  have hreported : (Failure.showing .speedNotPositive (.int speed)).isReported = true := by
    unfold Failure.showing
    split <;> rfl
  rw [start, hbegin]
  show ∃ outputs, report [] _ = (outputs, .ended 1) ∧ _
  rw [report, if_pos hreported]
  exact ⟨_, rfl, texts_log hlogger (by decide) _⟩

/-- The session of a run that prints its last picture, before its program is loaded. -/
def freshSession (speed seed : Int) : Session Unit :=
  .still (printConfig speed seed) none (.powerOn .keyed (.ofSeed seed) 0x200)

/-- The session that has read the file of the program. -/
def readSession (rom : Text) (speed seed : Int) : Session Unit :=
  (freshSession speed seed).noted .info ("Reading ROM " ++ rom)

theorem mild_readSession : (readSession rom speed seed).Mild :=
  (Session.mild_of_untold rfl).noted _ (by decide)

variable {content : Rom}

theorem run_loadFile_freshSession :
    (Session.loadFile stillHost rom (.ok content)).run (freshSession speed seed) =
      (Session.load stillHost content).run (readSession rom speed seed) :=
  Session.run_loadFile stillHost rom content

section

variable (hseed : -0x8000000000000000 ≤ seed ∧ seed < 0x8000000000000000)

include hseed

theorem begin_printing (h : 0 < speed) :
    begin stillHost () (Options.printing rom frames speed seed) =
      .ok (freshSession speed seed) := by
  have hvalid : (printConfig speed seed).validate = .ok (printConfig speed seed) :=
    Config.validate_of_pos rfl h
  have hkey : WordPair.ofSeed? seed = some (.ofSeed seed) := if_pos hseed
  have hfresh : Machine.freshState (printConfig speed seed) .keyed =
      .ok (.powerOn .keyed (.ofSeed seed) 0x200) := by
    rw [Machine.freshState, printConfig, hkey]
    rfl
  rw [begin, config_printing h]
  show Session.create stillHost (printConfig speed seed) .keyed () = _
  rw [Session.create]
  show (Machine.create (printConfig speed seed) .keyed 0 >>= _) = _
  rw [Machine.create, hvalid, ok_bind, hfresh]
  rfl

theorem initialState_readSession :
    Session.initialState ((readSession rom speed seed).withRom content).machine =
      (State.powerOn .keyed (.ofSeed seed) 0x200).loadRom content programStart :=
  Session.initialState_of_rom rfl (if_pos hseed) rfl rfl

/-- A program that is too large ends the run with status one. -/
theorem start_tooLarge (hlogger : logger.threshold = .critical) (h : 0 < speed)
    (hlength : romCapacity < content.length) :
    ∃ outputs, start stillHost () (Options.printing rom frames speed seed) (.ok content) =
      (outputs, .ended 1) ∧ texts logger elapsed outputs = [] := by
  have hload : Session.initialState ((readSession rom speed seed).withRom content).machine =
      .error (.romTooLarge content.length (.int romCapacity)) := by
    rw [initialState_readSession hseed, State.loadRom, obstacle?_programStart, if_pos hlength]
  have hrun := run_loadFile_freshSession.trans (Session.run_load_of_error hload)
  rw [start, begin_printing hseed h]
  dsimp only [Options.printing]
  rw [hrun]
  refine ⟨_, rfl, ?_⟩
  have hmild : ((readSession rom speed seed).withRom content).Mild := mild_readSession
  rw [texts_append, texts_logOf hlogger hmild, texts_log hlogger (by decide)]
  rfl

/-- A program that fits is loaded. -/
theorem start_loaded (hlogger : logger.threshold = .critical) (h : 0 < speed)
    (hlength : content.length ≤ romCapacity) :
    ∃ outputs session, start stillHost () (Options.printing rom frames speed seed) (.ok content) =
        (outputs, .running session) ∧
      texts logger elapsed outputs = [] ∧ session.Mild ∧
      session.machine.config = printConfig speed seed ∧
      session.machine.state = .withRom .keyed (.ofSeed seed) content programStart := by
  have hload : Session.initialState ((readSession rom speed seed).withRom content).machine =
      .ok (.withRom .keyed (.ofSeed seed) content programStart) := by
    rw [initialState_readSession hseed]
    refine loadRom_eq_ok_iff.2 ⟨?_, rfl⟩
    rw [obstacle?_programStart, if_neg (Nat.not_lt.2 hlength)]
  have hmild : ((readSession rom speed seed).withRom content).Mild := mild_readSession
  have hmachine := Session.machine_restarted (s := (readSession rom speed seed).withRom content)
    stillHost (.withRom .keyed (.ofSeed seed) content programStart)
  have hrun := run_loadFile_freshSession.trans (Session.run_load hload rfl)
  rw [start, begin_printing hseed h]
  dsimp only [Options.printing]
  rw [hrun]
  exact ⟨_, _, rfl, texts_logOf hlogger ((hmild.restarted _ _).noted _ (by decide)),
    Session.mild_of_untold rfl, congrArg Machine.config hmachine,
    congrArg Machine.state hmachine⟩

end

/-! ## The frames of a run -/

section

variable {session : Session Unit} {k : Nat} {states : Nat → State}

theorem run_runFrames_printing :
    (runFrames stillHost (Options.printing rom frames speed seed)).run session =
      (Session.runUntil stillHost (some frames) Session.neverStop).run session :=
  Session.run_bind_of_ok (Session.run_lift_ok frames)

theorem mild_of_runUntil (h : session.Mild) {t : Session Unit}
    (ht : Session.left ((Session.runUntil stillHost (some frames) Session.neverStop).run session) =
      t) : t.Mild :=
  ht ▸ Session.frameStable_mild.keeps_runUntil (some frames) Session.neverStop session h

/-- Frames without a fault are played to the end. -/
theorem play_ok (hlogger : logger.threshold = .critical) (hmild : session.Mild)
    (hstates : FrameStates k states) (hc : Session.Unpaced k session.machine.config)
    (hk : 0 < frames → k < slotLimit) (hs : session.machine.state = states 0)
    (hrun : ∀ i < frames.toNat, ((states i).run k).halted = false) :
    ∃ outputs t, play stillHost (Options.printing rom frames speed seed) session =
        (outputs, .ok 0, t) ∧
      texts logger elapsed outputs = [] ∧ t.machine.state = states frames.toNat := by
  obtain ⟨t, hplay, hstate⟩ := Session.run_runUntil stillHost hstates hc hk hs hrun
  have ht : t.Mild := mild_of_runUntil hmild (congrArg Session.left hplay)
  refine ⟨logOf t.effects ++ [ranFrames frames.toNat], t, ?_, ?_, hstate⟩
  · rw [play, run_runFrames_printing, hplay]
    rfl
  · rw [texts_append, texts_logOf hlogger ht]
    exact texts_log hlogger (by decide) _

/-- The first frame with a fault ends the play with status one. -/
theorem play_fault (hlogger : logger.threshold = .critical) (hmild : session.Mild)
    (hstates : FrameStates k states) (hc : Session.Unpaced k session.machine.config)
    (hk : k < slotLimit) {i : Nat} (hi : i < frames.toNat) (hs : session.machine.state = states 0)
    (hnot : (states 0).halted = false) (hrun : ∀ j < i, ((states j).run k).halted = false)
    (hhalt : ((states i).run k).halted = true) :
    ∃ outputs t, play stillHost (Options.printing rom frames speed seed) session =
        (outputs, .ok 1, t) ∧
      texts logger elapsed outputs = [] ∧ t.machine.state = (states i).run k := by
  obtain ⟨f, t, hplay, hfatal, hstate⟩ :=
    Session.run_runUntil_of_fault stillHost hstates hc hk hi hs hnot hrun hhalt
  have ht : t.Mild := mild_of_runUntil hmild (congrArg Session.left hplay)
  refine ⟨logOf t.effects, t, ?_, texts_logOf hlogger ht, hstate⟩
  rw [play, run_runFrames_printing, hplay]
  simp [played, hfatal]

/-- Frames whose slots a host cannot count are not played. -/
theorem play_limit (hlogger : logger.threshold = .critical) (hmild : session.Mild)
    (hc : Session.Unpaced k session.machine.config) (hk : slotLimit ≤ k) (hframes : 0 < frames)
    (hs : session.machine.state.halted = false) :
    ∃ outputs t, play stillHost (Options.printing rom frames speed seed) session =
      (outputs, .error .outOfRange, t) ∧ texts logger elapsed outputs = [] := by
  obtain ⟨t, hplay⟩ := Session.run_runUntil_of_limit stillHost hc hk hframes hs
  have ht : t.Mild := mild_of_runUntil hmild (congrArg Session.left hplay)
  refine ⟨logOf t.effects, t, ?_, texts_logOf hlogger ht⟩
  rw [play, run_runFrames_printing, hplay]
  simp [played, Failure.isFatal]

end

/-! ## Whole runs -/

/-- With these arguments and this content of its file, the program prints these lines and ends in
this way, whatever its console, the time and the room for images are. -/
def EndsWith (args : List Text) (content : Rom) (result : Except Failure Nat)
    (lines : List Text) : Prop :=
  ∃ o, Options.read args = .ok o ∧ ∀ terminal elapsed opened room, ∃ logger,
    Console.logger o terminal = .ok logger ∧ (run o (.ok content) opened room).2 = result ∧
      (texts logger elapsed (run o (.ok content) opened room).1).flatMap Text.lines = lines

/-- A run ends in a way if it does so with every logger for critical messages. -/
theorem endsWith_of_run {args : List Text} {result : Except Failure Nat} {lines : List Text}
    (hargs : Options.read args = .ok (Options.printing rom frames speed seed))
    (h : ∀ (logger : Logger) (elapsed : Float) (opened : Except Failure Unit) (room : Image.Room),
      logger.threshold = .critical →
        ∃ outputs, run (Options.printing rom frames speed seed) (.ok content) opened room =
          (outputs, result) ∧ (texts logger elapsed outputs).flatMap Text.lines = lines) :
    EndsWith args content result lines := by
  refine ⟨_, hargs, fun terminal elapsed opened room => ⟨_, rfl, ?_⟩⟩
  obtain ⟨outputs, hrun, hlines⟩ := h ⟨Logger.defaultName, .critical, terminal, true⟩ elapsed opened
    room rfl
  rw [hrun]
  exact ⟨rfl, hlines⟩

theorem lines_texts_text (d : Display) :
    (texts logger elapsed [.text d.text]).flatMap Text.lines = d.lines := by
  show d.text.lines ++ [] = d.lines
  rw [lines_text, List.append_nil]

theorem finish_printing (opened : Except Failure Unit) (status : Nat) (t : Session Unit)
    (room : Image.Room) : finish (Options.printing rom frames speed seed) opened status t room =
      ([.text t.machine.state.display.text], .ok status) := by
  rw [← toText_ofDisplay]
  rfl

theorem run_of_ended {outputs : List Output} {opened : Except Failure Unit} {room : Image.Room}
    {status : Nat}
    (h : start stillHost () (Options.printing rom frames speed seed) (.ok content) =
      (outputs, .ended status)) :
    run (Options.printing rom frames speed seed) (.ok content) opened room =
      (outputs, .ok status) := by
  rw [run, h]

theorem run_of_played {outputs more : List Output} {opened : Except Failure Unit}
    {room : Image.Room} {status : Nat} {session t : Session Unit}
    (hstart : start stillHost () (Options.printing rom frames speed seed) (.ok content) =
      (outputs, .running session))
    (hplay : play stillHost (Options.printing rom frames speed seed) session =
      (more, .ok status, t)) :
    run (Options.printing rom frames speed seed) (.ok content) opened room =
      (outputs ++ more ++ [.text t.machine.state.display.text], .ok status) := by
  simp only [run, hstart, hplay, finish_printing]

theorem run_of_failed {outputs more : List Output} {opened : Except Failure Unit}
    {room : Image.Room} {f : Failure} {session t : Session Unit}
    (hstart : start stillHost () (Options.printing rom frames speed seed) (.ok content) =
      (outputs, .running session))
    (hplay : play stillHost (Options.printing rom frames speed seed) session =
      (more, .error f, t)) :
    run (Options.printing rom frames speed seed) (.ok content) opened room =
      (outputs ++ more, .error f) := by
  simp only [run, hstart, hplay]

/-- A number of 64 bits has few digits. -/
theorem digitCount_seed (h : -0x8000000000000000 ≤ seed ∧ seed < 0x8000000000000000) :
    Text.digitCount seed ≤ Text.maxDigits := by
  have hsmall : (Nat.toDigits 10 seed.natAbs).length ≤ 19 :=
    (Nat.length_toDigits_le_iff (by decide) (by decide)).2 (by omega)
  exact hsmall.trans (by decide)

theorem unpaced_printConfig {k : Nat} (hk : (k : Int) = max 1 (speed / 60)) :
    Session.Unpaced k (printConfig speed seed) where
  throttle := rfl
  slots := by
    rw [Config.slotsPerFrame_int rfl]
    exact (congrArg Int.toNat hk).symm

theorem endsWith_refused (hargs : Options.read (Options.printArgs rom frames speed seed) =
      .ok (Options.printing rom frames speed seed))
    (hseed : -0x8000000000000000 ≤ seed ∧ seed < 0x8000000000000000)
    (h : speed ≤ 0 ∨ romCapacity < content.length) :
    EndsWith (Options.printArgs rom frames speed seed) content (.ok 1) [] := by
  refine endsWith_of_run hargs fun logger elapsed opened room hlogger => ?_
  by_cases hspeed : speed ≤ 0
  · obtain ⟨outputs, hstart, htexts⟩ := start_of_nonpos hlogger hspeed (.ok content)
    exact ⟨outputs, run_of_ended hstart, by rw [htexts]; rfl⟩
  · obtain ⟨outputs, hstart, htexts⟩ :=
      start_tooLarge hseed hlogger (Int.not_le.1 hspeed) (h.resolve_left hspeed)
    exact ⟨outputs, run_of_ended hstart, by rw [htexts]; rfl⟩

section

variable {k : Nat} {states : Nat → State}
  (hargs : Options.read (Options.printArgs rom frames speed seed) =
    .ok (Options.printing rom frames speed seed))
  (hseed : -0x8000000000000000 ≤ seed ∧ seed < 0x8000000000000000) (hspeed : 0 < speed)
  (hlength : content.length ≤ romCapacity) (hk : (k : Int) = max 1 (speed / 60))

include hargs hseed hspeed hlength hk

theorem endsWith_ok (hlimit : 0 < frames → k < slotLimit)
    (hfirst : states 0 = .withRom .keyed (.ofSeed seed) content programStart)
    (hstates : FrameStates k states)
    (hrun : ∀ i < frames.toNat, ((states i).run k).halted = false) :
    EndsWith (Options.printArgs rom frames speed seed) content (.ok 0)
      (states frames.toNat).display.lines := by
  refine endsWith_of_run hargs fun logger elapsed opened room hlogger => ?_
  obtain ⟨outputs, session, hstart, hnone, hmild, hconfig, hstate⟩ :=
    start_loaded hseed hlogger hspeed hlength
  obtain ⟨more, t, hplay, hmore, ht⟩ := play_ok hlogger hmild hstates
    (hconfig ▸ unpaced_printConfig hk) hlimit (hstate.trans hfirst.symm) hrun
  refine ⟨_, run_of_played hstart hplay, ?_⟩
  rw [texts_append, texts_append, hnone, hmore, ht]
  exact lines_texts_text _

theorem endsWith_fault (hlimit : k < slotLimit)
    (hfirst : states 0 = .withRom .keyed (.ofSeed seed) content programStart)
    (hstates : FrameStates k states) {i : Nat} (hi : i < frames.toNat)
    (hrun : ∀ j < i, ((states j).run k).halted = false)
    (hhalt : ((states i).run k).halted = true) :
    EndsWith (Options.printArgs rom frames speed seed) content (.ok 1)
      ((states i).run k).display.lines := by
  refine endsWith_of_run hargs fun logger elapsed opened room hlogger => ?_
  obtain ⟨outputs, session, hstart, hnone, hmild, hconfig, hstate⟩ :=
    start_loaded hseed hlogger hspeed hlength
  have hnot : (states 0).halted = false := by rw [hfirst]; rfl
  obtain ⟨more, t, hplay, hmore, ht⟩ := play_fault hlogger hmild hstates
    (hconfig ▸ unpaced_printConfig hk) hlimit hi (hstate.trans hfirst.symm) hnot hrun hhalt
  refine ⟨_, run_of_played hstart hplay, ?_⟩
  rw [texts_append, texts_append, hnone, hmore, ht]
  exact lines_texts_text _

/-- A host that cannot count the slots of a frame fails, and prints nothing. -/
theorem endsWith_limit (hlimit : slotLimit ≤ k) (hframes : 0 < frames) :
    EndsWith (Options.printArgs rom frames speed seed) content (.error .outOfRange) [] := by
  refine endsWith_of_run hargs fun logger elapsed opened room hlogger => ?_
  obtain ⟨outputs, session, hstart, hnone, hmild, hconfig, hstate⟩ :=
    start_loaded hseed hlogger hspeed hlength
  have hnot : session.machine.state.halted = false := by rw [hstate]; rfl
  obtain ⟨more, t, hplay, hmore⟩ := play_limit hlogger hmild
    (hconfig ▸ unpaced_printConfig hk) hlimit hframes hnot
  refine ⟨_, run_of_failed hstart hplay, ?_⟩
  rw [texts_append, hnone, hmore]
  rfl

end

/-- **What the program prints.** Take any file and any numbers of frames and of instructions for a
second, and any seed of 64 bits. Numbers that are written with too many digits are refused as
arguments. With others, a speed that is not positive or a file that is too large ends the program
with status one, and nothing is printed. Otherwise the frames are run one after the other, and the
last picture is printed: that behind the last frame with status zero, or that of the first fault
with status one. Frames with more slots than a host can count are refused, and then nothing is
printed either. -/
theorem prints_last_picture {rom : Text} {frames speed seed : Int}
    (hrom : Options.grammar.token rom = .ok (.plain rom))
    (hseed : -0x8000000000000000 ≤ seed ∧ seed < 0x8000000000000000) (content : Rom) :
    (Text.maxDigits < Text.digitCount frames ∨ Text.maxDigits < Text.digitCount speed →
      ∃ message, Options.read (Options.printArgs rom frames speed seed) =
        .error (.usage message)) ∧
    (Text.digitCount frames ≤ Text.maxDigits → Text.digitCount speed ≤ Text.maxDigits →
      (speed ≤ 0 ∨ romCapacity < content.length →
        EndsWith (Options.printArgs rom frames speed seed) content (.ok 1) []) ∧
      (0 < speed → content.length ≤ romCapacity → (0 < frames → speed / 60 < slotLimit) →
        ∀ (k : Nat) (states : Nat → State), (k : Int) = max 1 (speed / 60) →
          states 0 = .withRom .keyed (.ofSeed seed) content programStart → FrameStates k states →
          ((∀ i < frames.toNat, ((states i).run k).halted = false) →
            EndsWith (Options.printArgs rom frames speed seed) content (.ok 0)
              (states frames.toNat).display.lines) ∧
          ∀ i < frames.toNat, (∀ j < i, ((states j).run k).halted = false) →
            ((states i).run k).halted = true →
            EndsWith (Options.printArgs rom frames speed seed) content (.ok 1)
              ((states i).run k).display.lines) ∧
      (0 < speed → content.length ≤ romCapacity → 0 < frames → slotLimit ≤ speed / 60 →
        EndsWith (Options.printArgs rom frames speed seed) content (.error .outOfRange) [])) := by
  refine ⟨Options.read_printArgs_of_long hrom, fun hframes hspeed => ?_⟩
  have hargs := Options.read_printArgs hrom hframes hspeed (digitCount_seed hseed)
  have hcount {k : Nat} (hk : (k : Int) = max 1 (speed / 60)) (h : speed / 60 < slotLimit) :
      k < slotLimit := by
    simp only [slotLimit] at h ⊢
    omega
  refine ⟨endsWith_refused hargs hseed, ?_, ?_⟩
  · intro hpos hlength hlimit k states hk hfirst hstates
    refine ⟨endsWith_ok hargs hseed hpos hlength hk (fun h => hcount hk (hlimit h)) hfirst hstates,
      fun i hi hrun hhalt => ?_⟩
    have hsome : 0 < frames := Int.pos_iff_toNat_pos.2 (Nat.zero_lt_of_lt hi)
    exact endsWith_fault hargs hseed hpos hlength hk (hcount hk (hlimit hsome)) hfirst hstates hi
      hrun hhalt
  · intro hpos hlength hsome hlimit
    have hk : ((max 1 (speed / 60)).toNat : Int) = max 1 (speed / 60) := by omega
    refine endsWith_limit hargs hseed hpos hlength hk ?_ hsome
    simp only [slotLimit] at hlimit ⊢
    omega

/-- The program that sounds the beeper meets its fault in the first of seven frames, and its picture
is printed all the same; if no frame is asked for, there is no fault. -/
theorem beepRom_prints :
    Options.grammar.token "beep.ch8" = .ok (.plain "beep.ch8") ∧
    EndsWith (Options.printArgs "beep.ch8" 7 700 0) Session.beepRom (.ok 1) Display.blank.lines ∧
    EndsWith (Options.printArgs "beep.ch8" (-7) 700 0) Session.beepRom (.ok 0)
      Display.blank.lines := by
  have hrom : Options.grammar.token "beep.ch8" = .ok (.plain "beep.ch8") := rfl
  have hframes : Text.digitCount 7 ≤ Text.maxDigits := digitCount_seed (by decide)
  have hnegative : Text.digitCount (-7) ≤ Text.maxDigits := digitCount_seed (by decide)
  have hspeed : Text.digitCount 700 ≤ Text.maxDigits := digitCount_seed (by decide)
  have hseed : -0x8000000000000000 ≤ (0 : Int) ∧ (0 : Int) < 0x8000000000000000 := by decide
  have hstates := frameStates_beforeFrame 11 Session.beforeBeep
  have hhalt : (Session.beforeBeep.beforeFrame 11 0).run 11 = Session.afterBeep :=
    Session.run_beforeBeep 8
  refine ⟨hrom, ?_, ?_⟩
  · obtain ⟨-, hprints⟩ := prints_last_picture hrom hseed Session.beepRom
    obtain ⟨-, hruns, -⟩ := hprints hframes hspeed
    obtain ⟨-, hfault⟩ := hruns (by decide) (by decide) (by decide) 11 _ (by decide) rfl hstates
    have hends := hfault 0 (by decide) (by simp) (by rw [hhalt]; rfl)
    rw [hhalt] at hends
    exact hends
  · obtain ⟨-, hprints⟩ := prints_last_picture hrom hseed Session.beepRom
    obtain ⟨-, hruns, -⟩ := hprints hnegative hspeed
    obtain ⟨hok, -⟩ := hruns (by decide) (by decide) (by decide) 11 _ (by decide) rfl hstates
    exact hok (by simp)

/-- The arguments and the file settle how a run ends and what it prints. -/
theorem EndsWith.unique {args : List Text} {content : Rom} {result result' : Except Failure Nat}
    {lines lines' : List Text} (h : EndsWith args content result lines)
    (h' : EndsWith args content result' lines') : result = result' ∧ lines = lines' := by
  obtain ⟨o, hread, hends⟩ := h
  obtain ⟨o', hread', hends'⟩ := h'
  obtain rfl : o = o' := Except.ok.inj (hread.symm.trans hread')
  obtain ⟨logger, hlogger, hresult, hlines⟩ := hends false 0 (.ok ()) .unlimited
  obtain ⟨logger', hlogger', hresult', hlines'⟩ := hends' false 0 (.ok ()) .unlimited
  obtain rfl : logger = logger' := Except.ok.inj (hlogger.symm.trans hlogger')
  exact ⟨hresult.symm.trans hresult', hlines.symm.trans hlines'⟩

/-- A program that jumps to itself for ever. -/
def loopRom : Rom := [0x12, 0x00]

/-- So many instructions for a second that a frame has one slot more than a host can count: the
run ends with no status, and nothing is printed, although its settings and its file are in order. -/
theorem fast_frame_refused :
    loopRom.length ≤ romCapacity ∧
    EndsWith (Options.printArgs "loop.ch8" 1 128849018880 0) loopRom (.error .outOfRange) [] ∧
    ∀ status lines,
      ¬EndsWith (Options.printArgs "loop.ch8" 1 128849018880 0) loopRom (.ok status) lines := by
  have hseed : -0x8000000000000000 ≤ (0 : Int) ∧ (0 : Int) < 0x8000000000000000 := by decide
  have hargs : Options.read (Options.printArgs "loop.ch8" 1 128849018880 0) =
      .ok (Options.printing "loop.ch8" 1 128849018880 0) :=
    Options.read_printArgs rfl (digitCount_seed (by decide)) (digitCount_seed (by decide))
      (digitCount_seed hseed)
  have hends : EndsWith (Options.printArgs "loop.ch8" 1 128849018880 0) loopRom
      (.error .outOfRange) [] :=
    endsWith_limit hargs hseed (by decide) (by decide) (by decide) (Nat.le_refl slotLimit)
      (by decide)
  refine ⟨by decide, hends, fun status lines h => ?_⟩
  cases (hends.unique h).1

end Console

end Chip8
