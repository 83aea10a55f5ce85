import Chip8.Proofs.Composition
import Chip8.Proofs.Renewal
import Chip8.Proofs.Sound

/-!
# A fault is permanent

A halted machine goes through no slot: cycles, frames and runs that get as far as a frame are
refused with the failure that the machine has recorded. What is left are the timers, which may still
tick, and the keypad.

**`fault_is_permanent`** says that the failure of the operation that meets a fault is the one that
the machine records, and that nothing but a reset or a load makes the machine forget it: whatever
else a host does, it is shown no picture, the state stays as it is but for the keypad and the
timers, and all that would run the machine fails with that failure.
-/

namespace Chip8

namespace State

variable {s t : State}

/-- The failure with which a halted machine refuses to run. -/
def refusal? (s : State) : Option Failure :=
  match s.failure with
  | .ok failure => failure
  | .error failure => some failure

theorem refusal?_of_failure {f : Failure} (h : s.failure = .ok (some f)) : s.refusal? = some f := by
  rw [refusal?, h]

theorem refusal?_congr (h : t.status = s.status) : t.refusal? = s.refusal? := by
  rw [refusal?, failure, h]
  rfl

theorem exists_refusal (h : s.halted = true) : ∃ f, s.refusal? = some f := by
  rcases failure_of_halted h with ⟨f, hf⟩ | ⟨f, hf⟩
  · exact ⟨f, by rw [refusal?, hf]⟩
  · exact ⟨f, refusal?_of_failure hf⟩

theorem agreeBut_ticks (s : State) (n : Nat) : AgreeBut [.delay, .sound] s (s.ticks n) := by
  induction n generalizing s with
  | zero => exact .refl _ s
  | succ n ih => exact (agreeBut_tick s).trans (ih s.tick)

theorem agreeBut_keypad (s : State) (keypad : Keypad) :
    AgreeBut [.keypad] s { s with keypad } := by
  intro p hp
  cases p <;> simp_all [Part.Kept]

end State

namespace Session

variable {σ α β : Type} {s t : Session σ} {host : Host σ} {f : Failure}

/-! ## Refusals -/

section Refusal

variable (hs : s.machine.state.halted = true) (hf : s.machine.state.refusal? = some f)

include hs hf

theorem run_ensureRunning_of_refusal : ensureRunning.run s = .error f s := by
  rw [State.refusal?] at hf
  cases h : s.machine.state.failure with
  | ok failure =>
    rw [h] at hf
    simp [ensureRunning, hs, h, show failure = some f from hf]
  | error g =>
    rw [h] at hf
    obtain rfl := Option.some.inj hf
    simp [ensureRunning, hs, h]

theorem run_runSlots_of_refusal (n : Nat) : (runSlots n).run s = .error f s :=
  run_bind_of_error (run_ensureRunning_of_refusal hs hf)

theorem run_cycle_of_refusal : (cycle host).run s = .error f s :=
  run_bind_of_error (run_runSlots_of_refusal hs hf 1)

theorem run_runFrame_of_refusal (ticks : Int) : (runFrame host ticks).run s = .error f s := by
  rw [runFrame, run_bind_of_ok run_getMachine]
  exact run_bind_of_error (run_runSlots_of_refusal hs hf _)

end Refusal

/-- The timer ticks of a frame, which are those that are due if the machine is paced. -/
def frameTicks (host : Host σ) : Action σ Int := do
  if (← getMachine).config.throttle then dueTicks host else return 1

/-- What a run does before its first frame. It ends with the timer ticks of this frame, or with
nothing if its host stops the run there. -/
def approach (host : Host σ) (stop : StopRule σ) : Action σ (Option Int) := do
  let _ ← startClock host
  if ← stops stop then return none
  return some (← frameTicks host)

/-- A run gets as far as its first frame: it is asked for one, and nothing ends it before. -/
def ReachesFrame (host : Host σ) (frames : Option Int) (stop : StopRule σ) (s : Session σ) :
    Prop :=
  frames.all (0 < ·) = true ∧ ∃ ticks t, (approach host stop).run s = .ok (some ticks) t

theorem RunSteps.approach {stop : StopRule σ} {C : ∀ {α : Type}, Action σ α → Prop}
    (h : RunSteps host stop C) : C (approach host stop) := by
  have hticks : C (frameTicks host) := by
    refine h.bind h.look fun m => ?_
    split
    · exact h.due
    · exact h.pure 1
  refine h.bind h.start fun _ => h.bind h.stops fun answer => ?_
  split
  · exact h.pure none
  · exact h.bind hticks fun ticks => h.pure (some ticks)

section Approach

variable {stop : StopRule σ} {ticks : Int} {u : Session σ}

theorem run_frameOfRun_of_ticks (h : (frameTicks host).run s = .ok ticks t)
    (hframe : (runFrame host ticks).run t = .error f u) (next : Float) :
    (frameOfRun host next).run s = .error f u := by
  rw [frameTicks, run_bind_of_ok run_getMachine] at h
  rw [frameOfRun, run_bind_of_ok run_getMachine]
  cases hc : s.machine.config.throttle with
  | false =>
    rw [hc] at h
    cases h
    exact hframe
  | true =>
    rw [hc, if_pos rfl] at h
    have hclocked : (clockedFrame host).run s = .error f u := by
      rw [clockedFrame, run_bind_of_ok h, hframe]
    exact run_bind_of_error hclocked

/-- A run that gets as far as its first frame fails if this fails. -/
theorem run_runUntil_of_approach {frames : Option Int} (hpos : frames.all (0 < ·) = true)
    (h : (approach host stop).run s = .ok (some ticks) t)
    (hframe : (runFrame host ticks).run t = .error f u) :
    (runUntil host frames stop).run s = .error f u := by
  suffices hframes : ∀ n : Nat, 0 < n →
      (do let start ← startClock host; runFrames host stop n 0 start : Action σ Nat).run s =
        .error f u by
    cases frames with
    | none => exact hframes endless (by decide)
    | some n => exact hframes n.toNat (Int.pos_iff_toNat_pos.1 (of_decide_eq_true hpos))
  intro n hn
  obtain ⟨n, rfl⟩ := Nat.exists_eq_succ_of_ne_zero (Nat.ne_of_gt hn)
  obtain ⟨start, v, hstart, hrest⟩ := run_bind_eq_ok h
  obtain ⟨answer, w, hanswer, hrest⟩ := run_bind_eq_ok hrest
  rw [run_bind_of_ok hstart, runFrames, run_bind_of_ok hanswer]
  cases answer with
  | true => cases hrest
  | false =>
    obtain ⟨due, x, hdue, hticks⟩ := run_bind_eq_ok hrest
    cases hticks
    exact run_bind_of_error (run_frameOfRun_of_ticks hdue hframe _)

end Approach

/-! ## What a halted machine keeps -/

/-- Nothing is different but the keypad and the timers, and no picture was shown. -/
structure Inert (s t : Session σ) : Prop where
  state : AgreeBut [.keypad, .delay, .sound] s.machine.state t.machine.state
  frameCount : t.machine.frameCount = s.machine.frameCount
  pictures : t.pictures = s.pictures

theorem Inert.refl (s : Session σ) : Inert s s := ⟨.refl _ _, rfl, rfl⟩

theorem Inert.status (h : Inert s t) : t.machine.state.status = s.machine.state.status :=
  h.state .status (by decide)

theorem Inert.halted (h : Inert s t) (hs : s.machine.state.halted = true) :
    t.machine.state.halted = true := by
  rwa [State.halted, h.status]

/-- An operation that does not start the machine over. -/
def Operation.IsPlay : Operation σ → Prop
  | .load _ => False
  | .loadFile _ _ => False
  | .reset => False
  | _ => True

/-- An operation that would run the machine in a session. -/
def Operation.Executes (host : Host σ) (s : Session σ) : Operation σ → Prop
  | .cycle => True
  | .runFrame _ => True
  | .run frames stop => ReachesFrame host frames stop s
  | _ => False

theorem keeps_inert_tick (count : Int) : Keeps (Inert s) (tick count) := by
  intro t ht
  rw [run_tick, left]
  refine ⟨?_, ?_, ?_⟩
  · rw [machine_synced]
    exact ht.state.trans ((State.agreeBut_ticks _ _).mono (by decide))
  · rw [machine_synced]
    exact ht.frameCount
  · rw [synced, pictures_heard]
    exact ht.pictures

theorem keeps_inert_setKeypad (k : Keypad → Keypad) : Keeps (Inert s) (setKeypad k) := by
  intro t ht
  exact ⟨ht.state.trans ((State.agreeBut_keypad _ _).mono (by decide)), ht.frameCount, ht.pictures⟩

section Halted

variable (hs : s.machine.state.halted = true)

include hs

theorem keeps_inert_cycle : Keeps (Inert s) (cycle host) := by
  intro t ht
  obtain ⟨f, hf⟩ := State.exists_refusal (ht.halted hs)
  rwa [run_cycle_of_refusal (ht.halted hs) hf]

theorem keeps_inert_runFrame (ticks : Int) : Keeps (Inert s) (runFrame host ticks) := by
  intro t ht
  obtain ⟨f, hf⟩ := State.exists_refusal (ht.halted hs)
  rwa [run_runFrame_of_refusal (ht.halted hs) hf]

theorem runSteps_inert (stop : StopRule σ) : RunSteps host stop fun a => Keeps (Inert s) a where
  pure := .pure
  bind := .bind
  look _ ht := ht
  start _ ht := ⟨ht.state, ht.frameCount, ht.pictures⟩
  stops _ ht := ⟨ht.state, ht.frameCount, ht.pictures⟩
  due := .dueTicks (fun _ ht => ⟨ht.state, ht.frameCount, ht.pictures⟩)
    fun _ _ ht => ⟨ht.state, ht.frameCount, ht.pictures⟩
  frame := keeps_inert_runFrame hs
  pause _ := Keeps.bind (fun _ ht => ⟨ht.state, ht.frameCount, ht.pictures⟩) fun _ =>
    .ite (fun _ ht => ⟨ht.state, ht.frameCount, (pictures_push rfl).trans ht.pictures⟩) (.pure ())

/-- Whatever a host does with a halted machine but start it over keeps it as it is. -/
theorem keeps_inert {op : Operation σ} (hop : op.IsPlay) : Keeps (Inert s) (op.action host) := by
  cases op with
  | load rom | loadFile name content | reset => exact hop.elim
  | press key | release key | setKeys keys => exact Keeps.input keeps_inert_setKeypad trivial
  | cycle => exact keeps_inert_cycle hs
  | tick count => exact keeps_inert_tick count
  | runFrame ticks => exact keeps_inert_runFrame hs ticks
  | run frames stop => exact ((runSteps_inert hs stop).runUntil frames).bind fun _ => .pure ()

end Halted

/-! ## The failure of the operation that meets a fault -/

/-- An action that halts the machine fails with what the machine has recorded. -/
def RaisesFault (a : Action σ α) : Prop :=
  ∀ s, s.machine.state.halted = false → (left (a.run s)).machine.state.halted = true →
    failure? (a.run s) = (left (a.run s)).machine.state.refusal?

/-- An action that halts no machine. -/
abbrev HaltsNone (a : Action σ α) : Prop :=
  Keeps (fun s : Session σ => s.machine.state.halted = false) a

theorem HaltsNone.raisesFault {a : Action σ α} (h : HaltsNone a) : RaisesFault a := by
  intro s hs hhalt
  rw [h s hs] at hhalt
  cases hhalt

theorem RaisesFault.bind {a : Action σ α} {k : α → Action σ β} (ha : RaisesFault a)
    (hk : ∀ x, RaisesFault (k x)) : RaisesFault (a >>= k) := by
  intro s hs hhalt
  have hraises := ha s hs
  cases h : a.run s with
  | error f t =>
    rw [run_bind_of_error h] at hhalt ⊢
    rw [h] at hraises
    exact hraises hhalt
  | ok x t =>
    rw [run_bind_of_ok h] at hhalt ⊢
    rw [h] at hraises
    -- The first action has not failed, so it has not halted the machine.
    cases ht : t.machine.state.halted with
    | false => exact hk x t ht hhalt
    | true =>
      obtain ⟨f, hf⟩ := State.exists_refusal ht
      cases (hraises ht).trans hf

theorem raisesFault_runSlots (n : Nat) : RaisesFault (runSlots n : Action σ Unit) := by
  intro s hs hhalt
  generalize hr : (runSlots n).run s = r at hhalt ⊢
  have hend : SlotsEnd n s r := hr ▸ slotsEnd_runSlots n s
  cases hend with
  | refused =>
    rw [left, hs] at hhalt
    cases hhalt
  | fault f _ _ hf => exact (State.refusal?_of_failure hf).symm
  | done hrun =>
    rw [left, machine_synced] at hhalt
    rw [show (s.machine.state.run n).halted = true from hhalt] at hrun
    cases hrun

theorem haltsNone_tick (count : Int) : HaltsNone (tick count : Action σ Unit) := by
  intro s hs
  rw [run_tick, left, machine_synced]
  show (s.machine.state.ticks _).halted = false
  rwa [State.halted, State.status_ticks]

theorem haltsNone_dueTicks (host : Host σ) : HaltsNone (dueTicks host) :=
  .dueTicks (fun _ hs => hs) fun _ _ hs => hs

theorem raisesFault_runFrame (ticks : Int) : RaisesFault (runFrame host ticks) := by
  have hlook : HaltsNone (getMachine : Action σ Machine) := fun _ hs => hs
  have hcount (count : Machine → Nat) :
      HaltsNone (update fun m => { m with frameCount := count m } : Action σ Unit) :=
    fun _ hs => hs
  have hpresent : HaltsNone (present host) := fun _ hs => hs
  refine hlook.raisesFault.bind fun _ => (raisesFault_runSlots _).bind fun _ => ?_
  refine (haltsNone_tick ticks).raisesFault.bind fun _ => ?_
  exact (HaltsNone.raisesFault (hcount _)).bind fun _ => hpresent.raisesFault

theorem runSteps_raisesFault (stop : StopRule σ) :
    RunSteps host stop fun a => RaisesFault a where
  pure a := HaltsNone.raisesFault (.pure a)
  bind := .bind
  look := HaltsNone.raisesFault fun _ hs => hs
  start := HaltsNone.raisesFault fun _ hs => hs
  stops := HaltsNone.raisesFault fun _ hs => hs
  due := (haltsNone_dueTicks host).raisesFault
  frame := raisesFault_runFrame
  pause _ := HaltsNone.raisesFault <|
    Keeps.bind (fun _ hs => hs) fun _ => .ite (fun _ hs => hs) (.pure ())

/-- An operation that halts a machine fails with the failure that the machine records. -/
theorem raisesFault (op : Operation σ) : RaisesFault (op.action host) := by
  have hquiet (g : Signal) (_ : g.halted = false) :
      (Signal.sync { g with active := false, halted := false }).halted = false :=
    Signal.halted_sync _
  have hreset : HaltsNone (reset host) := keeps_reset hquiet
  have hload (rom : Rom) : HaltsNone (load host rom) := keeps_load hquiet rom
  have hkeypad (k : Keypad → Keypad) : HaltsNone (setKeypad k : Action σ Unit) := fun _ hs => hs
  cases op with
  | load rom => exact (hload rom).raisesFault
  | loadFile name content =>
    refine HaltsNone.raisesFault (Keeps.bind (fun _ hs => hs) fun _ => ?_)
    exact Keeps.lift.bind fun rom => hload rom
  | reset => exact hreset.raisesFault
  | press key | release key | setKeys keys =>
    exact HaltsNone.raisesFault (Keeps.input hkeypad trivial)
  | cycle =>
    exact (raisesFault_runSlots 1).bind fun _ => (haltsNone_dueTicks host).raisesFault.bind
      fun due => (haltsNone_tick due).raisesFault
  | tick count => exact (haltsNone_tick count).raisesFault
  | runFrame ticks => exact raisesFault_runFrame ticks
  | run frames stop =>
    have hpure : RaisesFault (pure () : Action σ Unit) := HaltsNone.raisesFault (.pure ())
    exact ((runSteps_raisesFault stop).runUntil frames).bind fun _ => hpure

/-! ## Faults stay -/

theorem failure?_of_executes (hs : s.machine.state.halted = true)
    (hf : s.machine.state.refusal? = some f) {op : Operation σ} (hop : op.Executes host s) :
    failure? ((op.action host).run s) = some f := by
  cases op with
  | cycle =>
    show failure? ((cycle host).run s) = _
    rw [run_cycle_of_refusal hs hf]
    rfl
  | runFrame ticks =>
    show failure? ((runFrame host ticks).run s) = _
    rw [run_runFrame_of_refusal hs hf]
    rfl
  | run frames stop =>
    obtain ⟨hpos, ticks, t, ht⟩ := hop
    have hkept : Inert s t := (runSteps_inert hs stop).approach.of_run_eq_ok (.refl s) ht
    have hframe : (runFrame host ticks).run t = .error f t :=
      run_runFrame_of_refusal (hkept.halted hs) ((State.refusal?_congr hkept.status).trans hf) ticks
    have hrun := run_runUntil_of_approach hpos ht hframe
    rw [Operation.action, run_bind_of_error hrun, failure?]
  | _ => exact hop.elim

/-- **A fault is permanent.** An operation that halts a machine fails with the failure that the
machine records. Whatever a host does with a halted machine but start it over, the state stays as it
is but for the keypad and the timers, so does the frame count, and no picture is shown; and all that
would run the machine fails with the failure that the machine has recorded. -/
theorem fault_is_permanent (host : Host σ) :
    (∀ (s : Session σ) (op : Operation σ), s.machine.state.halted = false →
      (left ((op.action host).run s)).machine.state.halted = true →
        failure? ((op.action host).run s) =
          (left ((op.action host).run s)).machine.state.refusal?) ∧
    ∀ (s : Session σ) (ops : List (Operation σ)), s.machine.state.halted = true →
      (∀ op ∈ ops, op.IsPlay) → Inert s (after host s ops) ∧
        ∃ f, s.machine.state.refusal? = some f ∧ ∀ op : Operation σ,
          op.Executes host (after host s ops) →
            failure? ((op.action host).run (after host s ops)) = some f := by
  refine ⟨fun s op => raisesFault op s, fun s ops hs hops => ?_⟩
  have hinert : Inert s (after host s ops) :=
    Keeps.after (fun op hop => keeps_inert hs (hops op hop)) (.refl s)
  obtain ⟨f, hf⟩ := State.exists_refusal hs
  refine ⟨hinert, f, hf, fun op hop => failure?_of_executes (hinert.halted hs) ?_ hop⟩
  rw [State.refusal?_congr hinert.status, hf]

/-- The machine that beeps and then meets a fault, which does not wait for its host's clock. -/
def hastySession : Session Unit := still { throttle := false } (some beepRom) beforeBeep

theorem run_runFrame_hastySession : (runFrame Console.stillHost 1).run hastySession =
    .error (.invalidOpcode 0 0x204) (hastySession.stopped afterBeep (.invalidOpcode 0 0x204)) := by
  have hk : hastySession.machine.config.slotsPerFrame = 11 :=
    (Config.slotsPerFrame_int rfl).trans (by decide)
  have hrun : hastySession.machine.state.run hastySession.machine.config.slotsPerFrame =
      afterBeep := by
    rw [hk]
    exact run_beforeBeep 8
  have hframe := run_runFrame_of_fault (s := hastySession) Console.stillHost 1
    (by rw [hk]; decide) rfl (f := .invalidOpcode 0 0x204) (by rw [hrun]; rfl)
  rwa [hrun] at hframe

/-- A run that is not paced reaches its first frame. -/
theorem reachesFrame_of_unpaced (hc : s.machine.config.throttle = false) {n : Int} (hn : 0 < n) :
    ReachesFrame host (some n) neverStop s := by
  obtain ⟨start, t, hstart, hconfig, -⟩ := run_startClock host s
  refine ⟨decide_eq_true hn, 1, t, ?_⟩
  have hticks : (frameTicks host).run t = .ok 1 t := by
    rw [frameTicks, run_bind_of_ok run_getMachine, hconfig, hc]
    rfl
  rw [approach, run_bind_of_ok hstart, run_bind_of_ok (run_stops neverStop)]
  exact run_bind_of_ok hticks

/-- Ticks, a key and a frame that is refused leave the fault in place for the run after them. -/
theorem beep_fault_is_permanent :
    failure? ((runFrame Console.stillHost 1).run hastySession) =
      some (.invalidOpcode 0 0x204) ∧
    ∃ s, left ((runFrame Console.stillHost 1).run hastySession) = s ∧
      Inert s (after Console.stillHost s [.tick 3, .press (.int 5), .runFrame 1]) ∧
      failure? (((Operation.run (some 2) neverStop).action Console.stillHost).run
        (after Console.stillHost s [.tick 3, .press (.int 5), .runFrame 1])) =
          some (.invalidOpcode 0 0x204) := by
  obtain ⟨hraises, hstays⟩ := fault_is_permanent Console.stillHost
  have hleft : left (((Operation.runFrame 1).action Console.stillHost).run hastySession) =
      hastySession.stopped afterBeep (.invalidOpcode 0 0x204) :=
    congrArg left run_runFrame_hastySession
  have hrefusal : (hastySession.stopped afterBeep (.invalidOpcode 0 0x204)).machine.state.refusal? =
      some (.invalidOpcode 0 0x204) := State.refusal?_of_failure rfl
  have hfault := hraises hastySession (.runFrame 1) rfl (by rw [hleft]; rfl)
  rw [hleft, hrefusal] at hfault
  obtain ⟨hinert, f, hf, hlater⟩ := hstays (hastySession.stopped afterBeep (.invalidOpcode 0 0x204))
    [.tick 3, .press (.int 5), .runFrame 1] rfl (by simp [Operation.IsPlay])
  obtain rfl := Option.some.inj (hf.symm.trans hrefusal)
  have hmake := sameMake_after Console.stillHost
    (hastySession.stopped afterBeep (.invalidOpcode 0 0x204))
    [.tick 3, .press (.int 5), .runFrame 1]
  have hreaches : ReachesFrame Console.stillHost (some 2) neverStop _ :=
    reachesFrame_of_unpaced (by rw [hmake.config]; rfl) (by decide)
  exact ⟨hfault, _, hleft, hinert, hlater (.run (some 2) neverStop) hreaches⟩

end Session

end Chip8
