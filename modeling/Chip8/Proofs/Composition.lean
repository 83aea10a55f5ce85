import Chip8.Proofs.Interleaving
import Chip8.Proofs.Twin
import Chip8.Proofs.Unpaced

/-!
# Runs one after the other

A run that is not paced goes through its frames and does not look at the clock, which it only sets
before the first of them. Two such runs one after the other therefore go through the frames of a
single one, and that the second sets the clock again makes no difference that shows. Any run can be
taken frame by frame (`runFrames_frame_by_frame`), as a program does that looks at the clock of its
system between them.

**`unpaced_runs_compose`** says this for any split of a number of frames and any machine, and how
the frames end (`RunEnd`): either all of them go through, each with its picture and one more on the
frame count, or one of them fails and those before it have gone through.
-/

namespace Chip8

/-- The picture that a host is shown. -/
def Effect.picture? : Effect → Option Display
  | .frame picture => some picture
  | _ => none

namespace Session

variable {σ α : Type} {s t u : Session σ} {host : Host σ} {n : Nat}

/-- The pictures that the host was shown so far. -/
def pictures (s : Session σ) : List Display := s.effects.toList.filterMap Effect.picture?

/-- Two sessions differ in their clocks and in the worlds of their hosts at most. -/
structure ShowsAlike (s t : Session σ) : Prop where
  machine : t.machine = { s.machine with clock := t.machine.clock }
  effects : t.effects = s.effects

/-- Twins that were told the same from the beginning, at any pace. -/
abbrev UnpacedTwins (s t : Session σ) : Prop := Twins (fun _ _ _ _ => True) #[] #[] s t

theorem Twins.showsAlike (h : UnpacedTwins s t) : ShowsAlike s t := by
  obtain ⟨tail, hs, ht⟩ := h.told
  exact ⟨h.machine, ht.trans hs.symm⟩

theorem ShowsAlike.twins (h : ShowsAlike s t) : UnpacedTwins s t :=
  ⟨h.machine, trivial, s.effects, by simp, by simp [h.effects]⟩

theorem ShowsAlike.refl (s : Session σ) : ShowsAlike s s := ⟨rfl, rfl⟩

theorem EndsAlike.refl {ρ : Session σ → Session σ → Prop} (hρ : ∀ s, ρ s s)
    (r : EStateM.Result Failure (Session σ) α) : EndsAlike ρ r r := by
  cases r with
  | ok a s => exact .ok a (hρ s)
  | error f s => exact .error f (hρ s)

/-! ## Frames -/

/-- Frames one after the other, each with one timer tick; the first that fails ends them. -/
def frames (host : Host σ) : Nat → Action σ Unit
  | 0 => pure ()
  | n + 1 => do
    runFrame host 1
    frames host n

theorem frames_add (host : Host σ) (m n : Nat) :
    frames host (m + n) = (do frames host m; frames host n) := by
  induction m with
  | zero => rw [Nat.zero_add, frames, pure_bind]
  | succ m ih => rw [Nat.succ_add, frames, ih, frames, bind_assoc]

theorem alike_frames (host : Host σ) (n : Nat) :
    Alike UnpacedTwins (frames host n) (frames host n) := by
  induction n with
  | zero => exact .pure ()
  | succ n ih => exact (alike_runFrame (fun _ _ => trivial) 1).bind fun _ => ih

theorem FrameStable.keeps_frames {P : Session σ → Prop} (h : FrameStable P) (n : Nat) :
    Keeps P (frames host n) := by
  induction n with
  | zero => exact .pure ()
  | succ n ih => exact (h.keeps_runFrame 1).bind fun _ => ih

/-! ## What frames leave behind -/

/-- So many frames have gone through, each with its picture and one more on the frame count. -/
structure Grown (n : Nat) (s t : Session σ) : Prop where
  frameCount : t.machine.frameCount = s.machine.frameCount + n
  pictures : ∃ shown, shown.length = n ∧ t.pictures = s.pictures ++ shown

theorem Grown.refl (s : Session σ) : Grown 0 s s := ⟨rfl, [], rfl, (List.append_nil _).symm⟩

theorem Grown.trans {m : Nat} (h : Grown m s t) (h' : Grown n t u) : Grown (m + n) s u := by
  obtain ⟨hcount, shown, hlength, hshown⟩ := h
  obtain ⟨hcount', shown', hlength', hshown'⟩ := h'
  refine ⟨by rw [hcount', hcount, Nat.add_assoc], shown ++ shown', ?_, ?_⟩
  · rw [List.length_append, hlength, hlength']
  · rw [hshown', hshown, List.append_assoc]

theorem pictures_push {e : Effect} (h : e.picture? = none) :
    ({ s with effects := s.effects.push e } : Session σ).pictures = s.pictures := by
  simp only [pictures, Array.toList_push, List.filterMap_append, List.filterMap_cons, h,
    List.filterMap_nil, List.append_nil]

theorem pictures_noted (level : LogLevel) (message : Text) :
    (s.noted level message).pictures = s.pictures := pictures_push rfl

theorem pictures_heard (active : Bool) : (s.heard active).pictures = s.pictures := by
  unfold heard
  split
  · rfl
  · exact (pictures_push rfl).trans (pictures_push rfl)

theorem grown_synced (state : State) : Grown 0 s (s.withState state).synced := by
  refine ⟨by rw [synced, machine_heard]; rfl, [], rfl, ?_⟩
  rw [synced, pictures_heard, List.append_nil]
  rfl

theorem grown_stopped (state : State) (f : Failure) : Grown 0 s (s.stopped state f) := by
  refine ⟨rfl, [], rfl, ?_⟩
  rw [stopped, pictures_noted, List.append_nil]
  rfl

/-- A picture that is shown counts as one more frame. -/
theorem grown_shown (world : σ) : Grown 1 s { s with
    world
    effects := s.effects.push (.frame s.machine.state.display)
    machine := { s.machine with frameCount := s.machine.frameCount + 1 } } :=
  ⟨rfl, [s.machine.state.display], rfl, by simp [pictures, Effect.picture?]⟩

/-- A frame that goes through shows one picture, and one that fails shows none. -/
inductive FrameEnd (s : Session σ) : EStateM.Result Failure (Session σ) Unit → Prop
  | done {t : Session σ} : Grown 1 s t → FrameEnd s (.ok () t)
  | failed (f : Failure) {t : Session σ} : Grown 0 s t → FrameEnd s (.error f t)

theorem frameEnd_runFrame (ticks : Int) (s : Session σ) :
    FrameEnd s ((runFrame host ticks).run s) := by
  rw [runFrame, run_bind_of_ok run_getMachine]
  generalize hr : (runSlots s.machine.config.slotsPerFrame).run s = r
  have hend : SlotsEnd _ s r := hr ▸ slotsEnd_runSlots _ s
  cases hend with
  | refused f =>
    rw [run_bind_of_error hr]
    exact .failed f (.refl s)
  | fault f =>
    rw [run_bind_of_error hr]
    exact .failed f (grown_stopped _ f)
  | done =>
    rw [run_bind_of_ok hr, run_bind_of_ok (run_tick ticks), run_bind_of_ok (run_update _),
      run_present]
    exact .done (((grown_synced _).trans (grown_synced _)).trans (grown_shown _))

/-- Frames all go through, or one of them fails and those before it have gone through. -/
inductive FramesEnd (host : Host σ) (n : Nat) (s : Session σ) :
    EStateM.Result Failure (Session σ) Unit → Prop
  | done {t : Session σ} : Grown n s t → FramesEnd host n s (.ok () t)
  | failed {i : Nat} {f : Failure} {u t : Session σ} : i < n → (frames host i).run s = .ok () u →
      (runFrame host 1).run u = .error f t → Grown i s t → FramesEnd host n s (.error f t)

theorem framesEnd_frames (n : Nat) (s : Session σ) :
    FramesEnd host n s ((frames host n).run s) := by
  induction n generalizing s with
  | zero => exact .done (.refl s)
  | succ n ih =>
    have hframe : FrameEnd s ((runFrame host 1).run s) := frameEnd_runFrame 1 s
    cases h : (runFrame host 1).run s with
    | error f t =>
      rw [h] at hframe
      cases hframe with
      | failed _ hgrown =>
        rw [frames, run_bind_of_error h]
        exact .failed (Nat.succ_pos n) rfl h hgrown
    | ok _ t =>
      rw [h] at hframe
      obtain ⟨hgrown⟩ := hframe
      -- The frames behind the first end as they would on their own, one frame later.
      have hlater := ih t
      rw [frames, run_bind_of_ok h]
      generalize (frames host n).run t = r at hlater
      cases hlater with
      | done hrest =>
        rw [Nat.add_comm]
        exact .done (hgrown.trans hrest)
      | @failed i f u v hi hbefore hfails hrest =>
        have hbefore : (frames host (i + 1)).run s = .ok () u := by
          rw [frames, run_bind_of_ok h, hbefore]
        rw [Nat.add_comm] at hbefore
        exact .failed (by omega) hbefore hfails (hgrown.trans hrest)

/-! ## A run and its frames -/

/-- A run, paced or not, goes on behind its first frame with the run of the others, unless the host
has stopped it before that frame. It can therefore be taken frame by frame. -/
theorem runFrames_frame_by_frame (host : Host σ) (stop : StopRule σ) (n done : Nat)
    (last : Float) :
    runFrames host stop (n + 1) done last = (do
      let reached ← runFrames host stop 1 done last
      if reached = done then return done
      runFrames host stop n reached (last + framePeriod)) := by
  have hone : runFrames host stop 1 done last = (do
      if ← stops stop then return done
      frameOfRun host (last + framePeriod)
      return done + 1) := rfl
  rw [hone, runFrames, bind_assoc]
  refine bind_congr fun stopped => ?_
  cases stopped <;> simp

theorem run_runFrames_eq (hc : s.machine.config.throttle = false) (n done : Nat) (last : Float) :
    (runFrames host neverStop n done last).run s =
      (do frames host n; return done + n : Action σ Nat).run s := by
  induction n generalizing s done last with
  | zero => rfl
  | succ n ih =>
    have hframe (next : Float) : (frameOfRun host next).run s = (runFrame host 1).run s := by
      rw [frameOfRun, run_bind_of_ok run_getMachine, hc]
      rfl
    rw [run_runFrames_succ, frames, bind_assoc]
    cases h : (runFrame host 1).run s with
    | error f t => rw [run_bind_of_error ((hframe _).trans h), run_bind_of_error h]
    | ok _ t =>
      have hmake := ((frameStable_sameMake s.machine).keeps_runFrame 1).of_run_eq_ok (.refl _) h
      rw [run_bind_of_ok ((hframe _).trans h), run_bind_of_ok h, ih (by rw [hmake.config, hc]),
        Nat.add_right_comm]
      rfl

/-- The session whose clock has been set to run from now on. -/
def clockStarted (host : Host σ) (s : Session σ) : Session σ := left ((startClock host).run s)

theorem showsAlike_clockStarted (host : Host σ) (s : Session σ) :
    ShowsAlike (clockStarted host s) s := ⟨rfl, rfl⟩

/-- A run that is not paced starts the clock and goes through its frames. -/
theorem run_runUntil_eq (hc : s.machine.config.throttle = false) (n : Nat) :
    (runUntil host (some n) neverStop).run s =
      (do frames host n; return n : Action σ Nat).run (clockStarted host s) := by
  obtain ⟨start, t, hstart, hconfig, -⟩ := run_startClock host s
  have ht : clockStarted host s = t := by rw [clockStarted, hstart, left]
  rw [runUntil, run_bind_of_ok hstart, ht]
  show (runFrames host neverStop n 0 start).run t = _
  rw [run_runFrames_eq (by rw [hconfig, hc]), Nat.zero_add]

theorem runUntil_eq_ok (hc : s.machine.config.throttle = false)
    (h : (frames host n).run (clockStarted host s) = .ok () t) :
    (runUntil host (some n) neverStop).run s = .ok n t := by
  rw [run_runUntil_eq hc, run_bind_of_ok h]
  rfl

theorem runUntil_eq_error (hc : s.machine.config.throttle = false) {f : Failure}
    (h : (frames host n).run (clockStarted host s) = .error f t) :
    (runUntil host (some n) neverStop).run s = .error f t := by
  rw [run_runUntil_eq hc, run_bind_of_error h]

/-- How a run of so many frames ends. -/
inductive RunEnd (host : Host σ) (n : Nat) (s : Session σ) :
    EStateM.Result Failure (Session σ) Nat → Prop
  | returned {t : Session σ} : Grown n s t → RunEnd host n s (.ok n t)
  | failed {i : Nat} {f : Failure} {u t : Session σ} : i < n →
      (runUntil host (some i) neverStop).run s = .ok i u → (runFrame host 1).run u = .error f t →
      Grown i s t → RunEnd host n s (.error f t)

theorem runEnd_runUntil (hc : s.machine.config.throttle = false) (n : Nat) :
    RunEnd host n s ((runUntil host (some n) neverStop).run s) := by
  have hstarted {i : Nat} {t : Session σ} (h : Grown i (clockStarted host s) t) : Grown i s t :=
    ⟨h.frameCount, h.pictures⟩
  have hframes : FramesEnd host n (clockStarted host s) _ := framesEnd_frames n _
  cases h : (frames host n).run (clockStarted host s) with
  | ok _ t =>
    rw [h] at hframes
    obtain ⟨hgrown⟩ := hframes
    rw [runUntil_eq_ok hc h]
    exact .returned (hstarted hgrown)
  | error f t =>
    rw [h] at hframes
    cases hframes with
    | failed hi hbefore hfails hgrown =>
      rw [runUntil_eq_error hc h]
      exact .failed hi (runUntil_eq_ok hc hbefore) hfails (hstarted hgrown)

/-- Two runs one after the other, and the number of their frames. -/
def runTwice (host : Host σ) (a b : Nat) : Action σ Nat := do
  let first ← runUntil host (some a) neverStop
  let second ← runUntil host (some b) neverStop
  return first + second

/-- **Runs compose.** For a machine that is not paced it makes no difference whether frames are run
at once or in two runs one after the other: the runs end alike, and in sessions that show no
difference. If all frames go through, then the frame count and the pictures have grown by their
number; and if a frame fails, then by the number of those before it. -/
theorem unpaced_runs_compose (host : Host σ) (hc : s.machine.config.throttle = false) (a b : Nat) :
    EndsAlike ShowsAlike ((runTwice host a b).run s)
      ((runUntil host (some (a + b : Nat)) neverStop).run s) ∧
    RunEnd host (a + b) s ((runUntil host (some (a + b : Nat)) neverStop).run s) := by
  refine ⟨?_, runEnd_runUntil hc (a + b)⟩
  cases h : (frames host a).run (clockStarted host s) with
  | error f t =>
    have honce : (frames host (a + b)).run (clockStarted host s) = .error f t := by
      rw [frames_add, run_bind_of_error h]
    rw [runTwice, run_bind_of_error (runUntil_eq_error hc h), runUntil_eq_error hc honce]
    exact .refl .refl _
  | ok _ t =>
    have hstarted : SameMake s.machine (clockStarted host s).machine := ⟨rfl, rfl, rfl⟩
    have hmake := ((frameStable_sameMake s.machine).keeps_frames a).of_run_eq_ok hstarted h
    have hsecond : (runTwice host a b).run s =
        (do frames host b; return a + b : Action σ Nat).run (clockStarted host t) := by
      rw [runTwice, run_bind_of_ok (runUntil_eq_ok hc h),
        run_bind_congr (run_runUntil_eq (by rw [hmake.config, hc]) b), bind_assoc]
      rfl
    have honce : (runUntil host (some (a + b : Nat)) neverStop).run s =
        (do frames host b; return a + b : Action σ Nat).run t := by
      rw [run_runUntil_eq hc, frames_add, bind_assoc, run_bind_of_ok h]
    rw [hsecond, honce]
    -- Behind the first run the two go through the same frames, with the clock set anew or not.
    have halike := (alike_frames host b).bind fun _ => Alike.pure (a + b)
    exact (halike _ _ (showsAlike_clockStarted host t).twins).mono fun _ _ => Twins.showsAlike

/-- A machine with a frame for each slot, which is not paced. -/
def slowSession : Session Unit :=
  still { speed := .int 60, throttle := false } (some loadByteRom) beforeLoadByte

theorem slotsPerFrame_slowSession : slowSession.machine.config.slotsPerFrame = 1 :=
  (Config.slotsPerFrame_int rfl).trans (by decide)

/-- The first frame carries out the instruction, and lets the timers tick. -/
theorem run_runFrame_slowSession :
    ∃ t, (runFrame Console.stillHost 1).run (clockStarted Console.stillHost slowSession) =
        .ok () t ∧ t.machine.config = slowSession.machine.config ∧
      t.machine.state = afterLoadByte.tick := by
  have hk : (clockStarted Console.stillHost slowSession).machine.config.slotsPerFrame = 1 :=
    slotsPerFrame_slowSession
  have hrun : (clockStarted Console.stillHost slowSession).machine.state.run 1 = afterLoadByte :=
    step_beforeLoadByte
  obtain ⟨t, ht, hmachine⟩ :=
    run_runFrame Console.stillHost 1 (by rw [hk]; decide) (by rw [hk, hrun]; rfl)
  refine ⟨t, ht, by rw [hmachine]; rfl, ?_⟩
  rw [hmachine, hk, hrun]
  rfl

/-- The second frame meets the fault, which the tick before it does not change. -/
theorem failure_run_tick_afterLoadByte :
    (afterLoadByte.tick.run 1).failure = .ok (some (.invalidOpcode 0 0x202)) := by
  have havoids : ∀ a w, afterLoadByte.executed? = some (a, w) → ¬UsesTimer w := by
    rintro a w hw
    obtain ⟨-, rfl⟩ := Prod.mk.inj (Option.some.inj (executed?_afterLoadByte.symm.trans hw))
    decide
  show afterLoadByte.tick.step.failure = _
  rw [State.step_tick havoids, step_afterLoadByte]
  rfl

/-- Two runs of one frame each, and the second of them meets the fault. -/
theorem fault_in_second_run :
    slowSession.machine.config.throttle = false ∧
    ∃ t, (runTwice Console.stillHost 1 1).run slowSession = .error (.invalidOpcode 0 0x202) t ∧
      t.machine.frameCount = 1 ∧ t.pictures.length = 1 := by
  have hc : slowSession.machine.config.throttle = false := rfl
  obtain ⟨t, hfirst, hconfig, hstate⟩ := run_runFrame_slowSession
  have hk : t.machine.config.slotsPerFrame = 1 := by rw [hconfig, slotsPerFrame_slowSession]
  obtain ⟨v, hsecond⟩ : ∃ v, (runFrame Console.stillHost 1).run t =
      .error (.invalidOpcode 0 0x202) v :=
    ⟨_, run_runFrame_of_fault Console.stillHost 1 (by rw [hk]; decide) (by rw [hstate]; rfl)
      (by rw [hk, hstate]; exact failure_run_tick_afterLoadByte)⟩
  have hframes : (frames Console.stillHost (1 + 1)).run
      (clockStarted Console.stillHost slowSession) = .error (.invalidOpcode 0 0x202) v := by
    rw [frames, run_bind_of_ok hfirst, frames, run_bind_of_error hsecond]
  obtain ⟨hends, hend⟩ := unpaced_runs_compose Console.stillHost hc 1 1
  rw [runUntil_eq_error hc hframes] at hends hend
  have hgrown : Grown 1 slowSession v := by
    cases hend with
    | @failed i _ u _ hi hbefore hfails hgrown =>
      -- The fault is not in the first frame, which goes through.
      obtain rfl | rfl : i = 0 ∨ i = 1 := by omega
      · obtain ⟨-, rfl⟩ := EStateM.Result.ok.inj ((runUntil_eq_ok hc rfl).symm.trans hbefore)
        cases hfirst.symm.trans hfails
      · exact hgrown
  obtain ⟨hcount, shown, hlength, hpictures⟩ := hgrown
  generalize hr : (runTwice Console.stillHost 1 1).run slowSession = r at hends
  cases hends with
  | error _ hshows =>
    refine ⟨hc, _, rfl, ?_, ?_⟩
    · exact (congrArg Machine.frameCount hshows.machine).symm.trans hcount
    · rw [pictures, ← hshows.effects]
      exact (congrArg List.length hpictures).trans (by rw [List.length_append, hlength]; rfl)

end Session

end Chip8
