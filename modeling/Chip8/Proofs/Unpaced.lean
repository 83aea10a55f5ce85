import Chip8.Proofs.Frame
import Chip8.Proofs.Stable

/-!
# Runs that are not paced

A run that is neither paced nor stopped goes through its frames one after the other, each with its
slots and one timer tick. `run_runFrames` says that it ends in the state behind the last frame if no
frame meets a fault, and `run_runFrames_of_fault` that otherwise the first fault ends it in the
state that the fault leaves behind. What the machine tells its host meanwhile is never critical.
-/

namespace Chip8

/-- What a host is told is no critical message. -/
def Effect.isMild : Effect → Bool
  | .log level _ => level != .critical
  | _ => true

/-! ## Unpaced frames -/

/-- The states before the frames of a run: each frame has so many slots, and a timer tick. -/
def FrameStates (k : Nat) (states : Nat → State) : Prop :=
  ∀ i, states (i + 1) = ((states i).run k).tick

/-- The state before a frame, when the frames of so many slots start in a state. -/
def State.beforeFrame (k : Nat) (s : State) : Nat → State
  | 0 => s
  | i + 1 => ((beforeFrame k s i).run k).tick

theorem frameStates_beforeFrame (k : Nat) (s : State) : FrameStates k (s.beforeFrame k) :=
  fun _ => rfl

namespace Session

variable {σ : Type} {s : Session σ} {host : Host σ} {k : Nat} {states : Nat → State}

/-- The settings of a run that is not paced, with frames of so many slots. -/
structure Unpaced (k : Nat) (config : Config) : Prop where
  throttle : config.throttle = false
  slots : config.slotsPerFrame = k

/-- A run that nobody stops. -/
def neverStop : StopRule σ := fun _ world => (false, world)

theorem run_frameOfRun (host : Host σ) (hc : Unpaced k s.machine.config) (hk : k < slotLimit)
    (hrun : (s.machine.state.run k).halted = false) (next : Float) :
    ∃ t, (frameOfRun host next).run s = .ok () t ∧ t.machine.config = s.machine.config ∧
      t.machine.state = (s.machine.state.run k).tick := by
  obtain ⟨hthrottle, rfl⟩ := hc
  obtain ⟨t, hframe, hmachine⟩ := run_runFrame host 1 hk hrun
  refine ⟨t, ?_, by rw [hmachine], by rw [hmachine]; rfl⟩
  rw [frameOfRun, run_bind_of_ok run_getMachine, hthrottle]
  exact hframe

theorem run_frameOfRun_of_fault (host : Host σ) (hc : Unpaced k s.machine.config)
    (hk : k < slotLimit) (hs : s.machine.state.halted = false)
    (hhalt : (s.machine.state.run k).halted = true) (next : Float) :
    ∃ f t, (frameOfRun host next).run s = .error f t ∧ f.isFatal = true ∧
      t.machine.state = s.machine.state.run k := by
  obtain ⟨hthrottle, rfl⟩ := hc
  obtain ⟨f, hf, hfatal⟩ := State.failure_run hs hhalt
  refine ⟨f, s.stopped (s.machine.state.run s.machine.config.slotsPerFrame) f, ?_, hfatal, rfl⟩
  rw [frameOfRun, run_bind_of_ok run_getMachine, hthrottle]
  exact run_runFrame_of_fault host 1 hk hs hf

theorem run_frameOfRun_of_limit (host : Host σ) (hc : Unpaced k s.machine.config)
    (hk : slotLimit ≤ k) (hs : s.machine.state.halted = false) (next : Float) :
    (frameOfRun host next).run s = .error .outOfRange s := by
  obtain ⟨hthrottle, rfl⟩ := hc
  rw [frameOfRun, run_bind_of_ok run_getMachine, hthrottle]
  exact run_runFrame_of_limit host 1 hk hs

/-- A run of frames that nobody stops is a frame, and the run of the others. -/
theorem run_runFrames_succ (n done : Nat) (last : Float) :
    (runFrames host neverStop (n + 1) done last).run s =
      (do frameOfRun host (last + framePeriod)
          runFrames host neverStop n (done + 1) (last + framePeriod) : Action σ Nat).run s := by
  rw [runFrames, run_bind_of_ok (run_stops neverStop)]
  rfl

/-- Frames without a fault lead from the state before the first to that behind the last. -/
theorem run_runFrames (host : Host σ) (hstates : FrameStates k states)
    (hc : Unpaced k s.machine.config) {n : Nat} (hk : 0 < n → k < slotLimit) {done : Nat}
    (hs : s.machine.state = states done)
    (hrun : ∀ i < n, ((states (done + i)).run k).halted = false) (last : Float) :
    ∃ t, (runFrames host neverStop n done last).run s = .ok (done + n) t ∧
      t.machine.state = states (done + n) := by
  induction n generalizing s done last with
  | zero => exact ⟨s, rfl, hs⟩
  | succ n ih =>
    have hfirst : (s.machine.state.run k).halted = false := by rw [hs]; exact hrun 0 n.succ_pos
    have hk : k < slotLimit := hk n.succ_pos
    obtain ⟨t, hframe, hconfig, hstate⟩ := run_frameOfRun host hc hk hfirst (last + framePeriod)
    have ht : t.machine.state = states (done + 1) := by rw [hstate, hs, hstates]
    obtain ⟨u, hframes, hu⟩ := ih (by rw [hconfig]; exact hc) (fun _ => hk) ht
      (fun i hi => by rw [Nat.add_right_comm]; exact hrun (i + 1) (Nat.succ_lt_succ hi)) _
    refine ⟨u, ?_, by rw [hu, Nat.add_right_comm]; rfl⟩
    rw [run_runFrames_succ, run_bind_of_ok hframe, hframes, Nat.add_right_comm]
    rfl

/-- The first frame that meets a fault ends the run in the state that the fault leaves behind. -/
theorem run_runFrames_of_fault (host : Host σ) (hstates : FrameStates k states)
    (hc : Unpaced k s.machine.config) (hk : k < slotLimit) {n i : Nat} (hi : i < n) {done : Nat}
    (hs : s.machine.state = states done) (hnot : s.machine.state.halted = false)
    (hrun : ∀ j < i, ((states (done + j)).run k).halted = false)
    (hhalt : ((states (done + i)).run k).halted = true) (last : Float) :
    ∃ f t, (runFrames host neverStop n done last).run s = .error f t ∧ f.isFatal = true ∧
      t.machine.state = (states (done + i)).run k := by
  -- The frames before the one with the fault hand on a machine that has not halted.
  induction i generalizing s n done last with
  | zero =>
    obtain ⟨n, rfl⟩ := Nat.exists_eq_succ_of_ne_zero (Nat.ne_of_gt hi)
    obtain ⟨f, t, hframe, hfatal, hstate⟩ :=
      run_frameOfRun_of_fault host hc hk hnot (by rw [hs]; exact hhalt) (last + framePeriod)
    refine ⟨f, t, ?_, hfatal, by rw [hstate, hs]; rfl⟩
    rw [run_runFrames_succ, run_bind_of_error hframe]
  | succ i ih =>
    obtain ⟨n, rfl⟩ := Nat.exists_eq_succ_of_ne_zero (Nat.ne_of_gt (Nat.zero_lt_of_lt hi))
    have hfirst : (s.machine.state.run k).halted = false := by rw [hs]; exact hrun 0 i.succ_pos
    obtain ⟨t, hframe, hconfig, hstate⟩ := run_frameOfRun host hc hk hfirst (last + framePeriod)
    have ht : t.machine.state = states (done + 1) := by rw [hstate, hs, hstates]
    have hnot : t.machine.state.halted = false := by rw [hstate]; exact hfirst
    obtain ⟨f, u, hframes, hfatal, hu⟩ := ih (by rw [hconfig]; exact hc) (Nat.lt_of_succ_lt_succ hi)
      ht hnot (fun j hj => by rw [Nat.add_right_comm]; exact hrun (j + 1) (Nat.succ_lt_succ hj))
      (by rw [Nat.add_right_comm]; exact hhalt) _
    refine ⟨f, u, ?_, hfatal, by rw [hu, Nat.add_right_comm]; rfl⟩
    rw [run_runFrames_succ, run_bind_of_ok hframe, hframes]

/-! ## Whole runs -/

theorem run_startClock (host : Host σ) (s : Session σ) :
    ∃ start t, (startClock host).run s = .ok start t ∧ t.machine.config = s.machine.config ∧
      t.machine.state = s.machine.state :=
  ⟨_, _, rfl, rfl, rfl⟩

theorem run_runUntil (host : Host σ) (hstates : FrameStates k states)
    (hc : Unpaced k s.machine.config) {frames : Int} (hk : 0 < frames → k < slotLimit)
    (hs : s.machine.state = states 0)
    (hrun : ∀ i < frames.toNat, ((states i).run k).halted = false) :
    ∃ t, (runUntil host (some frames) neverStop).run s = .ok frames.toNat t ∧
      t.machine.state = states frames.toNat := by
  obtain ⟨start, t, hstart, hconfig, hstate⟩ := run_startClock host s
  obtain ⟨u, hframes, hu⟩ := run_runFrames host hstates (by rw [hconfig]; exact hc)
    (n := frames.toNat) (fun h => hk (Int.pos_iff_toNat_pos.2 h)) (hstate.trans hs)
    (by simpa using hrun) start
  refine ⟨u, ?_, by rw [hu, Nat.zero_add]⟩
  rw [runUntil, run_bind_of_ok hstart, hframes, Nat.zero_add]

theorem run_runUntil_of_fault (host : Host σ) (hstates : FrameStates k states)
    (hc : Unpaced k s.machine.config) (hk : k < slotLimit) {frames : Int} {i : Nat}
    (hi : i < frames.toNat) (hs : s.machine.state = states 0) (hnot : (states 0).halted = false)
    (hrun : ∀ j < i, ((states j).run k).halted = false)
    (hhalt : ((states i).run k).halted = true) :
    ∃ f t, (runUntil host (some frames) neverStop).run s = .error f t ∧ f.isFatal = true ∧
      t.machine.state = (states i).run k := by
  obtain ⟨start, t, hstart, hconfig, hstate⟩ := run_startClock host s
  obtain ⟨f, u, hframes, hfatal, hu⟩ := run_runFrames_of_fault host hstates
    (by rw [hconfig]; exact hc) hk hi (hstate.trans hs) (by rw [hstate, hs]; exact hnot)
    (by simpa using hrun) (by simpa using hhalt) start
  refine ⟨f, u, ?_, hfatal, by rw [hu, Nat.zero_add]⟩
  rw [runUntil, run_bind_of_ok hstart, hframes]

/-- A run of frames whose slots a host cannot count is refused at its first frame. -/
theorem run_runUntil_of_limit (host : Host σ) (hc : Unpaced k s.machine.config)
    (hk : slotLimit ≤ k) {frames : Int} (hframes : 0 < frames)
    (hs : s.machine.state.halted = false) :
    ∃ t, (runUntil host (some frames) neverStop).run s = .error .outOfRange t := by
  obtain ⟨start, t, hstart, hconfig, hstate⟩ := run_startClock host s
  obtain ⟨n, hn⟩ : ∃ n, frames.toNat = n + 1 :=
    Nat.exists_eq_succ_of_ne_zero (Nat.ne_of_gt (Int.pos_iff_toNat_pos.1 hframes))
  refine ⟨t, ?_⟩
  rw [runUntil, run_bind_of_ok hstart]
  show (runFrames host neverStop frames.toNat 0 start).run t = _
  rw [hn, run_runFrames_succ, run_bind_of_error]
  exact run_frameOfRun_of_limit host (by rw [hconfig]; exact hc) hk (by rw [hstate]; exact hs) _

/-! ## Messages -/

/-- Nothing that the host was told is a critical message. -/
def Mild (s : Session σ) : Prop := ∀ e ∈ s.effects, e.isMild = true

theorem mild_of_untold (h : s.effects = #[]) : s.Mild := by
  intro e hmem
  rw [h] at hmem
  cases Array.not_mem_empty e hmem

theorem Mild.push (h : s.Mild) {e : Effect} (he : e.isMild = true) :
    ({ s with effects := s.effects.push e } : Session σ).Mild := by
  intro e' hmem
  rcases Array.mem_push.1 hmem with hmem | rfl
  · exact h e' hmem
  · exact he

theorem Mild.noted (h : s.Mild) {level : LogLevel} (message : Text) (hlevel : level ≠ .critical) :
    (s.noted level message).Mild := h.push (by simpa [Effect.isMild] using hlevel)

theorem Mild.heard (h : s.Mild) (active : Bool) : (s.heard active).Mild := by
  unfold Session.heard
  split
  · exact h
  · exact Mild.push (Mild.push h rfl) rfl

theorem Mild.withState (h : s.Mild) (state : State) : (s.withState state).Mild := h

theorem Mild.synced (h : s.Mild) : s.synced.Mild := h.heard _

theorem Mild.restarted (h : s.Mild) (host : Host σ) (state : State) :
    (s.restarted host state).Mild := by
  show (Session.noted (Session.heard _ false) .info "Machine reset").Mild
  refine Mild.noted (Mild.heard ?_ false) _ (by decide)
  exact h

/-- A machine has nothing critical to say in its frames. -/
theorem frameStable_mild : FrameStable (Mild : Session σ → Prop) where
  world _ hs := hs
  clock _ _ hs := hs
  count _ hs := hs
  frame _ hs := hs.push rfl
  sleep _ hs := hs.push rfl
  ticks _ hs := (hs.withState _).synced
  slots _ hs _ := (hs.withState _).synced
  fault _ _ hs _ _ := (hs.withState _).noted _ (by decide)

end Session

end Chip8
