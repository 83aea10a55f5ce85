import Chip8.Proofs.Action

/-!
# What the frames of a run keep

A run of frames is made up of a few actions: it starts the clock, asks whether to stop, counts the
ticks that are due, goes through frames and sleeps. A class of actions that goes through sequences
and has all of these (`RunSteps`) has the run as well, paced or not.

A property of sessions that whatever happens in a frame keeps is `FrameStable`, and
`FrameStable.keeps_runUntil` says that a whole run keeps it then, however it ends.
-/

namespace Chip8

/-- A reading of the clock does not change how fast it ticks. -/
theorem TickClock.frequency_of_due {c : TickClock} {now : Float} {due : Int × TickClock}
    (h : c.due now = .ok due) : due.2.frequency = c.frequency := by
  obtain ⟨elapsed, -, hadvance⟩ := bind_eq_ok h
  obtain rfl := Except.ok.inj hadvance
  rfl

namespace Session

variable {σ : Type} {P : Session σ → Prop} {host : Host σ}

/-! ## The steps of a run -/

/-- A class of actions that goes through sequences, and has everything that a run is made up of. -/
structure RunSteps (host : Host σ) (stop : StopRule σ) (C : ∀ {α : Type}, Action σ α → Prop) :
    Prop where
  pure {α : Type} (a : α) : C (pure a : Action σ α)
  bind {α β : Type} {a : Action σ α} {f : α → Action σ β} :
    C a → (∀ x, C (f x)) → C (a >>= f)
  look : C getMachine
  start : C (startClock host)
  stops : C (stops stop)
  due : C (dueTicks host)
  frame (ticks : Int) : C (runFrame host ticks)
  pause (time : Float) : C (sleepUntil host time)

namespace RunSteps

variable {stop : StopRule σ} {C : ∀ {α : Type}, Action σ α → Prop} (h : RunSteps host stop C)

include h

theorem frameOfRun (next : Float) : C (frameOfRun host next) := by
  have hclocked : C (clockedFrame host) := h.bind h.due fun due => h.frame due
  refine h.bind h.look fun m => ?_
  split
  · exact h.bind hclocked fun _ => h.pause next
  · exact h.frame 1

theorem runFrames (n done : Nat) (last : Float) : C (runFrames host stop n done last) := by
  induction n generalizing done last with
  | zero => exact h.pure done
  | succ n ih =>
    refine h.bind h.stops fun answer => ?_
    split
    · exact h.pure done
    · exact h.bind (h.frameOfRun _) fun _ => ih _ _

/-- A run is in the class that has its steps. -/
theorem runUntil (frames : Option Int) : C (runUntil host frames stop) :=
  h.bind h.start fun _ => h.runFrames _ _ _

end RunSteps

/-! ## Properties that frames keep -/

theorem Keeps.dueTicks (hworld : ∀ {s : Session σ} (world : σ), P s → P { s with world })
    (hclock : ∀ {s : Session σ} (clock : TickClock), clock.frequency = s.machine.clock.frequency →
      P s → P { s with machine := { s.machine with clock } }) : Keeps P (dueTicks host) := by
  refine Keeps.bind (fun _ hs => hworld _ hs) fun time s hs => ?_
  cases hdue : s.machine.clock.due time with
  | error f => simpa [hdue, left] using hs
  | ok due =>
    simp only [EStateM.run_bind, run_getMachine, hdue, run_lift_ok, run_update]
    exact hclock _ (TickClock.frequency_of_due hdue) hs

/-- A property of sessions that whatever happens in a frame keeps. -/
structure FrameStable (P : Session σ → Prop) : Prop where
  world {s : Session σ} (world : σ) : P s → P { s with world }
  clock {s : Session σ} (clock : TickClock) : clock.frequency = s.machine.clock.frequency →
    P s → P { s with machine := { s.machine with clock } }
  count {s : Session σ} (frameCount : Nat) :
    P s → P { s with machine := { s.machine with frameCount } }
  frame {s : Session σ} (picture : Display) :
    P s → P { s with effects := s.effects.push (.frame picture) }
  sleep {s : Session σ} (seconds : Float) :
    P s → P { s with effects := s.effects.push (.sleep seconds) }
  ticks {s : Session σ} (n : Nat) : P s → P (s.withState (s.machine.state.ticks n)).synced
  slots {s : Session σ} (n : Nat) : P s → (s.machine.state.run n).halted = false →
    P (s.withState (s.machine.state.run n)).synced
  fault {s : Session σ} (n : Nat) (f : Failure) : P s → s.machine.state.halted = false →
    (s.machine.state.run n).halted = true → P (s.stopped (s.machine.state.run n) f)

namespace FrameStable

variable (h : FrameStable P)

include h

theorem keeps_now : Keeps P (now host) := fun _ hs => h.world _ hs

theorem keeps_startClock : Keeps P (startClock host) :=
  h.keeps_now.bind fun _ => h.keeps_now.bind fun _ =>
    Keeps.bind (fun _ hs => h.clock _ rfl hs) fun _ => .pure _

theorem keeps_dueTicks : Keeps P (dueTicks host) := .dueTicks h.world h.clock

theorem keeps_sleepUntil (time : Float) : Keeps P (sleepUntil host time) :=
  h.keeps_now.bind fun _ => .ite (fun _ hs => h.world _ (h.sleep _ hs)) (.pure ())

theorem keeps_slots (n : Nat) : Keeps P (runSlots n) :=
  Keeps.runSlots (fun _ f hs => h.fault n f hs) fun _ hs => h.slots n hs

theorem keeps_tick (count : Int) : Keeps P (tick count) := by
  intro s hs
  rw [run_tick]
  exact h.ticks _ hs

theorem keeps_runFrame (ticks : Int) : Keeps P (runFrame host ticks) := by
  refine Keeps.bind (fun _ hs => hs) fun m => (h.keeps_slots _).bind fun _ => ?_
  refine (h.keeps_tick ticks).bind fun _ => Keeps.bind (fun _ hs => h.count _ hs) fun _ s hs => ?_
  rw [run_present]
  exact h.world _ (h.frame _ hs)

theorem runSteps (stop : StopRule σ) : RunSteps host stop fun a => Keeps P a where
  pure := .pure
  bind := .bind
  look _ hs := hs
  start := h.keeps_startClock
  stops _ hs := h.world _ hs
  due := h.keeps_dueTicks
  frame := h.keeps_runFrame
  pause := h.keeps_sleepUntil

/-- A run keeps what its frames keep. -/
theorem keeps_runUntil (frames : Option Int) (stop : StopRule σ) :
    Keeps P (runUntil host frames stop) := (h.runSteps stop).runUntil frames

/-- A cycle keeps it too: it goes through a single slot, and the ticks come after it. -/
theorem keeps_cycle : Keeps P (cycle host) :=
  (h.keeps_slots 1).bind fun _ => h.keeps_dueTicks.bind fun due => h.keeps_tick due

end FrameStable

/-- Two machines have the same settings, the same source, and clocks that tick equally fast. -/
structure SameMake (m m' : Machine) : Prop where
  config : m'.config = m.config
  source : m'.source = m.source
  frequency : m'.clock.frequency = m.clock.frequency

/-- Frames leave the make of a machine as it is. -/
theorem frameStable_sameMake (m : Machine) :
    FrameStable fun s : Session σ => SameMake m s.machine where
  world _ hs := hs
  clock _ hclock hs := ⟨hs.config, hs.source, hclock.trans hs.frequency⟩
  count _ hs := ⟨hs.config, hs.source, hs.frequency⟩
  frame _ hs := hs
  sleep _ hs := hs
  ticks _ hs := by
    rw [synced, machine_heard]
    exact ⟨hs.config, hs.source, hs.frequency⟩
  slots _ hs _ := by
    rw [synced, machine_heard]
    exact ⟨hs.config, hs.source, hs.frequency⟩
  fault _ _ hs _ _ := ⟨hs.config, hs.source, hs.frequency⟩

theorem SameMake.refl (m : Machine) : SameMake m m := ⟨rfl, rfl, rfl⟩

end Session

end Chip8
