import Mathlib.Data.List.Chain
import Chip8.Proofs.Interleaving
import Chip8.Proofs.Operations
import Chip8.Proofs.Unpaced

/-!
# Timers and the clock

A machine reads its host's clock once for each cycle, and once for each frame of a run that is
paced. At each of these polls it lets the timers tick as often as whole ticks have passed since the
last, and remembers how many have passed since the start. As long as the counts never go down, the
ticks of all polls add up to the last count, however the polls fall, and since a timer stops at zero
it does not matter either how the ticks are shared out (`Decayed.trans`).

**`timers_follow_clock`** says this of cycles and of paced runs in which no instruction sets a
timer: at the end both timers are what they were at the start less the last count, or zero.
-/

namespace Chip8

/-- Both timers have counted down by a number, but not below zero. -/
structure Decayed (s t : State) (count : Int) : Prop where
  delay : (t.delay.toNat : Int) = max 0 (s.delay.toNat - count)
  sound : (t.sound.toNat : Int) = max 0 (s.sound.toNat - count)

namespace State

variable {s t u : State} {n : Nat}

theorem toNat_ticks (s : State) (n : Nat) :
    (s.ticks n).delay.toNat = s.delay.toNat - n ∧ (s.ticks n).sound.toNat = s.sound.toNat - n := by
  induction n generalizing s with
  | zero => exact ⟨rfl, rfl⟩
  | succ n ih =>
    obtain ⟨hdelay, hsound⟩ := ih s.tick
    have hdelay' : s.tick.delay.toNat = s.delay.toNat - 1 := countDown_toNat s.delay
    have hsound' : s.tick.sound.toNat = s.sound.toNat - 1 := countDown_toNat s.sound
    exact ⟨by rw [ticks]; omega, by rw [ticks]; omega⟩

theorem decayed_of_timers (hdelay : t.delay = s.delay) (hsound : t.sound = s.sound) :
    Decayed s t 0 :=
  ⟨by rw [hdelay]; omega, by rw [hsound]; omega⟩

/-- Slots that set no timer, and the ticks of a poll after them. -/
theorem decayed_run_ticks (h : s.Avoids n SetsTimer) (due : Int) :
    Decayed s ((s.run n).ticks (max due 0).toNat) (max due 0) := by
  obtain ⟨hdelay, hsound⟩ := timers_run h
  obtain ⟨hdelay', hsound'⟩ := toNat_ticks (s.run n) (max due 0).toNat
  rw [hdelay] at hdelay'
  rw [hsound] at hsound'
  exact ⟨by omega, by omega⟩

end State

theorem Decayed.trans {s t u : State} {m n : Int} (h : Decayed s t m) (h' : Decayed t u n)
    (hm : 0 ≤ m) (hn : 0 ≤ n) : Decayed s u (m + n) := by
  obtain ⟨hdelay, hsound⟩ := h
  obtain ⟨hdelay', hsound'⟩ := h'
  exact ⟨by omega, by omega⟩

namespace Session

variable {σ : Type} {s t u : Session σ} {host : Host σ}

/-! ## Polls -/

/-- The whole ticks from the start of the clock to now, if there is a number of them. Slots leave
the world of the host as it is, so a poll after the slots of a session counts the same. -/
def pollAt (host : Host σ) (s : Session σ) : Option Int :=
  (s.machine.clock.elapsed (host.now s.world).1).toOption

/-- The polls in sessions one after the other give these counts, none of which is less than the one
before it or than the first; and none of the slots that go with the polls sets a timer. -/
structure Polled (host : Host σ) (slots : Session σ → Nat) (first : Int) (polls : List (Session σ))
    (counts : List Int) : Prop where
  counted : polls.map (pollAt host) = counts.map some
  rising : (first :: counts).IsChain (· ≤ ·)
  avoids : ∀ v ∈ polls, v.machine.state.Avoids (slots v) SetsTimer

section Polled

variable {slots : Session σ → Nat} {first : Int} {polls : List (Session σ)} {counts : List Int}

theorem Polled.nil (h : Polled host slots first [] counts) : counts = [] :=
  List.map_eq_nil_iff.1 h.counted.symm

theorem Polled.cons (h : Polled host slots first (s :: polls) counts) :
    ∃ count rest, counts = count :: rest ∧ pollAt host s = some count ∧ first ≤ count ∧
      s.machine.state.Avoids (slots s) SetsTimer ∧ Polled host slots count polls rest := by
  obtain ⟨hcounted, hrising, havoids⟩ := h
  cases counts with
  | nil => cases hcounted
  | cons count rest =>
    obtain ⟨hcount, hrest⟩ := List.cons_eq_cons.1 hcounted
    obtain ⟨hfirst, hrising⟩ := List.isChain_cons_cons.1 hrising
    exact ⟨count, rest, rfl, hcount, hfirst, havoids s List.mem_cons_self, hrest, hrising,
      fun v hv => havoids v (List.mem_cons_of_mem s hv)⟩

end Polled

/-- The timers have ticked as often as the clock has, which now has counted so many ticks. -/
structure Follows (s t : Session σ) (count : Int) : Prop where
  le : s.machine.clock.counted ≤ count
  clock : t.machine.clock = { s.machine.clock with counted := count }
  timers : Decayed s.machine.state t.machine.state (count - s.machine.clock.counted)

theorem Follows.counted {count : Int} (h : Follows s t count) : t.machine.clock.counted = count :=
  congrArg TickClock.counted h.clock

theorem Follows.trans {count count' : Int} (h : Follows s t count) (h' : Follows t u count') :
    Follows s u count' := by
  have hcounted := h.counted
  obtain ⟨hle, hclock, htimers⟩ := h
  obtain ⟨hle', hclock', htimers'⟩ := h'
  rw [hcounted] at hle' htimers'
  refine ⟨Int.le_trans hle hle', by rw [hclock', hclock], ?_⟩
  have hboth := htimers.trans htimers' (by omega) (by omega)
  rwa [show count - s.machine.clock.counted + (count' - count) =
    count' - s.machine.clock.counted by omega] at hboth

theorem follows_of_unticked (hclock : t.machine.clock = s.machine.clock)
    (hdelay : t.machine.state.delay = s.machine.state.delay)
    (hsound : t.machine.state.sound = s.machine.state.sound) :
    Follows s t s.machine.clock.counted := by
  refine ⟨Int.le_refl _, hclock, ?_⟩
  rw [Int.sub_self]
  exact State.decayed_of_timers hdelay hsound

/-- The slots of a poll and its ticks. -/
theorem follows_of_poll {n : Nat} {count : Int} (hcount : s.machine.clock.counted ≤ count)
    (havoids : s.machine.state.Avoids n SetsTimer)
    (hclock : t.machine.clock = { s.machine.clock with counted := count })
    (hstate : t.machine.state = (s.machine.state.run n).ticks
      (max (count - s.machine.clock.counted) 0).toNat) : Follows s t count := by
  have hdecayed := State.decayed_run_ticks havoids (count - s.machine.clock.counted)
  refine ⟨hcount, hclock, ?_⟩
  rw [← hstate] at hdecayed
  rwa [Int.max_eq_left (by omega)] at hdecayed

/-! ## Ends with a value -/

theorem runSlots_eq_ok {n : Nat} (h : (runSlots n).run s = .ok () t) :
    t = (s.withState (s.machine.state.run n)).synced := by
  have hend : SlotsEnd n s _ := slotsEnd_runSlots n s
  rw [h] at hend
  cases hend
  rfl

theorem world_synced : s.synced.world = s.world := by
  rw [synced, heard]
  split <;> rfl

theorem due_of_pollAt {count : Int} (hcount : pollAt host s = some count) :
    s.machine.clock.due (host.now s.world).1 = .ok (s.machine.clock.advance count) := by
  rw [pollAt] at hcount
  cases helapsed : s.machine.clock.elapsed (host.now s.world).1 with
  | error f =>
    rw [helapsed] at hcount
    cases hcount
  | ok elapsed =>
    rw [helapsed] at hcount
    obtain rfl := Option.some.inj hcount
    exact TickClock.due_of_elapsed helapsed

theorem dueTicks_eq_ok {due count : Int} (hcount : pollAt host s = some count)
    (h : (dueTicks host).run s = .ok due t) :
    due = max (count - s.machine.clock.counted) 0 ∧
      t.machine = { s.machine with clock := { s.machine.clock with counted := count } } := by
  obtain ⟨rfl, rfl⟩ :=
    EStateM.Result.ok.inj ((run_dueTicks (due_of_pollAt hcount)).symm.trans h)
  exact ⟨rfl, rfl⟩

/-- The session after a frame was counted and its picture shown. -/
def presented (host : Host σ) (s : Session σ) : Session σ where
  machine := { s.machine with frameCount := s.machine.frameCount + 1 }
  world := host.present s.machine.state.display s.world
  effects := s.effects.push (.frame s.machine.state.display)

theorem eq_presented_of_runFrame {ticks : Int} (h : (runFrame host ticks).run s = .ok () t) :
    ∃ u, u = (s.withState (s.machine.state.run s.machine.config.slotsPerFrame)).synced ∧
      t = presented host (u.withState (u.machine.state.ticks ticks.toNat)).synced := by
  rw [runFrame, run_bind_of_ok run_getMachine] at h
  obtain ⟨_, u, hslots, hrest⟩ := run_bind_eq_ok h
  rw [run_bind_of_ok (run_tick ticks), run_bind_of_ok (run_update _), run_present] at hrest
  obtain ⟨-, rfl⟩ := EStateM.Result.ok.inj hrest
  exact ⟨u, runSlots_eq_ok hslots, rfl⟩

theorem runFrame_eq_ok {ticks : Int} (h : (runFrame host ticks).run s = .ok () t) :
    t.machine.clock = s.machine.clock ∧ t.machine.state =
      (s.machine.state.run s.machine.config.slotsPerFrame).ticks ticks.toNat := by
  obtain ⟨u, rfl, rfl⟩ := eq_presented_of_runFrame h
  simp only [presented, machine_synced, withState, and_self]

/-! ## Cycles -/

theorem follows_cycle {count : Int} (hcount : pollAt host s = some count)
    (hle : s.machine.clock.counted ≤ count) (havoids : s.machine.state.Avoids 1 SetsTimer)
    (h : (cycle host).run s = .ok () t) : Follows s t count := by
  obtain ⟨_, v, hslots, hrest⟩ := run_bind_eq_ok h
  obtain ⟨due, u, hdue, htick⟩ := run_bind_eq_ok hrest
  obtain rfl := runSlots_eq_ok hslots
  have hpoll : pollAt host (s.withState (s.machine.state.run 1)).synced = some count := by
    rw [pollAt, world_synced, machine_synced]
    exact hcount
  obtain ⟨rfl, hmachine⟩ := dueTicks_eq_ok hpoll hdue
  rw [run_tick] at htick
  obtain ⟨-, rfl⟩ := EStateM.Result.ok.inj htick
  refine follows_of_poll hle havoids ?_ ?_
  · simp only [machine_synced, withState, hmachine]
  · simp only [machine_synced, withState, hmachine]

theorem follows_input {op : Operation σ} (hop : op.IsInput)
    (h : (op.action host).run s = .ok () t) : Follows s t s.machine.clock.counted := by
  have hkeeps : Keeps (fun t => Follows s t s.machine.clock.counted) (op.action host) :=
    Keeps.input (fun _ _ ht => ⟨ht.le, ht.clock, ht.timers.delay, ht.timers.sound⟩) hop
  exact hkeeps.of_run_eq_ok (follows_of_unticked rfl rfl rfl) h

/-- Operations one after the other; the first that fails ends them. -/
def perform (host : Host σ) : List (Operation σ) → Action σ Unit
  | [] => pure ()
  | op :: ops => do
    op.action host
    perform host ops

/-- The sessions in which the cycles among operations begin. -/
def cycleStarts (host : Host σ) : Session σ → List (Operation σ) → List (Session σ)
  | _, [] => []
  | s, .cycle :: ops => s :: cycleStarts host (left ((cycle host).run s)) ops
  | s, op :: ops => cycleStarts host (left ((op.action host).run s)) ops

theorem cycleStarts_of_input {op : Operation σ} (hop : op.IsInput)
    (h : (op.action host).run s = .ok () t) (ops : List (Operation σ)) :
    cycleStarts host s (op :: ops) = cycleStarts host t ops := by
  cases op with
  | press key | release key | setKeys keys =>
    exact congrArg (fun r => cycleStarts host (left r) ops) h
  | _ => exact hop.elim

theorem follows_perform {ops : List (Operation σ)} {counts : List Int}
    (hops : ∀ op ∈ ops, op = .cycle ∨ op.IsInput) (h : (perform host ops).run s = .ok () t)
    (hpolled : Polled host (fun _ => 1) s.machine.clock.counted (cycleStarts host s ops) counts) :
    Follows s t (counts.getLastD s.machine.clock.counted) := by
  induction ops generalizing s counts with
  | nil =>
    obtain ⟨-, rfl⟩ := EStateM.Result.ok.inj h
    obtain rfl := hpolled.nil
    exact follows_of_unticked rfl rfl rfl
  | cons op ops ih =>
    obtain ⟨_, v, hop, hrest⟩ := run_bind_eq_ok h
    have hops' : ∀ op ∈ ops, op = .cycle ∨ op.IsInput :=
      fun op hop => hops op (List.mem_cons_of_mem _ hop)
    rcases hops op List.mem_cons_self with rfl | hinput
    · have hcycle : (cycle host).run s = .ok () v := hop
      rw [cycleStarts, hcycle] at hpolled
      obtain ⟨count, rest, rfl, hcount, hle, havoids, hpolled⟩ := hpolled.cons
      have hfirst := follows_cycle hcount hle havoids hcycle
      rw [← hfirst.counted] at hpolled
      have hboth := hfirst.trans (ih hops' hrest hpolled)
      rwa [hfirst.counted, ← List.getLastD_cons] at hboth
    · have hfirst := follows_input hinput hop
      rw [cycleStarts_of_input hinput hop, ← hfirst.counted] at hpolled
      have hboth := hfirst.trans (ih hops' hrest hpolled)
      rwa [hfirst.counted] at hboth

/-! ## Paced runs -/

/-- The session after its host was asked whether a run is to stop. -/
def asked (stop : StopRule σ) (s : Session σ) : Session σ :=
  { s with world := (stop s.machine s.world).2 }

/-- The sessions in which the frames of a run begin, each after its host was asked. -/
def frameStarts (host : Host σ) (stop : StopRule σ) : Nat → Float → Session σ → List (Session σ)
  | 0, _, _ => []
  | n + 1, last, s =>
    if (stop s.machine s.world).1 then []
    else s.asked stop :: frameStarts host stop n (last + framePeriod)
      (left ((frameOfRun host (last + framePeriod)).run (s.asked stop)))

/-- The sessions in which the frames of a run begin that starts in a session. -/
def runStarts (host : Host σ) (frames : Option Int) (stop : StopRule σ) (s : Session σ) :
    List (Session σ) :=
  match (startClock host).run s with
  | .ok start t =>
    frameStarts host stop (match frames with | some n => n.toNat | none => endless) start t
  | .error _ _ => []

theorem follows_frameOfRun {count : Int} {next : Float} (hc : s.machine.config.throttle = true)
    (hcount : pollAt host s = some count) (hle : s.machine.clock.counted ≤ count)
    (havoids : s.machine.state.Avoids s.machine.config.slotsPerFrame SetsTimer)
    (h : (frameOfRun host next).run s = .ok () t) : Follows s t count := by
  rw [frameOfRun, run_bind_of_ok run_getMachine, hc, if_pos rfl] at h
  obtain ⟨_, u, hclocked, hsleep⟩ := run_bind_eq_ok h
  obtain ⟨due, v, hdue, hframe⟩ := run_bind_eq_ok hclocked
  obtain ⟨rfl, hmachine⟩ := dueTicks_eq_ok hcount hdue
  obtain ⟨hclock, hstate⟩ := runFrame_eq_ok hframe
  rw [hmachine] at hclock hstate
  have hu : Follows s u count := follows_of_poll hle havoids hclock hstate
  have hkeeps : Keeps (fun t => Follows s t count) (sleepUntil host next) :=
    Keeps.bind (fun _ ht => ⟨ht.le, ht.clock, ht.timers⟩) fun _ =>
      .ite (fun _ ht => ⟨ht.le, ht.clock, ht.timers⟩) (.pure ())
  exact hkeeps.of_run_eq_ok hu hsleep

theorem follows_runFrames {stop : StopRule σ} {n done k : Nat} {last : Float} {counts : List Int}
    (hc : s.machine.config.throttle = true)
    (h : (runFrames host stop n done last).run s = .ok k t)
    (hpolled : Polled host (fun v => v.machine.config.slotsPerFrame) s.machine.clock.counted
      (frameStarts host stop n last s) counts) :
    Follows s t (counts.getLastD s.machine.clock.counted) := by
  induction n generalizing s done last counts with
  | zero =>
    obtain ⟨-, rfl⟩ := EStateM.Result.ok.inj h
    obtain rfl := hpolled.nil
    exact follows_of_unticked rfl rfl rfl
  | succ n ih =>
    have hstops : (stops stop).run s = .ok (stop s.machine s.world).1 (s.asked stop) :=
      run_stops stop
    rw [runFrames, run_bind_of_ok hstops] at h
    rw [frameStarts] at hpolled
    cases hanswer : (stop s.machine s.world).1 with
    | true =>
      rw [hanswer] at h hpolled
      obtain ⟨-, rfl⟩ := EStateM.Result.ok.inj h
      obtain rfl := Polled.nil hpolled
      exact follows_of_unticked rfl rfl rfl
    | false =>
      rw [hanswer, if_neg (by decide)] at h hpolled
      obtain ⟨_, v, hframe, hrest⟩ := run_bind_eq_ok h
      rw [hframe] at hpolled
      obtain ⟨count, rest, rfl, hcount, hle, havoids, hpolled⟩ := hpolled.cons
      have hframed : Follows (s.asked stop) v count :=
        follows_frameOfRun hc hcount hle havoids hframe
      have hfirst : Follows s v count := ⟨hle, hframed.clock, hframed.timers⟩
      have hasked : SameMake s.machine (s.asked stop).machine := .refl s.machine
      have hmake := (((frameStable_sameMake s.machine).runSteps stop).frameOfRun _).of_run_eq_ok
        hasked hframe
      rw [← hfirst.counted] at hpolled
      have hboth := hfirst.trans (ih (by rw [hmake.config, hc]) hrest hpolled)
      rwa [hfirst.counted, ← List.getLastD_cons] at hboth

theorem follows_runUntil {stop : StopRule σ} {frames : Option Int} {n : Nat} {counts : List Int}
    (hc : s.machine.config.throttle = true) (h : (runUntil host frames stop).run s = .ok n t)
    (hpolled : Polled host (fun v => v.machine.config.slotsPerFrame) 0
      (runStarts host frames stop s) counts) :
    Decayed s.machine.state t.machine.state (counts.getLastD 0) := by
  obtain ⟨start, v, hstart, hframes⟩ := run_bind_eq_ok h
  have hv : v.machine.config = s.machine.config ∧ v.machine.state = s.machine.state ∧
      v.machine.clock.counted = 0 := by
    obtain ⟨-, rfl⟩ := EStateM.Result.ok.inj hstart
    exact ⟨rfl, rfl, rfl⟩
  obtain ⟨hconfig, hstate, hcounted⟩ := hv
  unfold runStarts at hpolled
  rw [hstart] at hpolled
  have hfollows := follows_runFrames (by rw [hconfig, hc]) hframes (hcounted.symm ▸ hpolled)
  have htimers := hfollows.timers
  rwa [hcounted, hstate, Int.sub_zero] at htimers

/-! ## Timers follow the clock -/

/-- **Timers follow the clock.** Take cycles, with keys handed over between them as the host likes,
since the clock was last set, or a run that is paced; and let all of them return. If no instruction
meanwhile sets a timer, and the clock never goes down from one poll to the next, then both timers
have counted down by the ticks that had passed at the last poll, but not below zero. -/
theorem timers_follow_clock (host : Host σ) :
    (∀ (s t : Session σ) (ops : List (Operation σ)) (counts : List Int),
      (∀ op ∈ ops, op = .cycle ∨ op.IsInput) → s.machine.clock.counted = 0 →
      (perform host ops).run s = .ok () t →
      Polled host (fun _ => 1) 0 (cycleStarts host s ops) counts →
        Decayed s.machine.state t.machine.state (counts.getLastD 0)) ∧
    ∀ (s t : Session σ) (frames : Option Int) (stop : StopRule σ) (n : Nat) (counts : List Int),
      s.machine.config.throttle = true → (runUntil host frames stop).run s = .ok n t →
      Polled host (fun v => v.machine.config.slotsPerFrame) 0 (runStarts host frames stop s)
          counts →
        Decayed s.machine.state t.machine.state (counts.getLastD 0) := by
  refine ⟨fun s t ops counts hops hcounted h hpolled => ?_,
    fun s t frames stop n counts hc h hpolled => follows_runUntil hc h hpolled⟩
  have htimers := (follows_perform hops h (hcounted.symm ▸ hpolled)).timers
  rwa [hcounted, Int.sub_zero] at htimers

/-- A host whose clock reads what a list says, and zero behind its end. -/
def scriptedHost : Host (List Float) where
  now
    | [] => (0, [])
    | time :: times => (time, times)
  sleep _ times := times
  present _ times := times

/-- A machine that waits for a key, with both timers running. -/
def waitingTimers : State :=
  { State.powerOn .keyed ⟨0, 0⟩ 0x200 with wait := ⟨true, 0, .none⟩, delay := 9, sound := 2 }

/-- The machine with one slot in a frame, and a host with these readings of its clock. -/
def scripted (times : List Float) : Session (List Float) where
  machine := (still { speed := .int 60 } none waitingTimers).machine
  world := times
  effects := #[]

/-- The clock is read after each of two cycles. -/
def beforeCycles : Session (List Float) := scripted [0.02, 0.05]

/-- The clock is read twice at the start of a run, and before and after each of its two frames. -/
def beforeRun : Session (List Float) := scripted [0, 0, 0.02, 0.03, 0.05, 0.06]

/-- Two cycles, with a key let up between them. -/
def twoCycles : List (Operation (List Float)) := [.cycle, .release (.int 5), .cycle]

theorem avoids_of_waiting {s : State} {n : Nat} (h : n = 1 ∧ s.wait.pending = true)
    {Kind : Word → Prop} : s.Avoids n Kind := by
  obtain ⟨rfl, hwait⟩ := h
  refine State.avoids_succ (fun a w hw => ?_) State.avoids_zero
  obtain ⟨hrun, -⟩ := State.executed?_eq_some_iff.1 hw
  rw [hrun.not_waiting] at hwait
  cases hwait

theorem eq_ok_of_isNone {α : Type} {r : EStateM.Result Failure (Session σ) α}
    (h : (failure? r).isNone = true) : ∃ a t, r = .ok a t := by
  cases r with
  | ok a t => exact ⟨a, t, rfl⟩
  | error f t => cases h

/-- One tick and three ticks have passed at the two polls, and the machine waits all the while. -/
theorem timers_follow_clock_waiting :
    (∃ t, (perform scriptedHost twoCycles).run beforeCycles = .ok () t ∧
      Polled scriptedHost (fun _ => 1) 0 (cycleStarts scriptedHost beforeCycles twoCycles) [1, 3] ∧
      Decayed waitingTimers t.machine.state 3) ∧
    ∃ n t, (runUntil scriptedHost (some 2) neverStop).run beforeRun = .ok n t ∧
      Polled scriptedHost (fun v => v.machine.config.slotsPerFrame) 0
        (runStarts scriptedHost (some 2) neverStop beforeRun) [1, 3] ∧
      Decayed waitingTimers t.machine.state 3 := by
  obtain ⟨hcycles, hrun⟩ := timers_follow_clock scriptedHost
  constructor
  · have hwaiting : ∀ v ∈ cycleStarts scriptedHost beforeCycles twoCycles,
        1 = 1 ∧ v.machine.state.wait.pending = true := by decide +kernel
    have hpolled : Polled scriptedHost (fun _ => 1) 0
        (cycleStarts scriptedHost beforeCycles twoCycles) [1, 3] :=
      ⟨by decide +kernel, by decide, fun v hv => avoids_of_waiting (hwaiting v hv)⟩
    have hreturns : (failure? ((perform scriptedHost twoCycles).run beforeCycles)).isNone =
        true := by decide +kernel
    obtain ⟨_, t, ht⟩ := eq_ok_of_isNone hreturns
    have hops : ∀ op ∈ twoCycles, op = .cycle ∨ op.IsInput := by
      simp [twoCycles, Operation.IsInput]
    exact ⟨t, ht, hpolled, hcycles beforeCycles t twoCycles [1, 3] hops rfl ht hpolled⟩
  · have hwaiting : ∀ v ∈ runStarts scriptedHost (some 2) neverStop beforeRun,
        v.machine.config.slotsPerFrame = 1 ∧ v.machine.state.wait.pending = true := by
      decide +kernel
    have hpolled : Polled scriptedHost (fun v => v.machine.config.slotsPerFrame) 0
        (runStarts scriptedHost (some 2) neverStop beforeRun) [1, 3] :=
      ⟨by decide +kernel, by decide, fun v hv => avoids_of_waiting (hwaiting v hv)⟩
    have hreturns : (failure? ((runUntil scriptedHost (some 2) neverStop).run beforeRun)).isNone =
        true := by decide +kernel
    obtain ⟨n, t, ht⟩ := eq_ok_of_isNone hreturns
    exact ⟨n, t, ht, hpolled, hrun beforeRun t (some 2) neverStop n [1, 3] rfl ht hpolled⟩

end Session

end Chip8
