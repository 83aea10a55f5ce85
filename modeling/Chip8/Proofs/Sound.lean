import Mathlib.Data.List.Chain
import Chip8.Proofs.Atomicity
import Chip8.Proofs.Operations
import Chip8.Proofs.Stable

/-!
# Reports of the sound signal

A machine tells its host of the sound signal when it is not as it was last reported. What matters
about a session for this is its `Signal`: the reports so far, the signal that the machine remembers
to have reported, the signal as it is, and whether the machine has halted. Most actions leave all of
it alone (`Neutral`), and the others change it in one of four ways.

**`reports_follow_signal`** says that whatever a host does with a machine, the reports alternate and
the last of them is the signal as it is, except where a frame has met a fault: the machine then
halts without a report, and a change of the signal before the fault is not made known until the next
timer tick (`fault_hides_sound`).
-/

namespace Chip8

/-! ## Signals -/

/-- The sound signal that a host is told. -/
def Effect.sound? : Effect → Option Bool
  | .sound active => some active
  | _ => none

/-- What a session has to do with the sound signal. -/
structure Signal where
  reports : List Bool
  reported : Bool
  active : Bool
  halted : Bool

namespace Signal

variable {g : Signal}

/-- Each report differs from the one before it, and the first is that the signal is on. -/
def Alternates (g : Signal) : Prop := (false :: g.reports).IsChain (· ≠ ·)

/-- The signal that was reported last; it counts as off before the first report. -/
def last (g : Signal) : Bool := g.reports.getLastD false

/-- The last report is the signal as it is. -/
def InStep (g : Signal) : Prop := g.last = g.active

instance : Decidable g.Alternates :=
  inferInstanceAs (Decidable ((false :: g.reports).IsChain (· ≠ ·)))

instance : Decidable g.InStep := inferInstanceAs (Decidable (g.last = g.active))

/-- The reports alternate, and the machine remembers the last. -/
def Recorded (g : Signal) : Prop := g.Alternates ∧ g.last = g.reported

/-- The host is told of the signal if it is not as it was last reported. -/
def sync (g : Signal) : Signal :=
  if g.active = g.reported then g
  else { g with reports := g.reports ++ [g.active], reported := g.active }

theorem Recorded.sync (h : g.Recorded) : g.sync.Recorded := by
  unfold Signal.sync
  split
  · exact h
  · rename_i hne
    have hnext : ¬g.last = g.active := fun hlast => hne (hlast.symm.trans h.2)
    refine ⟨?_, by simp [last]⟩
    refine List.isChain_append.2 ⟨h.1, .singleton _, fun x hx y hy => ?_⟩
    obtain rfl : g.last = x := by simpa [List.getLast?_cons, last] using hx
    obtain rfl : g.active = y := by simpa using hy
    exact hnext

theorem Recorded.inStep_sync (h : g.Recorded) : g.sync.InStep := by
  unfold Signal.sync
  split
  · rename_i heq
    exact h.2.trans heq.symm
  · simp [InStep, last]

theorem halted_sync (g : Signal) : g.sync.halted = g.halted := by
  unfold Signal.sync
  split <;> rfl

/-- The signal has been reported as it is. -/
def Reported (g : Signal) : Prop := g.Recorded ∧ g.InStep

/-- The signal has been reported as it is, unless the machine has halted since. -/
def Coherent (g : Signal) : Prop := g.Recorded ∧ (g.halted = false → g.InStep)

theorem Recorded.reported_sync (h : g.Recorded) : g.sync.Reported := ⟨h.sync, h.inStep_sync⟩

theorem Reported.coherent (h : g.Reported) : g.Coherent := ⟨h.1, fun _ => h.2⟩

theorem Recorded.coherent_sync (h : g.Recorded) : g.sync.Coherent := h.reported_sync.coherent

theorem Coherent.reported (h : g.Coherent) (hrun : g.halted = false) : g.Reported :=
  ⟨h.1, h.2 hrun⟩

end Signal

namespace Session

variable {σ α β : Type} {s : Session σ} {host : Host σ}

/-- What the session has to do with the sound signal. -/
def signal (s : Session σ) : Signal where
  reports := s.effects.toList.filterMap Effect.sound?
  reported := s.machine.soundReported
  active := s.machine.state.soundActive
  halted := s.machine.state.halted

theorem signal_push {e : Effect} (h : e.sound? = none) :
    ({ s with effects := s.effects.push e } : Session σ).signal = s.signal := by
  simp only [signal, Array.toList_push, List.filterMap_append, List.filterMap_cons, h,
    List.filterMap_nil, List.append_nil]

theorem signal_noted (level : LogLevel) (message : Text) :
    (s.noted level message).signal = s.signal := signal_push rfl

theorem signal_withState (state : State) : (s.withState state).signal =
    { s.signal with active := state.soundActive, halted := state.halted } := rfl

theorem signal_heard {active : Bool} (h : s.machine.state.soundActive = active) :
    (s.heard active).signal = s.signal.sync := by
  subst h
  unfold heard Signal.sync
  split <;> simp_all [signal, List.filterMap_cons, Effect.sound?]

theorem signal_synced : s.synced.signal = s.signal.sync := signal_heard rfl

/-! ## Actions that leave the signal alone -/

/-- An action has nothing to do with the sound signal. -/
def Neutral (a : Action σ α) : Prop := ∀ g, Keeps (fun s => s.signal = g) a

theorem neutral_of_signal {a : Action σ α} (h : ∀ s, (left (a.run s)).signal = s.signal) :
    Neutral a := fun _ s hs => (h s).trans hs

theorem Neutral.keeps {Q : Signal → Prop} {a : Action σ α} (h : Neutral a) :
    Keeps (fun s => Q s.signal) a := by
  intro s hs
  rw [h s.signal s rfl]
  exact hs

theorem Neutral.bind {a : Action σ α} {f : α → Action σ β} (ha : Neutral a)
    (hf : ∀ x, Neutral (f x)) : Neutral (a >>= f) :=
  fun g => (ha g).bind fun x => hf x g

theorem neutral_getMachine : Neutral (getMachine : Action σ Machine) :=
  neutral_of_signal fun _ => rfl

theorem neutral_update {f : Machine → Machine}
    (h : ∀ s : Session σ, ({ s with machine := f s.machine } : Session σ).signal = s.signal) :
    Neutral (update f : Action σ Unit) := neutral_of_signal h

theorem neutral_lift (x : Except Failure α) : Neutral (lift x : Action σ α) := by
  cases x <;> exact neutral_of_signal fun _ => rfl

theorem neutral_log (level : LogLevel) (message : Text) :
    Neutral (log level message : Action σ Unit) :=
  neutral_of_signal fun _ => signal_noted level message

theorem neutral_now (host : Host σ) : Neutral (now host) := neutral_of_signal fun _ => rfl

theorem neutral_dueTicks (host : Host σ) : Neutral (dueTicks host) :=
  (neutral_now host).bind fun _ => neutral_getMachine.bind fun _ => (neutral_lift _).bind fun _ =>
    (neutral_update fun _ => rfl).bind fun _ _ => .pure _

theorem neutral_setKeypad (f : Keypad → Keypad) : Neutral (setKeypad f : Action σ Unit) :=
  neutral_update fun _ => rfl

/-! ## Actions that follow the signal -/

theorem signal_ticked (n : Nat) : (s.withState (s.machine.state.ticks n)).synced.signal =
    Signal.sync { s.signal with active := (s.machine.state.ticks n).soundActive } := by
  have hhalted : (s.machine.state.ticks n).halted = s.machine.state.halted := by
    rw [State.halted, State.status_ticks, State.halted]
  rw [signal_synced, signal_withState, hhalted]
  rfl

theorem signal_ran {n : Nat} (h : (s.machine.state.run n).halted = false) :
    (s.withState (s.machine.state.run n)).synced.signal =
      Signal.sync { s.signal with active := (s.machine.state.run n).soundActive } := by
  rw [signal_synced, signal_withState, h, ← State.not_halted_of_run h]
  rfl

theorem signal_stopped {state : State} (h : state.halted = true) (f : Failure) :
    (s.stopped state f).signal =
      { s.signal with active := state.soundActive, halted := true } := by
  rw [stopped, signal_noted, signal_withState, h]

theorem signal_restarted {state : State} (h : state.soundActive = false) :
    (s.restarted host state).signal =
      Signal.sync { s.signal with active := false, halted := state.halted } := by
  rw [restarted, signal_noted, signal_heard h]
  simp [signal, h]

section

variable {Q : Signal → Prop} (hsync : ∀ g active, Q g → Q (Signal.sync { g with active }))

include hsync

theorem keeps_tick (count : Int) : Keeps (fun s : Session σ => Q s.signal) (tick count) := by
  intro s hs
  rw [run_tick, left, signal_ticked]
  exact hsync _ _ hs

/-- A fault in a single slot leaves the signal as it is. -/
theorem keeps_cycle (hfault : ∀ g, Q g → g.halted = false → Q { g with halted := true }) :
    Keeps (fun s => Q s.signal) (cycle host) := by
  refine (Keeps.runSlots (fun s f hs hrun hhalt => ?_) fun s hs hrun => ?_).bind fun _ =>
    (neutral_dueTicks host).keeps.bind fun due => keeps_tick hsync due
  · have hsound : (s.machine.state.run 1).soundActive = s.machine.state.soundActive := by
      show s.machine.state.step.soundActive = _
      rw [State.step_eq_withStatus hhalt]
      rfl
    rw [signal_stopped hhalt, hsound]
    exact hfault _ hs hrun
  · rw [signal_ran hrun]
    exact hsync _ _ hs

/-- In a frame the signal may have changed before a fault. -/
theorem frameStable_signal
    (hfault : ∀ g active, Q g → g.halted = false → Q { g with active, halted := true }) :
    FrameStable fun s : Session σ => Q s.signal where
  world _ hs := hs
  clock _ _ hs := hs
  count _ hs := hs
  frame _ hs := by rwa [signal_push rfl]
  sleep _ hs := by rwa [signal_push rfl]
  ticks n hs := by
    rw [signal_ticked]
    exact hsync _ _ hs
  slots n hs hrun := by
    rw [signal_ran hrun]
    exact hsync _ _ hs
  fault n f hs hrun hhalt := by
    rw [signal_stopped hhalt]
    exact hfault _ _ hs hrun

end

/-- A machine starts over without sound, or it stays as it is. -/
theorem keeps_reset {Q : Signal → Prop}
    (h : ∀ g, Q g → Q (Signal.sync { g with active := false, halted := false })) :
    Keeps (fun s => Q s.signal) (reset host) := by
  intro s hs
  cases hstate : initialState s.machine with
  | error f =>
    rw [run_reset_of_error hstate]
    exact hs
  | ok state =>
    obtain ⟨hhalted, hsound⟩ := initialState_quiet hstate
    rw [run_reset hstate, left, signal_restarted hsound, hhalted]
    exact h _ hs

theorem keeps_load {Q : Signal → Prop}
    (h : ∀ g, Q g → Q (Signal.sync { g with active := false, halted := false })) (rom : Rom) :
    Keeps (fun s => Q s.signal) (load host rom) :=
  (neutral_update fun _ => rfl).keeps.bind fun _ => (keeps_reset h).bind fun _ =>
    neutral_getMachine.keeps.bind fun _ => (neutral_lift _).keeps.bind fun _ =>
      (neutral_log _ _).keeps

/-! ## Operations -/

/-- An operation that goes through whole frames. -/
def Operation.IsFramed : Operation σ → Prop
  | .runFrame _ => True
  | .run _ _ => True
  | _ => False

theorem keeps_framed {Q : Signal → Prop}
    (hsync : ∀ g active, Q g → Q (Signal.sync { g with active }))
    (hfault : ∀ g active, Q g → g.halted = false → Q { g with active, halted := true })
    {op : Operation σ} (hop : op.IsFramed) : Keeps (fun s => Q s.signal) (op.action host) := by
  have hstable : FrameStable fun s : Session σ => Q s.signal := frameStable_signal hsync hfault
  cases op with
  | runFrame ticks => exact hstable.keeps_runFrame ticks
  | run frames stop => exact (hstable.keeps_runUntil frames stop).bind fun _ => .pure ()
  | _ => exact hop.elim

theorem keeps_unframed {Q : Signal → Prop}
    (hsync : ∀ g active, Q g → Q (Signal.sync { g with active }))
    (hreset : ∀ g, Q g → Q (Signal.sync { g with active := false, halted := false }))
    (hfault : ∀ g, Q g → g.halted = false → Q { g with halted := true })
    {op : Operation σ} (hop : ¬op.IsFramed) : Keeps (fun s => Q s.signal) (op.action host) := by
  cases op with
  | load rom => exact keeps_load hreset rom
  | loadFile name content =>
    exact (neutral_log _ _).keeps.bind fun _ => (neutral_lift content).keeps.bind fun rom =>
      keeps_load hreset rom
  | reset => exact keeps_reset hreset
  | press key | release key | setKeys keys =>
    exact Keeps.input (fun f => (neutral_setKeypad f).keeps) trivial
  | cycle => exact keeps_cycle hsync hfault
  | tick count => exact keeps_tick hsync count
  | runFrame ticks => exact absurd trivial hop
  | run frames stop => exact absurd trivial hop

/-! ## The last report -/

/-- An operation that goes through frames met a fault, by which the machine has been halted ever
since, and no timer tick was asked for since. -/
structure UnheardFault (host : Host σ) (s : Session σ) (pre : List (Operation σ))
    (op : Operation σ) (post : List (Operation σ)) : Prop where
  framed : op.IsFramed
  running : (after host s pre).machine.state.halted = false
  halted : ∀ mid, mid <+: post → (after host s (pre ++ op :: mid)).machine.state.halted = true
  noTick : ∀ count, .tick count ∉ post

/-- Among the operations there is one with such a fault. -/
def HasUnheardFault (host : Host σ) (s : Session σ) (ops : List (Operation σ)) : Prop :=
  ∃ pre op post, ops = pre ++ op :: post ∧ UnheardFault host s pre op post

theorem signal_of_create {config : Config} {source : RandomSource} {world : σ}
    (h : Session.create host config source world = .ok s) : s.signal.Reported := by
  obtain ⟨m, hm, hs⟩ := bind_eq_ok h
  obtain ⟨_, -, hm⟩ := bind_eq_ok hm
  obtain ⟨fresh, hfresh, hm⟩ := bind_eq_ok hm
  obtain ⟨key, pc, rfl⟩ := eq_powerOn_of_freshState hfresh
  obtain rfl := Except.ok.inj hm
  obtain rfl := Except.ok.inj hs
  exact ⟨⟨.singleton _, rfl⟩, rfl⟩

theorem coherent_after (host : Host σ) (hs : s.signal.Coherent) (ops : List (Operation σ)) :
    (after host s ops).signal.Coherent := by
  induction ops using List.reverseRecOn with
  | nil => exact hs
  | append_singleton ops op ih =>
    rw [after_concat]
    by_cases hop : op.IsFramed
    · exact keeps_framed (fun _ _ h => Signal.Recorded.coherent_sync h.1)
        (fun _ _ h _ => ⟨h.1, fun hrun => by cases hrun⟩) hop _ ih
    · exact keeps_unframed (fun _ _ h => Signal.Recorded.coherent_sync h.1)
        (fun _ h => Signal.Recorded.coherent_sync h.1)
        (fun _ h _ => ⟨h.1, fun hrun => by cases hrun⟩) hop _ ih

/-- One operation keeps the last report right if it does not go through a frame with a fault. -/
theorem reported_operation (hs : s.signal.Reported) {op : Operation σ}
    (hfault : op.IsFramed → s.machine.state.halted = false →
      (left ((op.action host).run s)).machine.state.halted = false) :
    (left ((op.action host).run s)).signal.Reported := by
  by_cases hop : op.IsFramed
  · cases hrun : s.machine.state.halted with
    | true =>
      -- No frame meets a fault in a machine that has halted, so it is kept that it has.
      have hkeeps : Keeps (fun s => s.signal.Reported ∧ s.signal.halted = true) (op.action host) :=
        keeps_framed (Q := fun g => g.Reported ∧ g.halted = true)
          (fun g _ h => ⟨Signal.Recorded.reported_sync h.1.1, (Signal.halted_sync _).trans h.2⟩)
          (fun g _ h hrun => by rw [h.2] at hrun; cases hrun) hop
      exact (hkeeps s ⟨hs, hrun⟩).1
    | false =>
      have hcoherent := coherent_after host hs.coherent [op]
      exact hcoherent.reported (hfault hop hrun)
  · exact keeps_unframed (fun _ _ h => Signal.Recorded.reported_sync h.1)
      (fun _ h => Signal.Recorded.reported_sync h.1) (fun _ h _ => h) hop s hs

/-- A fault of the last operation is unheard. -/
theorem unheardFault_last {ops : List (Operation σ)} {op : Operation σ} (hop : op.IsFramed)
    (hrun : (after host s ops).machine.state.halted = false)
    (hhalt : (after host s (ops ++ [op])).machine.state.halted = true) :
    UnheardFault host s ops op [] where
  framed := hop
  running := hrun
  halted mid hmid := by
    obtain rfl := List.prefix_nil.1 hmid
    exact hhalt
  noTick _ := List.not_mem_nil

/-- A fault stays unheard if an operation leaves the machine halted and is no timer tick. -/
theorem UnheardFault.concat {pre post : List (Operation σ)} {op op' : Operation σ}
    (h : UnheardFault host s pre op post)
    (hhalt : (after host s (pre ++ op :: (post ++ [op']))).machine.state.halted = true)
    (htick : ∀ count, op' ≠ .tick count) : UnheardFault host s pre op (post ++ [op']) where
  framed := h.framed
  running := h.running
  halted mid hmid := by
    rcases List.prefix_concat_iff.1 hmid with rfl | hmid
    · exact hhalt
    · exact h.halted mid hmid
  noTick count hmem := by
    rcases List.mem_append.1 hmem with hmem | hmem
    · exact h.noTick count hmem
    · exact htick count (List.mem_singleton.1 hmem).symm

theorem reported_after (hs : s.signal.Reported) {ops : List (Operation σ)}
    (h : ¬HasUnheardFault host s ops) : (after host s ops).signal.Reported := by
  induction ops using List.reverseRecOn with
  | nil => exact hs
  | append_singleton ops op ih =>
    have hcoherent := coherent_after host hs.coherent
    cases hhalt : (after host s (ops ++ [op])).machine.state.halted with
    | false => exact (hcoherent (ops ++ [op])).reported hhalt
    | true =>
      -- A tick makes good whatever came before it; for the others the signal was right before.
      by_cases htick : ∃ count, op = .tick count
      · obtain ⟨count, rfl⟩ := htick
        rw [after_concat]
        show (left ((tick count).run _)).signal.Reported
        rw [run_tick, left, signal_ticked]
        exact Signal.Recorded.reported_sync (hcoherent ops).1
      · have hbefore : (after host s ops).signal.Reported := by
          refine ih ?_
          rintro ⟨pre, op', post, hops, hfault⟩
          refine h ⟨pre, op', post ++ [op], ?_, ?_⟩
          · rw [hops, List.append_assoc, List.cons_append]
          · refine hfault.concat ?_ fun count hop => htick ⟨count, hop⟩
            rw [← List.cons_append, ← List.append_assoc, ← hops]
            exact hhalt
        rw [after_concat]
        refine reported_operation hbefore fun hframed hrun => ?_
        exact absurd ⟨ops, op, [], rfl, unheardFault_last hframed hrun hhalt⟩ h

/-- **The reports follow the signal.** Whatever a host does with a machine, the reports of the sound
signal alternate, the first saying that it is on, and the last of them is the signal as it is,
unless a frame met a fault by which the machine has been halted ever since, and no timer tick was
asked for since. -/
theorem reports_follow_signal {config : Config} {source : RandomSource} {world : σ}
    (h : Session.create host config source world = .ok s) (ops : List (Operation σ)) :
    (after host s ops).signal.Alternates ∧
      (¬HasUnheardFault host s ops → (after host s ops).signal.InStep) := by
  have hreported := signal_of_create h
  exact ⟨(coherent_after host hreported.coherent ops).1.1,
    fun hunheard => (reported_after hreported hunheard).2⟩

theorem signal_loadedSession : loadedSession.signal = ⟨[], false, false, false⟩ := by
  rw [loadedSession, signal_noted, signal_restarted rfl]
  rfl

theorem signal_after_frameFault :
    (after Console.stillHost newSession [.load beepRom, .runFrame 1]).signal =
      ⟨[], false, true, true⟩ := by
  rw [after_frameFault, signal_stopped rfl, signal_loadedSession]
  rfl

/-- A frame that met a fault and a timer tick after it: the tick has the sound reported. -/
theorem tick_reveals_sound :
    Session.create Console.stillHost {} .keyed () = .ok newSession ∧
    ¬HasUnheardFault Console.stillHost newSession [.load beepRom, .runFrame 1, .tick 1] ∧
    (after Console.stillHost newSession [.load beepRom, .runFrame 1, .tick 1]).signal.Alternates ∧
    (after Console.stillHost newSession [.load beepRom, .runFrame 1, .tick 1]).signal.InStep := by
  have hheard :
      ¬HasUnheardFault Console.stillHost newSession [.load beepRom, .runFrame 1, .tick 1] := by
    rintro ⟨pre, op, post, hops, hfault⟩
    rcases pre with _ | ⟨_, _ | ⟨_, _ | ⟨_, pre⟩⟩⟩
    · obtain ⟨rfl, -⟩ := List.cons_eq_cons.1 hops
      exact hfault.framed
    · obtain ⟨-, hops⟩ := List.cons_eq_cons.1 hops
      obtain ⟨-, rfl⟩ := List.cons_eq_cons.1 hops
      exact hfault.noTick 1 (.head _)
    · obtain ⟨-, hops⟩ := List.cons_eq_cons.1 hops
      obtain ⟨-, hops⟩ := List.cons_eq_cons.1 hops
      obtain ⟨rfl, -⟩ := List.cons_eq_cons.1 hops
      exact hfault.framed
    · simp at hops
  obtain ⟨halternates, hlast⟩ := reports_follow_signal create_newSession
    [.load beepRom, .runFrame 1, .tick 1]
  exact ⟨create_newSession, hheard, halternates, hlast hheard⟩

/-- The frame that meets the fault leaves the beeper sounding, and its host has not heard of it. -/
theorem fault_hides_sound :
    Session.create Console.stillHost {} .keyed () = .ok newSession ∧
    (after Console.stillHost newSession [.load beepRom, .runFrame 1]).signal.reports = [] ∧
    (after Console.stillHost newSession [.load beepRom, .runFrame 1]).signal.active = true ∧
    ¬(after Console.stillHost newSession [.load beepRom, .runFrame 1]).signal.InStep := by
  rw [signal_after_frameFault]
  exact ⟨create_newSession, rfl, rfl, by decide⟩

end Session

end Chip8
