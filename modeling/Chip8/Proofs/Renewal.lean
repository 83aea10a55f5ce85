import Chip8.Proofs.Operations
import Chip8.Proofs.Twin
import Chip8.Proofs.Unpaced

/-!
# A machine that starts over is a new one

A reset gives the machine a fresh state, a frame count of zero, a clock that starts now and a signal
that counts as off. What it leaves alone is the make of the machine, which no operation changes, and
its program. So nothing else is left of what the machine went through before.

Two sessions are `InStep` if their machines are the same, their hosts keep the same time from now on
and were told the same since some moment. Every operation keeps them in step and ends alike in both
(`alike_reply`), for any host and whatever it is asked. **`reset_leaves_no_residue`** compares a
machine that was reset with a new one in this way: the accounts that hosts can give of what comes
after are the same.
-/

namespace Chip8

/-- Worlds in this relation read the same on the clock of a host, and do so ever after. -/
structure Host.KeepsTime {σ : Type} (host : Host σ) (R : σ → σ → Prop) : Prop where
  now {w w' : σ} : R w w' →
    (host.now w').1 = (host.now w).1 ∧ R (host.now w).2 (host.now w').2
  sleep {w w' : σ} (seconds : Float) : R w w' → R (host.sleep seconds w) (host.sleep seconds w')
  present {w w' : σ} (picture : Display) :
    R w w' → R (host.present picture w) (host.present picture w')

namespace Session

variable {σ α β : Type} {s t u : Session σ} {host : Host σ} {R : σ → σ → Prop}
  {before before' : Array Effect}

/-- A stop rule says the same in worlds in this relation, and leaves them in it. -/
def StopRule.Respects (R : σ → σ → Prop) (stop : StopRule σ) : Prop :=
  ∀ m w w', R w w' → (stop m w').1 = (stop m w).1 ∧ R (stop m w).2 (stop m w').2

/-- The worlds matter to an operation only as far as the relation goes. -/
def Operation.Respects (R : σ → σ → Prop) : Operation σ → Prop
  | .run _ stop => stop.Respects R
  | _ => True

/-! ## Sessions in step -/

/-- Twins with the same clock, whose hosts keep the same time. -/
abbrev InStep (R : σ → σ → Prop) (before before' : Array Effect) (s t : Session σ) : Prop :=
  Twins (fun c w c' w' => c' = c ∧ R w w') before before' s t

theorem Twins.machine_eq (h : InStep R before before' s t) : t.machine = s.machine := by
  rw [h.machine, h.pace.1]

theorem inStep_of_machine (hm : t.machine = s.machine) (hw : R s.world t.world) :
    InStep R s.effects t.effects s t :=
  ⟨by rw [hm], ⟨by rw [hm], hw⟩, #[], by simp, by simp⟩

/-- What follows a look at the machine may depend on all of it. -/
theorem alike_look {f : Machine → Action σ β}
    (hf : ∀ m, Alike (InStep R before before') (f m) (f m)) :
    Alike (InStep R before before') (getMachine >>= f) (getMachine >>= f) := by
  intro s t hs
  rw [run_bind_of_ok run_getMachine, run_bind_of_ok run_getMachine, hs.machine_eq]
  exact hf s.machine s t hs

theorem alike_change (f : Machine → Machine) :
    Alike (InStep R before before') (update f) (update f) := by
  intro s t hs
  rw [run_update, run_update, hs.machine_eq]
  exact .ok () ⟨rfl, ⟨rfl, hs.pace.2⟩, hs.told⟩

theorem alike_stops {stop : StopRule σ} (hstop : stop.Respects R) :
    Alike (InStep R before before') (stops stop) (stops stop) := by
  intro s t hs
  obtain ⟨hanswer, hworld⟩ := hstop s.machine s.world t.world hs.pace.2
  rw [run_stops, run_stops, hs.machine_eq, hanswer]
  exact .ok _ ⟨rfl, ⟨rfl, hworld⟩, hs.told⟩

section Time

variable (htime : host.KeepsTime R)

include htime

theorem alike_now : Alike (InStep R before before') (now host) (now host) := by
  intro s t hs
  obtain ⟨htime, hworld⟩ := htime.now hs.pace.2
  rw [run_now, run_now, htime]
  exact .ok _ ⟨hs.machine, ⟨hs.pace.1, hworld⟩, hs.told⟩

theorem alike_sleep (seconds : Float) :
    Alike (InStep R before before') (sleep host seconds) (sleep host seconds) := by
  refine (alike_tell _).bind fun _ s t hs => ?_
  exact .ok () ⟨hs.machine, ⟨hs.pace.1, htime.sleep seconds hs.pace.2⟩, hs.told⟩

theorem alike_frame (ticks : Int) :
    Alike (InStep R before before') (runFrame host ticks) (runFrame host ticks) :=
  alike_runFrame (fun picture hpace => ⟨hpace.1, htime.present picture hpace.2⟩) ticks

/-! ## Cycles and runs in step -/

theorem alike_dueTicks : Alike (InStep R before before') (dueTicks host) (dueTicks host) :=
  (alike_now htime).bind fun _ => alike_look fun _ => (alike_lift _).bind fun _ =>
    (alike_change _).bind fun _ => .pure _

theorem alike_cycle : Alike (InStep R before before') (cycle host) (cycle host) :=
  (alike_runSlots 1).bind fun _ => (alike_dueTicks htime).bind fun due => alike_tick due

theorem alike_startClock : Alike (InStep R before before') (startClock host) (startClock host) :=
  (alike_now htime).bind fun _ => (alike_now htime).bind fun _ =>
    (alike_change _).bind fun _ => .pure _

theorem runSteps_alike {stop : StopRule σ} (hstop : stop.Respects R) :
    RunSteps host stop fun a => Alike (InStep R before before') a a where
  pure := .pure
  bind := .bind
  look := alike_look fun m => .pure m
  start := alike_startClock htime
  stops := alike_stops hstop
  due := alike_dueTicks htime
  frame := alike_frame htime
  pause _ := (alike_now htime).bind fun _ => .ite (alike_sleep htime _) (.pure ())

/-! ## Loading in step -/

theorem Twins.restarted (hs : InStep R before before' s t) (state : State) :
    InStep R before before' (s.restarted host state) (t.restarted host state) := by
  obtain ⟨hnow, hworld⟩ := htime.now hs.pace.2
  have hstart : InStep R before before'
      { s with
        world := (host.now s.world).2
        machine := { s.machine with
          state, clock := s.machine.clock.reset (host.now s.world).1, frameCount := 0 } }
      { t with
        world := (host.now t.world).2
        machine := { t.machine with
          state, clock := t.machine.clock.reset (host.now t.world).1, frameCount := 0 } } := by
    rw [hs.machine_eq, hnow]
    exact ⟨rfl, ⟨rfl, hworld⟩, hs.told⟩
  have hend := ((alike_reportSound false).bind fun _ => alike_log .info "Machine reset") _ _ hstart
  rw [run_bind_of_ok (run_reportSound false), run_bind_of_ok (run_reportSound false)] at hend
  exact hend.left

theorem alike_reset : Alike (InStep R before before') (reset host) (reset host) := by
  intro s t hs
  cases h : initialState s.machine with
  | error f =>
    rw [run_reset_of_error h, run_reset_of_error (hs.machine_eq ▸ h)]
    exact .error f hs
  | ok state =>
    rw [run_reset h, run_reset (hs.machine_eq ▸ h)]
    exact .ok () (hs.restarted htime state)

theorem alike_load (rom : Rom) :
    Alike (InStep R before before') (load host rom) (load host rom) :=
  (alike_change _).bind fun _ => (alike_reset htime).bind fun _ => alike_look fun _ =>
    (alike_lift _).bind fun _ => alike_log _ _

end Time

/-! ## Accounts of operations -/

/-- An operation with what it returns, which is a number of frames if it is a run. -/
def Operation.reply (host : Host σ) : Operation σ → Action σ (Option Nat)
  | .run frames stop => do return some (← runUntil host frames stop)
  | op => do
    op.action host
    return none

/-- What an action ends with. -/
def outcome : EStateM.Result Failure (Session σ) α → Except Failure α
  | .ok a _ => .ok a
  | .error f _ => .error f

/-- What a host can say of an operation: how it ended, the state and the frame count after it, and
what the host was told meanwhile. -/
structure Account where
  reply : Except Failure (Option Nat)
  state : State
  frameCount : Nat
  told : List Effect

/-- The account of an operation that begins in a session and ends so. -/
def account (s : Session σ) (r : EStateM.Result Failure (Session σ) (Option Nat)) : Account where
  reply := outcome r
  state := (left r).machine.state
  frameCount := (left r).machine.frameCount
  told := (left r).effects.toList.drop s.effects.size

/-- The accounts of operations one after the other; one that fails does not end the session. -/
def accounts (host : Host σ) : Session σ → List (Operation σ) → List Account
  | _, [] => []
  | s, op :: ops =>
    let r := (op.reply host).run s
    account s r :: accounts host (left r) ops

theorem alike_reply (htime : host.KeepsTime R) {op : Operation σ} (hop : op.Respects R) :
    Alike (InStep R before before') (op.reply host) (op.reply host) := by
  cases op with
  | load rom => exact (alike_load htime rom).bind fun _ => .pure none
  | loadFile name content =>
    have hfile : Alike (InStep R before before') (loadFile host name content)
        (loadFile host name content) :=
      (alike_log _ _).bind fun _ => (alike_lift content).bind fun rom => alike_load htime rom
    exact hfile.bind fun _ => .pure none
  | reset => exact (alike_reset htime).bind fun _ => .pure none
  | press key => exact (alike_press key).bind fun _ => .pure none
  | release key => exact (alike_release key).bind fun _ => .pure none
  | setKeys keys => exact (alike_setKeys keys).bind fun _ => .pure none
  | cycle => exact (alike_cycle htime).bind fun _ => .pure none
  | tick count => exact (alike_tick count).bind fun _ => .pure none
  | runFrame ticks => exact (alike_frame htime ticks).bind fun _ => .pure none
  | run frames stop => exact ((runSteps_alike htime hop).runUntil frames).bind fun _ => .pure _

theorem account_eq_of_endsAlike {r r' : EStateM.Result Failure (Session σ) (Option Nat)}
    (h : EndsAlike (InStep R s.effects t.effects) r r') : account t r' = account s r := by
  have htold {v v' : Session σ} (hv : InStep R s.effects t.effects v v') :
      v'.effects.toList.drop t.effects.size = v.effects.toList.drop s.effects.size := by
    obtain ⟨tail, hs, ht⟩ := hv.told
    rw [hs, ht, Array.toList_append, Array.toList_append, ← Array.length_toList,
      ← Array.length_toList, List.drop_left, List.drop_left]
  cases h with
  | ok _ hv | error _ hv => simp only [account, outcome, left, hv.machine_eq, htold hv]

/-- Sessions in step give the same account of whatever comes after. -/
theorem accounts_eq_of_inStep (htime : host.KeepsTime R) (hm : t.machine = s.machine)
    (hw : R s.world t.world) {ops : List (Operation σ)} (hops : ∀ op ∈ ops, op.Respects R) :
    accounts host t ops = accounts host s ops := by
  induction ops generalizing s t with
  | nil => rfl
  | cons op ops ih =>
    have hends := alike_reply htime (hops op List.mem_cons_self) s t (inStep_of_machine hm hw)
    have hleft := hends.left
    rw [accounts, accounts, account_eq_of_endsAlike hends,
      ih hleft.machine_eq hleft.pace.2 fun op hop => hops op (List.mem_cons_of_mem _ hop)]

/-! ## What a reset leaves alone -/

theorem keeps_sameMake_reset (m : Machine) :
    Keeps (fun s : Session σ => SameMake m s.machine) (reset host) := by
  intro s hs
  cases h : initialState s.machine with
  | error f =>
    rw [run_reset_of_error h]
    exact hs
  | ok state =>
    rw [run_reset h, left, machine_restarted]
    exact ⟨hs.config, hs.source, hs.frequency⟩

/-- No operation changes the make of the machine. -/
theorem keeps_sameMake (m : Machine) (op : Operation σ) :
    Keeps (fun s => SameMake m s.machine) (op.action host) := by
  have hload (rom : Rom) : Keeps (fun s : Session σ => SameMake m s.machine) (load host rom) := by
    refine Keeps.bind (fun _ hs => ⟨hs.config, hs.source, hs.frequency⟩) fun _ => ?_
    exact (keeps_sameMake_reset m).bind fun _ => Keeps.bind (fun _ hs => hs) fun _ =>
      Keeps.lift.bind fun _ _ hs => hs
  have hkeypad (f : Keypad → Keypad) :
      Keeps (fun s : Session σ => SameMake m s.machine) (setKeypad f) :=
    fun _ hs => ⟨hs.config, hs.source, hs.frequency⟩
  have hframe : FrameStable fun s : Session σ => SameMake m s.machine := frameStable_sameMake m
  cases op with
  | load rom => exact hload rom
  | loadFile name content =>
    exact Keeps.bind (fun _ hs => hs) fun _ => Keeps.lift.bind fun rom => hload rom
  | reset => exact keeps_sameMake_reset m
  | press key | release key | setKeys keys => exact Keeps.input hkeypad trivial
  | cycle => exact hframe.keeps_cycle
  | tick count => exact hframe.keeps_tick count
  | runFrame ticks => exact hframe.keeps_runFrame ticks
  | run frames stop => exact (hframe.keeps_runUntil frames stop).bind fun _ => .pure ()

theorem sameMake_after (host : Host σ) (s : Session σ) (ops : List (Operation σ)) :
    SameMake s.machine (after host s ops).machine :=
  Keeps.after (fun op _ => keeps_sameMake s.machine op) (.refl _)

/-! ## Machines that have started over -/

/-- The machine after it has started over in a state at a time. -/
def startedOver (m : Machine) (state : State) (time : Float) : Machine :=
  { m with state, frameCount := 0, clock := m.clock.reset time, soundReported := false }

theorem startedOver_congr {m m' : Machine} (hmake : SameMake m m') (hrom : m'.rom = m.rom)
    (state : State) (time : Float) : startedOver m' state time = startedOver m state time := by
  simp only [startedOver, TickClock.reset, hmake.config, hmake.source, hmake.frequency, hrom]

/-- The state in which a machine starts over depends on its make and its program. -/
theorem initialState_congr {m m' : Machine} (hmake : SameMake m m') (hrom : m'.rom = m.rom) :
    initialState m' = initialState m := by
  simp only [initialState, hmake.config, hmake.source, hrom]

theorem world_restarted (host : Host σ) (s : Session σ) (state : State) :
    (s.restarted host state).world = (host.now s.world).2 := by
  simp only [restarted, noted, heard]
  split <;> rfl

/-- Two machines with the same settings and the same source differ in when their clocks started. -/
theorem machine_of_create {config : Config} {source : RandomSource} {w w' : σ}
    (h : Session.create host config source w = .ok s)
    (h' : Session.create host config source w' = .ok t) :
    s.machine.rom = none ∧ initialState s.machine = .ok t.machine.state ∧
      t.machine = startedOver s.machine t.machine.state (host.now w').1 ∧
      t.world = (host.now w').2 := by
  obtain ⟨m, hm, hs⟩ := bind_eq_ok h
  obtain ⟨c, hvalid, hm⟩ := bind_eq_ok hm
  obtain ⟨state, hstate, hm⟩ := bind_eq_ok hm
  obtain rfl := Except.ok.inj hm
  obtain rfl := Except.ok.inj hs
  have hcreate : Machine.create config source (host.now w').1 = .ok {
      config := c, source, state, rom := none, frameCount := 0, soundReported := false
      clock := .startAt timerFrequency.toFloat (host.now w').1 } := by
    rw [Machine.create, hvalid, ok_bind, hstate]
    rfl
  obtain ⟨m', hm', ht⟩ := bind_eq_ok h'
  obtain rfl := Except.ok.inj (hcreate.symm.trans hm')
  obtain rfl := Except.ok.inj ht
  refine ⟨rfl, ?_, rfl, rfl⟩
  show (Machine.freshState c source >>= _) = _
  rw [hstate]
  rfl

/-- A new machine that has loaded a program, or none, when its host was in a world. -/
inductive Anew (host : Host σ) (config : Config) (source : RandomSource) (w : σ) :
    Option Rom → Session σ → Prop
  | bare {u : Session σ} : Session.create host config source w = .ok u →
      Anew host config source w none u
  | loaded {w' : σ} {fresh : Session σ} (rom : Rom) :
      Session.create host config source w' = .ok fresh → fresh.world = w →
      Anew host config source w (some rom) (left ((load host rom).run fresh))

/-- A new machine is one that has started over. -/
theorem Anew.startedOver {config : Config} {source : RandomSource} {w w' : σ} {rom : Option Rom}
    (h : Session.create host config source w' = .ok s) (hnew : Anew host config source w rom u)
    {state : State} (hstate : initialState { s.machine with rom } = .ok state) :
    u.machine = startedOver { s.machine with rom } state (host.now w).1 ∧
      u.world = (host.now w).2 := by
  cases hnew with
  | bare hu =>
    obtain ⟨hrom, hinitial, hmachine, hworld⟩ := machine_of_create h hu
    have hsame : { s.machine with rom := none } = s.machine := by rw [← hrom]
    rw [hsame] at hstate ⊢
    obtain rfl := Except.ok.inj (hinitial.symm.trans hstate)
    exact ⟨hmachine, hworld⟩
  | @loaded _ fresh rom hfresh hw =>
    subst hw
    obtain ⟨-, -, hmachine, -⟩ := machine_of_create h hfresh
    have hmake : SameMake { s.machine with rom := some rom } (fresh.withRom rom).machine := by
      rw [withRom, hmachine]
      exact ⟨rfl, rfl, rfl⟩
    have hload : initialState (fresh.withRom rom).machine = .ok state :=
      (initialState_congr hmake rfl).trans hstate
    have hover := (machine_restarted (s := fresh.withRom rom) host state).trans
      (startedOver_congr hmake rfl state _)
    have hworld := world_restarted host (fresh.withRom rom) state
    -- The program is in place, whether its address can be shown in the message or not.
    rw [run_load_of_initialState hload]
    cases fresh.machine.config.loadAddress.hexNumber with
    | ok address => exact ⟨hover, hworld⟩
    | error f => exact ⟨hover, hworld⟩

/-- **A reset leaves no residue.** Take a machine that a host has done anything with, and that can
be reset; and a new machine with the same settings and the same source of random bytes, which is
given the same program, if any, at the same time. They are the same machine, and as long as their
hosts keep the same time, the accounts of whatever comes after are the same. -/
theorem reset_leaves_no_residue {config : Config} {source : RandomSource} {w₀ w : σ}
    (hcreate : Session.create host config source w₀ = .ok s) (history : List (Operation σ))
    (hreset : (reset host).run (after host s history) = .ok () t) (htime : host.KeepsTime R)
    (hw : R (after host s history).world w)
    (hnew : Anew host config source w (after host s history).machine.rom u) :
    u.machine = t.machine ∧ ∀ ops : List (Operation σ), (∀ op ∈ ops, op.Respects R) →
      accounts host u ops = accounts host t ops := by
  generalize hv : after host s history = v at hreset hw hnew
  have hmake : SameMake { s.machine with rom := v.machine.rom } v.machine := by
    have hmake := sameMake_after host s history
    rw [hv] at hmake
    exact ⟨hmake.config, hmake.source, hmake.frequency⟩
  cases hstate : initialState v.machine with
  | error f =>
    rw [run_reset_of_error hstate] at hreset
    cases hreset
  | ok state =>
    rw [run_reset hstate] at hreset
    obtain ⟨-, rfl⟩ := EStateM.Result.ok.inj hreset
    obtain ⟨hnow, hworld⟩ := htime.now hw
    obtain ⟨hmachine, hworld'⟩ :=
      hnew.startedOver hcreate ((initialState_congr hmake rfl).symm.trans hstate)
    have hsame : u.machine = (v.restarted host state).machine := by
      rw [hmachine, machine_restarted, hnow, ← startedOver_congr hmake rfl]
      rfl
    refine ⟨hsame, fun ops hops => accounts_eq_of_inStep htime hsame ?_ hops⟩
    rw [world_restarted, hworld']
    exact hworld

theorem rom_stopped (s : Session σ) (state : State) (f : Failure) :
    (s.stopped state f).machine.rom = s.machine.rom := rfl

theorem keepsTime_stillHost : Console.stillHost.KeepsTime fun _ _ => True where
  now _ := ⟨rfl, trivial⟩
  sleep _ _ := trivial
  present _ _ := trivial

/-- The machine has met a fault while the beeper sounds, and is reset; the other is new. -/
theorem reset_after_frameFault :
    Session.create Console.stillHost {} .keyed () = .ok newSession ∧
    (load Console.stillHost beepRom).run newSession = .ok () loadedSession ∧
    ∃ t, (reset Console.stillHost).run
        (after Console.stillHost newSession [.load beepRom, .runFrame 1]) = .ok () t ∧
      loadedSession.machine = t.machine ∧
      accounts Console.stillHost loadedSession [.press (.int 5), .run (some 2) neverStop, .cycle] =
        accounts Console.stillHost t [.press (.int 5), .run (some 2) neverStop, .cycle] := by
  have hrom : (after Console.stillHost newSession [.load beepRom, .runFrame 1]).machine.rom =
      some beepRom := by
    rw [after_frameFault, rom_stopped, machine_loadedSession]
    rfl
  have hmake : SameMake { newSession.machine with rom := some beepRom }
      (after Console.stillHost newSession [.load beepRom, .runFrame 1]).machine := by
    obtain ⟨hconfig, hsource, hfrequency⟩ :=
      sameMake_after Console.stillHost newSession [.load beepRom, .runFrame 1]
    exact ⟨hconfig, hsource, hfrequency⟩
  have hstate : initialState
      (after Console.stillHost newSession [.load beepRom, .runFrame 1]).machine =
        .ok beforeBeep := by
    rw [initialState_congr hmake hrom, initialState_of_rom rfl rfl rfl rfl]
    exact loadRom_eq_ok_iff.2 ⟨by decide, rfl⟩
  have hnew : Anew Console.stillHost {} .keyed () (some beepRom) loadedSession := by
    have hanew := Anew.loaded (w := ()) beepRom create_newSession rfl
    rwa [run_load_newSession, left] at hanew
  obtain ⟨hmachine, hlater⟩ := reset_leaves_no_residue create_newSession
    [.load beepRom, .runFrame 1] (run_reset hstate) keepsTime_stillHost trivial (hrom ▸ hnew)
  refine ⟨create_newSession, run_load_newSession, _, run_reset hstate, hmachine, hlater _ ?_⟩
  simp [Operation.Respects, StopRule.Respects]

end Session

end Chip8
