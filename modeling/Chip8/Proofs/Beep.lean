import Chip8.Proofs.Decay
import Chip8.Proofs.Sound

/-!
# How long a beep lasts

A slot that sets the sound timer to a number begins a beep, and the host hears of it at the end of
that slot. From then on only ticks change the timer, until the next word that sets it. They come
from cycles, from ticks that are asked for and from frames, and each of these looks at the signal
before and after its ticks. What they keep is `Beeping`: the timer holds what is left of the beep,
and the host has heard that it began, and that it ended if nothing is left.

**`beep_lasts`** says that the host hears of the end in the very operation in which the ticks since
the beginning reach the length of the beep, however they are shared out, and of nothing else.
-/

namespace Chip8

/-- The word sets the sound timer. -/
def SetsSound (w : Word) : Prop := w &&& 0xF0FF = 0xF018

instance : DecidablePred SetsSound := fun w =>
  inferInstanceAs (Decidable (w &&& 0xF0FF = 0xF018))

namespace State

variable {s : State} {n length passed : Nat}

/-- The next slot sets the sound timer to a number. -/
def Beeps (s : State) (length : Nat) : Prop :=
  ∃ a w, s.executed? = some (a, w) ∧ SetsSound w ∧ (s.registers.get (wordX w)).toNat = length

theorem step_of_beeps (h : s.Beeps length) :
    s.step.sound.toNat = length ∧ s.step.halted = false := by
  obtain ⟨a, w, hw, hset, hlength⟩ := h
  obtain ⟨hrun, hf, -, rfl⟩ := executed?_eq_some_iff.1 hw
  have hd : decode? s.fetch = some (.setSound (wordX s.fetch)) :=
    decode?_eq_setSound_iff.2 ⟨hset, rfl⟩
  rw [step_of_run hrun hf hd rfl]
  exact ⟨hlength, hrun.not_halted⟩

theorem sound_run (h : s.Avoids n SetsSound) : (s.run n).sound = s.sound :=
  kept_run_of_avoids (p := .sound) (by decide) h

theorem soundActive_iff : s.soundActive = true ↔ 0 < s.sound.toNat := by
  simp [soundActive, BitVec.toNat_eq, Nat.pos_iff_ne_zero]

theorem soundActive_eq (h : s.sound.toNat = length - passed) :
    s.soundActive = decide (passed < length) := by
  rw [Bool.eq_iff_iff, soundActive_iff, decide_eq_true_iff, h]
  omega

end State

namespace Session

variable {σ : Type} {s t u : Session σ} {host : Host σ} {before : List Bool}
  {length passed passed' : Nat}

/-! ## The course of a beep -/

/-- What a host hears of the end of a beep while the ticks since its beginning go from one number to
another. -/
def ending (length passed passed' : Nat) : List Bool :=
  if passed < length ∧ length ≤ passed' then [false] else []

theorem ending_append {a b c : Nat} (hab : a ≤ b) (hbc : b ≤ c) :
    ending length a b ++ ending length b c = ending length a c := by
  simp only [ending]
  split_ifs <;> first | rfl | omega

/-- A signal that was reported as it is after some ticks is looked at again after some more. -/
theorem sync_of_passed {g : Signal} (hreported : g.reported = decide (passed < length))
    (hactive : g.active = decide (passed' < length)) (hle : passed ≤ passed') :
    g.sync.reports = g.reports ++ ending length passed passed' ∧
      g.sync.reported = decide (passed' < length) := by
  rw [Signal.sync, hactive, hreported, ending]
  by_cases hends : passed < length ∧ length ≤ passed'
  · have hoff : decide (passed' < length) = false := decide_eq_false (Nat.not_lt.2 hends.2)
    have hon : decide (passed < length) = true := decide_eq_true hends.1
    rw [hoff, hon, if_neg (by decide), if_pos hends]
    exact ⟨rfl, rfl⟩
  · have hsame : decide (passed' < length) = decide (passed < length) := by
      rw [decide_eq_decide]
      omega
    rw [hsame, if_pos rfl, if_neg hends, List.append_nil]
    exact ⟨rfl, hreported⟩

/-- So many ticks after the beginning of a beep, which followed these reports. -/
structure Beeping (before : List Bool) (length passed : Nat) (s : Session σ) : Prop where
  sound : s.machine.state.sound.toNat = length - passed
  reported : s.signal.reported = decide (passed < length)
  reports : s.signal.reports = before ++ true :: ending length 0 passed

/-- The host hears of a signal that was silent before. -/
theorem beeping_begin {state : State} (hreported : s.machine.soundReported = false)
    (hpos : 1 ≤ length) (hsound : state.sound.toNat = length) :
    Beeping s.signal.reports length 0 (s.withState state).synced := by
  have hactive : state.soundActive = true := State.soundActive_iff.2 (by omega)
  have hsignal : (s.withState state).synced.signal =
      ⟨s.signal.reports ++ [true], true, true, state.halted⟩ := by
    rw [signal_synced, signal_withState, Signal.sync, hactive]
    exact if_neg (by simp [signal, hreported])
  have hnot : ¬ (0 < length ∧ length ≤ 0) := by omega
  refine ⟨?_, ?_, ?_⟩
  · rw [machine_synced]
    exact hsound
  · rw [hsignal]
    exact (decide_eq_true (show 0 < length by omega)).symm
  · rw [hsignal, ending, if_neg hnot]

namespace Beeping

/-- Ticks and slots change the timer, and then the host hears of the signal. -/
theorem synced {state : State} (h : Beeping before length passed s) (hle : passed ≤ passed')
    (hsound : state.sound.toNat = length - passed') :
    Beeping before length passed' (s.withState state).synced := by
  have hreported : (s.withState state).signal.reported = decide (passed < length) := h.reported
  have hreports : (s.withState state).signal.reports = before ++ true :: ending length 0 passed :=
    h.reports
  have hsync := sync_of_passed hreported (State.soundActive_eq hsound) hle
  refine ⟨?_, ?_, ?_⟩
  · rw [machine_synced]
    exact hsound
  · rw [signal_synced, hsync.2]
  · rw [signal_synced, hsync.1, hreports, List.append_assoc, List.cons_append,
      ending_append (Nat.zero_le _) hle]

theorem congr (h : Beeping before length passed s) (hstate : t.machine.state = s.machine.state)
    (hsignal : t.signal = s.signal) : Beeping before length passed t :=
  ⟨by rw [hstate, h.sound], by rw [hsignal, h.reported], by rw [hsignal, h.reports]⟩

theorem ticked (h : Beeping before length passed s) (n : Nat) :
    Beeping before length (passed + n) (s.withState (s.machine.state.ticks n)).synced := by
  have hsound := (State.toNat_ticks s.machine.state n).2
  rw [h.sound] at hsound
  exact h.synced (Nat.le_add_right ..) (by omega)

theorem ran (h : Beeping before length passed s) {n : Nat}
    (havoids : s.machine.state.Avoids n SetsSound) :
    Beeping before length passed (s.withState (s.machine.state.run n)).synced :=
  h.synced (Nat.le_refl _) (by rw [State.sound_run havoids, h.sound])

/-- What the host has heard between two moments of a beep. -/
theorem reports_eq (h : Beeping before length passed s) (h' : Beeping before length passed' t)
    (hle : passed ≤ passed') :
    t.signal.reports = s.signal.reports ++ ending length passed passed' := by
  rw [h.reports, h'.reports, List.append_assoc, List.cons_append,
    ending_append (Nat.zero_le _) hle]

end Beeping

/-! ## Operations that let time pass -/

/-- A cycle, ticks, or a frame. -/
def Operation.IsTimed : Operation σ → Prop
  | .cycle | .tick _ | .runFrame _ => True
  | _ => False

/-- The ticks that are due at a poll; none if the clock does not give a number of them. -/
def dueAt (host : Host σ) (s : Session σ) : Nat :=
  match pollAt host s with
  | some count => (s.machine.clock.advance count).1.toNat
  | none => 0

/-- The slots of a cycle, of ticks or of a frame. -/
def Operation.slots (s : Session σ) : Operation σ → Nat
  | .cycle => 1
  | .runFrame _ => s.machine.config.slotsPerFrame
  | _ => 0

/-- The ticks of a cycle, of ticks or of a frame. -/
def Operation.ticks (host : Host σ) (s : Session σ) : Operation σ → Nat
  | .cycle => dueAt host s
  | .tick count | .runFrame count => count.toNat
  | _ => 0

/-- The operations of a sequence, each with the session in which it begins. -/
def starts (host : Host σ) : Session σ → List (Operation σ) → List (Session σ × Operation σ)
  | _, [] => []
  | s, op :: ops => (s, op) :: starts host (left ((op.action host).run s)) ops

/-- The ticks of a sequence of operations. -/
def totalTicks (host : Host σ) : Session σ → List (Operation σ) → Nat
  | _, [] => 0
  | s, op :: ops => op.ticks host s + totalTicks host (left ((op.action host).run s)) ops

/-- No slot of an operation sets the sound timer. -/
def SetsNoSound (s : Session σ) (op : Operation σ) : Prop :=
  s.machine.state.Avoids (op.slots s) SetsSound

/-- Slots leave the clock and the world of the host as they are. -/
theorem dueAt_synced (state : State) : dueAt host (s.withState state).synced = dueAt host s := by
  rw [dueAt, dueAt, pollAt, pollAt, world_synced, machine_synced]
  rfl

theorem run_dueTicks_of_none (h : pollAt host s = none) :
    ∃ f, (dueTicks host).run s = .error f { s with world := (host.now s.world).2 } := by
  obtain ⟨f, hf⟩ : ∃ f, s.machine.clock.elapsed (host.now s.world).1 = .error f := by
    rw [pollAt] at h
    cases helapsed : s.machine.clock.elapsed (host.now s.world).1 with
    | error f => exact ⟨f, rfl⟩
    | ok count =>
      rw [helapsed] at h
      cases h
  have hdue := TickClock.due_of_elapsed_error hf
  refine ⟨f, ?_⟩
  rw [dueTicks, run_bind_of_ok (run_now host), run_bind_of_ok run_getMachine, hdue]
  rfl

namespace Beeping

/-- The ticks of a cycle come due after its slot, and none of them if the clock fails. -/
theorem polled (host : Host σ) (h : Beeping before length passed s) :
    Beeping before length (passed + dueAt host s)
      (left ((do tick (← dueTicks host) : Action σ Unit).run s)) := by
  unfold dueAt
  cases hpoll : pollAt host s with
  | some count =>
    have hclocked : Beeping before length passed { s with
        machine := { s.machine with clock := { s.machine.clock with counted := count } }
        world := (host.now s.world).2 } := h.congr rfl rfl
    rw [run_bind_of_ok (run_dueTicks (due_of_pollAt hpoll)), run_tick]
    exact hclocked.ticked _
  | none =>
    obtain ⟨f, hf⟩ := run_dueTicks_of_none hpoll
    rw [run_bind_of_error hf]
    exact h.congr rfl rfl

/-- **One operation.** -/
theorem operation (h : Beeping before length passed s) {op : Operation σ} (hop : op.IsTimed)
    (hquiet : SetsNoSound s op) (hrun : (op.action host).run s = .ok () t) :
    Beeping before length (passed + op.ticks host s) t := by
  cases op with
  | cycle =>
    obtain ⟨_, v, hslots, hrest⟩ := run_bind_eq_ok hrun
    obtain rfl := runSlots_eq_ok hslots
    have havoids : s.machine.state.Avoids 1 SetsSound := hquiet
    have hpolled := (h.ran havoids).polled host
    rw [hrest, dueAt_synced] at hpolled
    exact hpolled
  | tick count =>
    obtain ⟨-, rfl⟩ := EStateM.Result.ok.inj ((run_tick count).symm.trans hrun)
    exact h.ticked _
  | runFrame ticks =>
    obtain ⟨_, rfl, rfl⟩ := eq_presented_of_runFrame hrun
    exact ((h.ran hquiet).ticked _).congr rfl (signal_push rfl)
  | _ => exact hop.elim

/-- **Operations one after the other.** -/
theorem performed (h : Beeping before length passed s) {ops : List (Operation σ)}
    (hops : ∀ op ∈ ops, op.IsTimed) (hquiet : ∀ v ∈ starts host s ops, SetsNoSound v.1 v.2)
    (hrun : (perform host ops).run s = .ok () t) :
    Beeping before length (passed + totalTicks host s ops) t := by
  induction ops generalizing s passed with
  | nil =>
    obtain ⟨-, rfl⟩ := EStateM.Result.ok.inj hrun
    exact h
  | cons op ops ih =>
    obtain ⟨_, v, hop, hrest⟩ := run_bind_eq_ok hrun
    rw [starts, hop] at hquiet
    rw [totalTicks, hop, ← Nat.add_assoc]
    have hfirst := h.operation (hops op List.mem_cons_self) (hquiet _ List.mem_cons_self) hop
    exact ih hfirst (fun op hmem => hops op (List.mem_cons_of_mem _ hmem))
      (fun w hw => hquiet w (List.mem_cons_of_mem _ hw)) hrest

end Beeping

/-- The cycle that begins a beep goes through its slot, and then its own ticks are due. -/
theorem beeping_cycle (host : Host σ) (hreported : s.machine.soundReported = false)
    (hpos : 1 ≤ length) (hbeep : s.machine.state.Beeps length) :
    Beeping s.signal.reports length (dueAt host s) (left ((cycle host).run s)) := by
  obtain ⟨hsound, hhalted⟩ := State.step_of_beeps hbeep
  have hslot : (runSlots 1).run s = .ok () (s.withState s.machine.state.step).synced :=
    run_runSlots (by decide) hhalted
  have hpolled := (beeping_begin hreported hpos hsound).polled host
  rw [dueAt_synced, Nat.zero_add] at hpolled
  rw [cycle, run_bind_of_ok hslot]
  exact hpolled

/-- **A beep lasts as many ticks as it was set to.** Take a machine whose sound is reported silent,
and a cycle that sets the sound timer. The host hears that the sound is on. Then let cycles, ticks
and frames follow, all of which return and none of which sets the sound timer again: the host hears
that the sound is off in the operation in which the ticks since then reach the number that was set,
be it the first cycle itself, and it hears of nothing else. -/
theorem beep_lasts (host : Host σ) {s t : Session σ} {length : Nat}
    (hreported : s.machine.soundReported = false) (hpos : 1 ≤ length)
    (hbeep : s.machine.state.Beeps length) (ht : left ((cycle host).run s) = t) :
    t.signal.reports = s.signal.reports ++ true :: ending length 0 (dueAt host s) ∧
    ∀ ops u, (∀ op ∈ ops, op.IsTimed) → (∀ v ∈ starts host t ops, SetsNoSound v.1 v.2) →
      (perform host ops).run t = .ok () u →
      u.signal.reports = t.signal.reports ++
        ending length (dueAt host s) (dueAt host s + totalTicks host t ops) ∧
      ∀ op v, op.IsTimed → SetsNoSound u op → (op.action host).run u = .ok () v →
        v.signal.reports = u.signal.reports ++
          ending length (dueAt host s + totalTicks host t ops)
            (dueAt host s + totalTicks host t ops + op.ticks host u) := by
  subst ht
  have hbegun : Beeping s.signal.reports length (dueAt host s) _ :=
    beeping_cycle host hreported hpos hbeep
  refine ⟨hbegun.reports, fun ops u hops hquiet hrun => ?_⟩
  have hgone := hbegun.performed hops hquiet hrun
  refine ⟨hbegun.reports_eq hgone (Nat.le_add_right ..), fun op v hop hquiet' hrun' => ?_⟩
  exact hgone.reports_eq (hgone.operation hop hquiet' hrun') (Nat.le_add_right ..)

/-- A program that sets the sound timer and then jumps to its second word for ever. -/
def hornRom : Rom := [0xF0, 0x18, 0x12, 0x02]

/-- The machine with the program, about to sound for three ticks. -/
def beforeHorn : State :=
  { State.withRom .keyed ⟨0, 0⟩ hornRom programStart with registers := Registers.zero.set 0 3 }

/-- The machine at its second word, with so much left of the sound. -/
def horn (left : Byte) : State := { beforeHorn with sound := left, pc := 0x202 }

theorem fetch_beforeHorn : beforeHorn.fetch = 0xF018 := by
  simp [State.fetch, beforeHorn, hornRom, State.withRom, State.powerOn, Memory.read_writeAll,
    memorySize, programStart]

theorem fetch_horn (b : Byte) : (horn b).fetch = 0x1202 := by
  simp [State.fetch, horn, beforeHorn, hornRom, State.withRom, State.powerOn,
    Memory.read_writeAll, memorySize, programStart]

theorem beeps_beforeHorn : beforeHorn.Beeps 3 :=
  ⟨0x200, 0xF018, State.executed?_eq_some_iff.2 ⟨⟨rfl, rfl⟩, by decide, rfl, fetch_beforeHorn⟩,
    by decide, by decide⟩

theorem step_beforeHorn : beforeHorn.step = horn 3 := by
  refine step_of_run (i := .setSound 0) ⟨rfl, rfl⟩ (by decide) ?_ rfl
  exact decode?_eq_setSound_iff.2 (by rw [fetch_beforeHorn]; decide)

theorem step_horn (b : Byte) : (horn b).step = horn b := by
  have hf : (horn b).canFetch = true := by simp [State.canFetch, horn, memorySize]
  refine step_of_run (i := .jump 0x202) ⟨rfl, rfl⟩ hf ?_ rfl
  exact decode?_eq_jump_iff.2 (by rw [fetch_horn]; decide)

theorem avoids_horn (b : Byte) : (horn b).Avoids 1 SetsSound := by
  refine State.avoids_succ (fun a w hw => ?_) State.avoids_zero
  obtain ⟨-, -, -, rfl⟩ := State.executed?_eq_some_iff.1 hw
  rw [fetch_horn]
  decide

/-- The machine with one slot in a frame; one tick has passed when its host looks at the clock. -/
def hornSession : Session (List Float) where
  machine := (still { speed := .int 60 } (some hornRom) beforeHorn).machine
  world := [0.02]
  effects := #[]

theorem pollAt_hornSession : pollAt scriptedHost hornSession = some 1 := by decide +kernel

/-- The first cycle sets the sound timer, and one tick is due behind it. -/
theorem run_cycle_hornSession : ∃ t, (cycle scriptedHost).run hornSession = .ok () t ∧
    t.machine.state = horn 2 ∧ t.machine.config.slotsPerFrame = 1 := by
  have hstep : hornSession.machine.state.run 1 = horn 3 := step_beforeHorn
  have hslot : (runSlots 1).run hornSession = .ok () (hornSession.withState (horn 3)).synced := by
    rw [← hstep]
    exact run_runSlots (by decide) (by rw [hstep]; rfl)
  have hpoll : pollAt scriptedHost (hornSession.withState (horn 3)).synced = some 1 := by
    rw [pollAt, world_synced, machine_synced]
    exact pollAt_hornSession
  rw [cycle, run_bind_of_ok hslot, run_bind_of_ok (run_dueTicks (due_of_pollAt hpoll)), run_tick]
  refine ⟨_, rfl, ?_, ?_⟩
  · simp only [machine_synced, withState]
    rfl
  · simp only [machine_synced, withState]
    exact (Config.slotsPerFrame_int rfl).trans (by decide)

/-- A beep of three ticks: after the tick of the first cycle and one more it goes on, and it ends in
a frame with the third. -/
theorem beep_lasts_three :
    hornSession.machine.soundReported = false ∧ hornSession.machine.state.Beeps 3 ∧
    ∃ t u v, (cycle scriptedHost).run hornSession = .ok () t ∧
      (perform scriptedHost [.tick 1]).run t = .ok () u ∧
      (runFrame scriptedHost 1).run u = .ok () v ∧
      t.signal.reports = [true] ∧ u.signal.reports = [true] ∧ v.signal.reports = [true, false] := by
  obtain ⟨t, hcycle, hstate, hslots⟩ := run_cycle_hornSession
  -- The tick leaves one of the three, and the frame goes through its slot.
  obtain ⟨u, htick, hstate', hslots'⟩ : ∃ u, (perform scriptedHost [.tick 1]).run t = .ok () u ∧
      u.machine.state = horn 1 ∧ u.machine.config.slotsPerFrame = 1 := by
    refine ⟨_, run_bind_of_ok (run_tick 1), ?_, ?_⟩
    · simp only [machine_synced, withState, hstate]
      rfl
    · simp only [machine_synced, withState, hslots]
  have hquiet : SetsNoSound u (.runFrame 1) := by
    rw [SetsNoSound, Operation.slots, hslots', hstate']
    exact avoids_horn 1
  have hrun : (u.machine.state.run u.machine.config.slotsPerFrame).halted = false := by
    rw [hslots', hstate', State.run, step_horn]
    rfl
  have hlimit : u.machine.config.slotsPerFrame < slotLimit := hslots'.symm ▸ by decide
  obtain ⟨v, hframe, -⟩ := run_runFrame scriptedHost 1 hlimit hrun
  have hdue : dueAt scriptedHost hornSession = 1 := by
    rw [dueAt, pollAt_hornSession]
    rfl
  have hbeeps : hornSession.machine.state.Beeps 3 := beeps_beforeHorn
  have ht : left ((cycle scriptedHost).run hornSession) = t := congrArg left hcycle
  obtain ⟨hfirst, hlater⟩ := beep_lasts scriptedHost rfl (by decide) hbeeps ht
  obtain ⟨hmore, hlast⟩ := hlater [.tick 1] u (by simp [Operation.IsTimed])
    (by simp [starts, SetsNoSound, Operation.slots, State.avoids_zero]) htick
  have hend := hlast (.runFrame 1) v trivial hquiet hframe
  have htotal : totalTicks scriptedHost t [.tick 1] = 1 := rfl
  have hticks : Operation.ticks scriptedHost u (.runFrame 1) = 1 := rfl
  have hbefore : hornSession.signal.reports = [] := rfl
  rw [hdue, hbefore] at hfirst
  rw [hdue, htotal, hfirst] at hmore
  rw [hdue, htotal, hticks, hmore] at hend
  exact ⟨rfl, hbeeps, t, u, v, hcycle, htick, hframe, hfirst, hmore, hend⟩

end Session

end Chip8
