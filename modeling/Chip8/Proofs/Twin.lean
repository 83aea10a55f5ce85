import Chip8.Proofs.Action

/-!
# Two sessions side by side

Two sessions are *twins* (`Twins`) if their machines are the same but perhaps for the clocks of the
timers, and their hosts were told the same since some moment. What holds between the clocks and the
worlds of the two is a parameter, a `Pace`.

`Alike` says of two actions that from related sessions they end alike: with the same value or with
the same failure, in sessions that are related again. It goes through sequences of actions, and
reading the machine is no obstacle as long as what follows does not look at the clock
(`alike_getMachine`). Everything that an operation does without a clock is therefore alike for twins
of any pace: going through slots, letting the timers tick, taking keys, and whole frames.
-/

namespace Chip8.Session

variable {σ α β : Type}

/-! ## Actions that end alike -/

/-- Two ends with the same value or the same failure, in related sessions. -/
inductive EndsAlike (ρ : Session σ → Session σ → Prop) :
    EStateM.Result Failure (Session σ) α → EStateM.Result Failure (Session σ) α → Prop
  | ok (a : α) {s t : Session σ} : ρ s t → EndsAlike ρ (.ok a s) (.ok a t)
  | error (f : Failure) {s t : Session σ} : ρ s t → EndsAlike ρ (.error f s) (.error f t)

/-- Two actions end alike whenever they start in related sessions. -/
def Alike (ρ : Session σ → Session σ → Prop) (a b : Action σ α) : Prop :=
  ∀ s t, ρ s t → EndsAlike ρ (a.run s) (b.run t)

section

variable {ρ : Session σ → Session σ → Prop}

theorem EndsAlike.left {r r' : EStateM.Result Failure (Session σ) α} (h : EndsAlike ρ r r') :
    ρ (Session.left r) (Session.left r') := by
  cases h with
  | ok _ hs => exact hs
  | error _ hs => exact hs

theorem EndsAlike.mono {ρ' : Session σ → Session σ → Prop} (hsub : ∀ s t, ρ s t → ρ' s t)
    {r r' : EStateM.Result Failure (Session σ) α} (h : EndsAlike ρ r r') : EndsAlike ρ' r r' := by
  cases h with
  | ok a hs => exact .ok a (hsub _ _ hs)
  | error f hs => exact .error f (hsub _ _ hs)

theorem Alike.pure (a : α) : Alike ρ (pure a : Action σ α) (pure a) := fun _ _ hs => .ok a hs

theorem Alike.bind {a b : Action σ α} {f g : α → Action σ β} (hab : Alike ρ a b)
    (hfg : ∀ x, Alike ρ (f x) (g x)) : Alike ρ (a >>= f) (b >>= g) := by
  intro s t hs
  have hends := hab s t hs
  rw [EStateM.run_bind, EStateM.run_bind]
  generalize a.run s = r, b.run t = r' at hends
  cases hends with
  | ok x hs => exact hfg x _ _ hs
  | error f hs => exact .error f hs

theorem Alike.ite {c : Prop} [Decidable c] {a b a' b' : Action σ α} (ha : Alike ρ a a')
    (hb : Alike ρ b b') : Alike ρ (if c then a else b) (if c then a' else b') := by
  split
  · exact ha
  · exact hb

theorem alike_lift (x : Except Failure α) : Alike ρ (lift x : Action σ α) (lift x) := by
  cases x with
  | ok a => exact fun _ _ hs => .ok a hs
  | error f => exact fun _ _ hs => .error f hs

theorem alike_throw (f : Failure) : Alike ρ (throw f : Action σ α) (throw f) :=
  fun _ _ hs => .error f hs

end

/-! ## Twins -/

/-- What holds between the clock and the world of one session and those of another. -/
abbrev Pace (σ : Type) := TickClock → σ → TickClock → σ → Prop

/-- The machines of two sessions are the same but for their clocks, and since the hosts had been
told some effects each they were told the same. -/
structure Twins (W : Pace σ) (before before' : Array Effect) (s t : Session σ) : Prop where
  machine : t.machine = { s.machine with clock := t.machine.clock }
  pace : W s.machine.clock s.world t.machine.clock t.world
  told : ∃ tail, s.effects = before ++ tail ∧ t.effects = before' ++ tail

section

variable {W : Pace σ} {before before' : Array Effect}

/-- What follows a look at the machine may not depend on the clock. -/
theorem alike_getMachine {f : Machine → Action σ β}
    (hblind : ∀ m clock, f { m with clock } = f m)
    (hf : ∀ m, Alike (Twins W before before') (f m) (f m)) :
    Alike (Twins W before before') (getMachine >>= f) (getMachine >>= f) := by
  intro s t hs
  have hmachine : f t.machine = f s.machine := by rw [hs.machine, hblind]
  rw [run_bind_of_ok run_getMachine, run_bind_of_ok run_getMachine, hmachine]
  exact hf s.machine s t hs

/-- A change of the machine may not have to do with the clock. -/
theorem alike_update {f : Machine → Machine}
    (hblind : ∀ m clock, f { m with clock } = { f m with clock }) :
    Alike (Twins W before before') (update f) (update f) := by
  have hclock (m : Machine) : (f m).clock = m.clock := by
    have hsame := congrArg Machine.clock (hblind m m.clock)
    exact hsame
  intro s t hs
  rw [run_update, run_update]
  refine .ok () ⟨?_, ?_, hs.told⟩
  · show f t.machine = { f s.machine with clock := (f t.machine).clock }
    rw [hclock, hs.machine, hblind]
  · show W (f s.machine).clock s.world (f t.machine).clock t.world
    rw [hclock, hclock]
    exact hs.pace

theorem alike_tell (e : Effect) : Alike (Twins W before before') (tell e) (tell e) := by
  intro s t hs
  obtain ⟨tail, hs', ht'⟩ := hs.told
  refine .ok () ⟨hs.machine, hs.pace, tail.push e, ?_, ?_⟩
  · show s.effects.push e = _
    rw [hs', Array.push_append]
  · show t.effects.push e = _
    rw [ht', Array.push_append]

theorem alike_log (level : LogLevel) (message : Text) :
    Alike (Twins W before before') (log level message) (log level message) := alike_tell _

/-! ## Slots, ticks and keys -/

theorem alike_reportSound (active : Bool) :
    Alike (Twins W before before') (reportSound active) (reportSound active) := by
  refine alike_getMachine (fun _ _ => rfl) fun m => .ite ?_ (.pure ())
  exact (alike_update fun _ _ => rfl).bind fun _ => (alike_log _ _).bind fun _ => alike_tell _

theorem alike_syncSound : Alike (Twins W before before') syncSound syncSound :=
  alike_getMachine (fun _ _ => rfl) fun _ => alike_reportSound _

theorem alike_ensureRunning : Alike (Twins W before before') ensureRunning ensureRunning := by
  refine alike_getMachine (fun _ _ => rfl) fun m => .ite ?_ (.pure ())
  refine (alike_lift _).bind fun failure => ?_
  cases failure with
  | none => exact .pure ()
  | some f => exact alike_throw f

theorem alike_checkFault : Alike (Twins W before before') checkFault checkFault := by
  refine alike_getMachine (fun _ _ => rfl) fun m => (alike_lift _).bind fun failure => ?_
  cases failure with
  | none => exact .pure ()
  | some f => exact (alike_log _ _).bind fun _ => alike_throw f

theorem alike_runSlots (n : Nat) :
    Alike (Twins W before before') (runSlots n) (runSlots n) :=
  alike_ensureRunning.bind fun _ => alike_getMachine (fun _ _ => rfl) fun _ =>
    (alike_lift _).bind fun _ => (alike_update fun _ _ => rfl).bind fun _ =>
      alike_checkFault.bind fun _ => alike_syncSound

theorem alike_tick (count : Int) : Alike (Twins W before before') (tick count) (tick count) :=
  (alike_update fun _ _ => rfl).bind fun _ => alike_syncSound

theorem alike_setKeypad (f : Keypad → Keypad) :
    Alike (Twins W before before') (setKeypad f) (setKeypad f) := alike_update fun _ _ => rfl

theorem alike_press (key : HostValue) : Alike (Twins W before before') (press key) (press key) :=
  alike_getMachine (fun _ _ => rfl) fun _ => (alike_lift _).bind fun _ => alike_setKeypad _

theorem alike_release (key : HostValue) :
    Alike (Twins W before before') (release key) (release key) :=
  alike_getMachine (fun _ _ => rfl) fun _ => (alike_lift _).bind fun _ => alike_setKeypad _

theorem alike_setKeys (keys : HostValue) :
    Alike (Twins W before before') (setKeys keys) (setKeys keys) :=
  (alike_lift _).bind fun _ => alike_setKeypad _

/-! ## Frames -/

variable {host : Host σ} (hshown : ∀ {c c' : TickClock} {w w' : σ} (picture : Display),
  W c w c' w' → W c (host.present picture w) c' (host.present picture w'))

include hshown

theorem alike_present : Alike (Twins W before before') (present host) (present host) := by
  refine alike_getMachine (fun _ _ => rfl) fun m => (alike_tell _).bind fun _ s t hs => ?_
  exact .ok () ⟨hs.machine, hshown _ hs.pace, hs.told⟩

theorem alike_runFrame (ticks : Int) :
    Alike (Twins W before before') (runFrame host ticks) (runFrame host ticks) :=
  alike_getMachine (fun _ _ => rfl) fun _ => (alike_runSlots _).bind fun _ =>
    (alike_tick ticks).bind fun _ => (alike_update fun _ _ => rfl).bind fun _ =>
      alike_present hshown

end

end Chip8.Session
