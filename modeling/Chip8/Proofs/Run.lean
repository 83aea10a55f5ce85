import Chip8.Proofs.Slot
import Chip8.Rom

/-!
# Runs and reachable states

Between two slots the timers may count down and the host may put other keys down. An `Event` is one
of these three, and `State.applyAll` goes through any finite sequence of them.

A machine is *started* by switching it on and loading a program, and a state is *reachable* if some
sequence of events leads from a started machine to it. What holds of started machines and is
preserved by every event therefore holds in every reachable state, and a property of runs is a
property of lists of events.
-/

namespace Chip8

/-! ## Events -/

/-- One thing that happens to a machine. -/
inductive Event
  | slot
  | tick
  | keys (keypad : Keypad)
deriving DecidableEq

namespace State

/-- The state after an event. -/
def apply (s : State) : Event → State
  | .slot => s.step
  | .tick => s.tick
  | .keys keypad => { s with keypad }

/-- The state after a sequence of events. -/
def applyAll (s : State) (events : List Event) : State := events.foldl apply s

theorem applyAll_cons (s : State) (e : Event) (es : List Event) :
    s.applyAll (e :: es) = (s.apply e).applyAll es := rfl

theorem applyAll_append (s : State) (es es' : List Event) :
    s.applyAll (es ++ es') = (s.applyAll es).applyAll es' :=
  List.foldl_append

theorem applyAll_concat (s : State) (es : List Event) (e : Event) :
    s.applyAll (es ++ [e]) = (s.applyAll es).apply e := by
  rw [applyAll_append]
  rfl

theorem applyAll_slots (s : State) (n : Nat) : s.applyAll (.replicate n .slot) = s.run n := by
  induction n generalizing s with
  | zero => rfl
  | succ n ih => exact ih s.step

end State

/-! ## Loading -/

theorem bounds_of_obstacle?_eq_none {rom : Rom} {a : Int} (h : rom.obstacle? a = none) :
    0 ≤ a ∧ a < memorySize := by
  unfold Rom.obstacle? at h
  split at h
  · cases h
  · rename_i hbounds
    omega

theorem touchesFont_of_obstacle?_eq_none {rom : Rom} {a : Int} (h : rom.obstacle? a = none) :
    touchesFont a.toNat rom.length = false := by
  unfold Rom.obstacle? at h
  split at h
  · cases h
  · dsimp only at h
    split at h
    · cases h
    · split at h
      · cases h
      · exact Bool.eq_false_iff.2 ‹_›

theorem loadRom_eq_ok_iff {s t : State} {rom : Rom} {a : Int} :
    s.loadRom rom a = .ok t ↔ rom.obstacle? a = none ∧
      { s with memory := s.memory.writeAll a.toNat rom, pc := BitVec.ofInt 16 a } = t := by
  unfold State.loadRom
  split <;> simp_all

/-- Whatever a host gives as an address, a program is loaded at a whole number. -/
theorem loadRom_of_loadRomAt {s t : State} {rom : Rom} {address : HostValue}
    (h : s.loadRomAt rom address = .ok t) : ∃ a : Int, s.loadRom rom a = .ok t := by
  unfold State.loadRomAt at h
  split at h
  · split at h
    · cases h
    · exact ⟨_, h⟩
  · split at h
    · exact ⟨_, h⟩
    · cases h

theorem create_eq_ok_iff {source : RandomSource} {key : WordPair} {counter : Int} {s : State} :
    State.create source key counter = .ok s ↔
      ∃ pc, counterOfInt? counter = some pc ∧ State.powerOn source key pc = s := by
  unfold State.create
  split <;> simp_all

/-! ## Reachable states -/

/-- A machine that was switched on and had a program loaded, each with what the host gave. -/
inductive Started : State → Prop
  | load {source : RandomSource} {key : WordPair} {counter : Int} {rom : Rom} {address : HostValue}
      {fresh s : State} : State.create source key counter = .ok fresh →
      fresh.loadRomAt rom address = .ok s → Started s

/-- A state that a started machine can get to. -/
inductive Reachable : State → Prop
  | start {s : State} : Started s → Reachable s
  | event {s : State} (e : Event) : Reachable s → Reachable (s.apply e)

theorem Reachable.applyAll {s : State} (h : Reachable s) (es : List Event) :
    Reachable (s.applyAll es) := by
  induction es generalizing s with
  | nil => exact h
  | cons e es ih => exact ih (h.event e)

/-- The reachable states are those at the end of a run of a started machine. -/
theorem reachable_iff {s : State} :
    Reachable s ↔ ∃ fresh es, Started fresh ∧ fresh.applyAll es = s := by
  constructor
  · intro h
    induction h with
    | start hstart => exact ⟨_, [], hstart, rfl⟩
    | event e _ ih =>
      obtain ⟨fresh, es, hstart, rfl⟩ := ih
      exact ⟨fresh, es ++ [e], hstart, State.applyAll_concat fresh es e⟩
  · rintro ⟨fresh, es, hstart, rfl⟩
    exact (Reachable.start hstart).applyAll es

/-- A machine just switched on, with a program at an address. -/
def State.withRom (source : RandomSource) (key : WordPair) (rom : Rom) (a : Int) : State :=
  { State.powerOn source key (BitVec.ofInt 16 a) with
    memory := Memory.powerOn.writeAll a.toNat rom }

/-- The started machines are those with a program at an address where nothing is in its way. -/
theorem started_iff {s : State} :
    Started s ↔ ∃ source key rom, ∃ a : Int, Rom.obstacle? rom a = none ∧
      State.withRom source key rom a = s := by
  constructor
  · rintro ⟨hcreate, hload⟩
    rename_i source key counter rom address fresh
    obtain ⟨a, ha⟩ := loadRom_of_loadRomAt hload
    obtain ⟨hnone, rfl⟩ := loadRom_eq_ok_iff.1 ha
    obtain ⟨pc, -, rfl⟩ := create_eq_ok_iff.1 hcreate
    exact ⟨source, key, rom, a, hnone, rfl⟩
  · rintro ⟨source, key, rom, a, hnone, rfl⟩
    have hcreate : State.create source key 0 = .ok (State.powerOn source key 0) := rfl
    have hload : (State.powerOn source key 0).loadRomAt rom (.int a) =
        .ok (State.withRom source key rom a) := by
      rw [State.loadRomAt_int]
      exact loadRom_eq_ok_iff.2 ⟨hnone, rfl⟩
    exact .load hcreate hload

end Chip8
