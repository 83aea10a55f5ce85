import Chip8.Proofs.Decoding
import Chip8.Proofs.Run

/-!
# Waiting for a key

A slot that begins a wait keeps the keypad that it sees, and every later slot of the wait is a poll
that sees the keypad of its own time. A key is *fresh* at a poll if it is down and was up at some
earlier sample, the one at the beginning included (`Fresh`). The machine does not keep the samples:
it keeps the keys that were down at all of them, and `Awaiting` says that this is enough.

**`keyWait_protocol`.** As long as no key is fresh, the wait goes on and nothing but the timers and
the keypad changes, whatever the host does to them between the slots. The first poll with a fresh
key puts the lowest one in the register of the instruction and ends the wait behind the instruction.
A key that was down all the time is not fresh, so it never ends the wait.
-/

namespace Chip8

/-! ## Samples and fresh keys -/

/-- The keypads that the slots of a run see, in order, if `k` is in place at first. -/
def samples (k : Keypad) : List Event → List Keypad
  | [] => []
  | .slot :: es => k :: samples k es
  | .tick :: es => samples k es
  | .keys k' :: es => samples k' es

/-- A key is down now and was up at some earlier sample. -/
structure Fresh (earlier : List Keypad) (now : Keypad) (key : Nibble) : Prop where
  down : now.isDown key = true
  up : ∃ k ∈ earlier, k.isDown key = false

/-- No sample has a fresh key, where the samples follow earlier ones. -/
def Quiet (earlier sampled : List Keypad) : Prop :=
  ∀ before k, before ++ [k] <+: sampled → ∀ key, ¬ Fresh (earlier ++ before) k key

theorem not_fresh_of_held {earlier : List Keypad} {now : Keypad} {key : Nibble}
    (hheld : ∀ k ∈ earlier, k.isDown key = true) : ¬ Fresh earlier now key := by
  rintro ⟨-, k, hk, hup⟩
  rw [hheld k hk] at hup
  cases hup

theorem fresh_singleton_iff {k now : Keypad} {key : Nibble} :
    Fresh [k] now key ↔ now.isDown key = true ∧ k.isDown key = false := by
  constructor
  · rintro ⟨hdown, l, hl, hup⟩
    obtain rfl := List.mem_singleton.1 hl
    exact ⟨hdown, hup⟩
  · rintro ⟨hdown, hup⟩
    exact ⟨hdown, k, List.mem_singleton_self k, hup⟩

theorem quiet_nil (earlier : List Keypad) : Quiet earlier [] := by
  intro before k hprefix
  have hnil : before ++ [k] = [] := List.prefix_nil.1 hprefix
  cases before <;> cases hnil

theorem quiet_cons_iff {earlier sampled : List Keypad} {k : Keypad} :
    Quiet earlier (k :: sampled) ↔
      (∀ key, ¬ Fresh earlier k key) ∧ Quiet (earlier ++ [k]) sampled := by
  constructor
  · refine fun h => ⟨fun key => ?_, fun before k' hprefix key => ?_⟩
    · have hfirst := h [] k (List.cons_prefix_cons.2 ⟨rfl, List.nil_prefix⟩) key
      rwa [List.append_nil] at hfirst
    · have hlater := h (k :: before) k' (List.cons_prefix_cons.2 ⟨rfl, hprefix⟩) key
      rwa [List.append_assoc, List.singleton_append]
  · rintro ⟨hfirst, hlater⟩ before k' hprefix key
    cases before with
    | nil =>
      obtain ⟨rfl, -⟩ := List.cons_prefix_cons.1 hprefix
      rw [List.append_nil]
      exact hfirst key
    | cons _ before =>
      obtain ⟨rfl, hrest⟩ := List.cons_prefix_cons.1 hprefix
      have hkey := hlater before k' hrest key
      rwa [List.append_assoc, List.singleton_append] at hkey

namespace State

/-! ## Polls -/

variable {s u : State} {x : Nibble} {seen : List Keypad}

theorem setWidth_setWidth (x : Nibble) : (x.setWidth 8).setWidth 4 = x := by
  rw [BitVec.setWidth_setWidth_of_le x (by decide), BitVec.setWidth_eq]

theorem setNumbered_setWidth (v : Registers) (x : Nibble) (b : Byte) :
    setNumbered v (x.setWidth 8) b = v.set x b := by
  have hnumber : (x.setWidth 8).toNat = x.toNat := by
    have hx := x.isLt
    rw [BitVec.toNat_setWidth]
    exact Nat.mod_eq_of_lt (by omega)
  rw [setNumbered, hnumber, if_pos x.isLt, setWidth_setWidth]

/-- The keys that were down at the beginning of a wait and at every poll, this one included. -/
def stillHeld (s : State) : Keypad := s.wait.held.inter s.keypad

theorem pollKey_of_some {key : Nibble} (h : (s.keypad.without s.stillHeld).lowest? = some key) :
    s.pollKey = { s with
      registers := setNumbered s.registers s.wait.register (key.setWidth 8)
      wait := { s.wait with pending := false, held := s.stillHeld } } := by
  simp only [stillHeld] at h
  simp only [pollKey, h, stillHeld]

theorem pollKey_of_none (h : (s.keypad.without s.stillHeld).lowest? = none) :
    s.pollKey = { s with wait := { s.wait with held := s.stillHeld } } := by
  simp only [stillHeld] at h
  simp only [pollKey, h, stillHeld]

/-- What a poll takes for a fresh key is one that is down and is not counted as held. -/
theorem isDown_without_stillHeld_iff {key : Nibble} :
    (s.keypad.without s.stillHeld).isDown key = true ↔ Fresh [s.wait.held] s.keypad key := by
  rw [fresh_singleton_iff, Keypad.isDown_without, stillHeld, Keypad.isDown_inter]
  cases s.keypad.isDown key <;> cases s.wait.held.isDown key <;> simp

/-! ## The wait -/

/-- A running machine whose next slot begins a wait for a key for a register. -/
structure AsksForKey (s : State) (x : Nibble) : Prop extends s.Running where
  canFetch : s.canFetch = true
  fetch : s.fetch &&& 0xF0FF = 0xF00A
  register : wordX s.fetch = x

/-- The parts that differ between the beginning of a wait and a later time in it. -/
def waitParts : List Part := [.pc, .delay, .sound, .keypad, .wait]

/-- The machine `u` is in the wait that a slot of `s` has begun, and `seen` are the samples. -/
structure Awaiting (s : State) (x : Nibble) (seen : List Keypad) (u : State) : Prop where
  not_halted : u.halted = false
  pending : u.wait.pending = true
  register : u.wait.register = x.setWidth 8
  held : ∀ key, u.wait.held.isDown key = true ↔ ∀ k ∈ seen, k.isDown key = true
  pc : u.pc = s.pc + 2
  kept : ∀ p ∉ waitParts, p.Kept s u

theorem awaiting_step (h : s.AsksForKey x) : Awaiting s x [s.keypad] s.step := by
  have hstep : s.step = { s with pc := s.pc + 2, wait := ⟨true, x.setWidth 8, s.keypad⟩ } :=
    step_of_run h.toRunning h.canFetch (decode?_eq_waitKey_iff.2 ⟨h.fetch, h.register⟩) rfl
  rw [hstep]
  refine ⟨h.not_halted, rfl, rfl, fun key => by simp, rfl, fun p hp => ?_⟩
  cases p <;> simp_all [waitParts, Part.Kept]

namespace Awaiting

theorem tick (h : Awaiting s x seen u) : Awaiting s x seen u.tick :=
  ⟨h.not_halted, h.pending, h.register, h.held, h.pc, fun p hp =>
    (h.kept p hp).trans (by cases p <;> simp_all [waitParts, Part.Kept, State.tick])⟩

theorem keys (h : Awaiting s x seen u) (k : Keypad) : Awaiting s x seen { u with keypad := k } :=
  ⟨h.not_halted, h.pending, h.register, h.held, h.pc, fun p hp =>
    (h.kept p hp).trans (by cases p <;> simp_all [waitParts, Part.Kept])⟩

/-- What the machine takes for a fresh key is one. -/
theorem isDown_iff_fresh (h : Awaiting s x seen u) (key : Nibble) :
    (u.keypad.without u.stillHeld).isDown key = true ↔ Fresh seen u.keypad key := by
  have hheld : u.wait.held.isDown key = false ↔ ∃ k ∈ seen, k.isDown key = false := by
    rw [← Bool.not_eq_true, h.held key]
    simp
  rw [isDown_without_stillHeld_iff, fresh_singleton_iff]
  constructor
  · rintro ⟨hnow, hup⟩
    exact ⟨hnow, hheld.1 hup⟩
  · rintro ⟨hnow, hup⟩
    exact ⟨hnow, hheld.2 hup⟩

theorem lowest?_eq_some (h : Awaiting s x seen u) {key : Nibble}
    (hfresh : Fresh seen u.keypad key) (hlowest : ∀ key' < key, ¬ Fresh seen u.keypad key') :
    (u.keypad.without u.stillHeld).lowest? = some key := by
  refine Keypad.lowest?_eq_some_iff.2 ⟨(h.isDown_iff_fresh key).2 hfresh, fun key' hlt => ?_⟩
  rw [← Bool.not_eq_true, h.isDown_iff_fresh]
  exact hlowest key' hlt

theorem lowest?_eq_none (h : Awaiting s x seen u) (hnone : ∀ key, ¬ Fresh seen u.keypad key) :
    (u.keypad.without u.stillHeld).lowest? = none := by
  refine Keypad.lowest?_eq_none_iff.2 fun key => ?_
  rw [← Bool.not_eq_true, h.isDown_iff_fresh]
  exact hnone key

/-- Of the fresh keys, if there are any, one is the lowest. -/
theorem exists_lowest (h : Awaiting s x seen u) : (∀ key, ¬ Fresh seen u.keypad key) ∨
    ∃ key, Fresh seen u.keypad key ∧ ∀ key' < key, ¬ Fresh seen u.keypad key' := by
  cases hlowest : (u.keypad.without u.stillHeld).lowest? with
  | none =>
    refine .inl fun key hfresh => ?_
    have hup := Keypad.lowest?_eq_none_iff.1 hlowest key
    rw [(h.isDown_iff_fresh key).2 hfresh] at hup
    cases hup
  | some key =>
    obtain ⟨hdown, hbelow⟩ := Keypad.lowest?_eq_some_iff.1 hlowest
    refine .inr ⟨key, (h.isDown_iff_fresh key).1 hdown, fun key' hlt hfresh => ?_⟩
    have hup := hbelow key' hlt
    rw [(h.isDown_iff_fresh key').2 hfresh] at hup
    cases hup

/-- A poll without a fresh key only notes which keys are still held. -/
theorem step_of_none (h : Awaiting s x seen u) (hnone : ∀ key, ¬ Fresh seen u.keypad key) :
    u.step = { u with wait := { u.wait with held := u.stillHeld } } := by
  rw [step_of_waiting h.not_halted h.pending, pollKey_of_none (h.lowest?_eq_none hnone)]

/-- A poll with a fresh key takes the lowest one and ends the wait. -/
theorem step_of_fresh (h : Awaiting s x seen u) {key : Nibble}
    (hfresh : Fresh seen u.keypad key) (hlowest : ∀ key' < key, ¬ Fresh seen u.keypad key') :
    u.step = { u with
      registers := u.registers.set x (key.setWidth 8)
      wait := { u.wait with pending := false, held := u.stillHeld } } := by
  rw [step_of_waiting h.not_halted h.pending, pollKey_of_some (h.lowest?_eq_some hfresh hlowest),
    h.register, setNumbered_setWidth]

theorem poll (h : Awaiting s x seen u) (hnone : ∀ key, ¬ Fresh seen u.keypad key) :
    Awaiting s x (seen ++ [u.keypad]) u.step := by
  rw [h.step_of_none hnone]
  refine ⟨h.not_halted, h.pending, h.register, fun key => ?_, h.pc, fun p hp =>
    (h.kept p hp).trans (by cases p <;> simp_all [waitParts, Part.Kept])⟩
  simp only [stillHeld, Keypad.isDown_inter, Bool.and_eq_true, h.held key, List.forall_mem_append,
    List.forall_mem_singleton]

/-- **The wait goes on** through any events among whose samples none has a fresh key. -/
theorem applyAll (h : Awaiting s x seen u) (es : List Event)
    (hquiet : Quiet seen (samples u.keypad es)) :
    Awaiting s x (seen ++ samples u.keypad es) (u.applyAll es) := by
  -- Each event keeps `Awaiting`, and only a slot adds the keypad that it sees to the samples.
  induction es generalizing u seen with
  | nil =>
    rw [samples, List.append_nil]
    exact h
  | cons e es ih =>
    cases e with
    | slot =>
      rw [samples] at hquiet ⊢
      obtain ⟨hnone, hlater⟩ := quiet_cons_iff.1 hquiet
      have hkeypad : u.step.keypad = u.keypad := by rw [h.step_of_none hnone]
      have hnext := ih (h.poll hnone) (by rwa [hkeypad])
      rwa [hkeypad, List.append_assoc, List.singleton_append] at hnext
    | tick => exact ih h.tick hquiet
    | keys k => exact ih (h.keys k) hquiet

end Awaiting

end State

open State

/-- **The protocol of a wait for a key.** Let a slot of `s` begin a wait, and let `u` be reached
from there by slots, ticks and changes of the keypad so that no key was fresh at a slot. Then the
machine still waits, and only the timers, the keypad and the record of the wait may be different. If
no key is fresh at the next slot either, it goes on waiting and changes nothing else. Otherwise the
lowest fresh key goes to the register of the instruction, the wait ends, and the machine goes on
with the word behind the instruction. A key that was held at all samples is never the one taken. -/
theorem keyWait_protocol {s u : State} {x : Nibble} {es : List Event} {seen : List Keypad}
    (hwait : s.AsksForKey x) (hquiet : Quiet [s.keypad] (samples s.keypad es))
    (hseen : s.keypad :: samples s.keypad es = seen) (hu : s.step.applyAll es = u) :
    (u.wait.pending = true ∧ u.pc.toNat = s.pc.toNat + 2 ∧ ∀ p ∉ waitParts, p.Kept s u) ∧
    ((∀ key, ¬ Fresh seen u.keypad key) →
      u.step.wait.pending = true ∧ ∀ p ≠ Part.wait, p.Kept u u.step) ∧
    (∀ key, Fresh seen u.keypad key → (∀ key' < key, ¬ Fresh seen u.keypad key') →
      u.step.registers = u.registers.set x (key.setWidth 8) ∧
      (∀ p ∉ [Part.registers, .wait], p.Kept u u.step) ∧ u.step.Running ∧
      u.step.pc.toNat = s.pc.toNat + 2 ∧
      u.step.step =
        if u.step.canFetch then u.step.execute u.step.fetch else u.step.fetchFault) ∧
    ∀ key, (∀ k ∈ seen, k.isDown key = true) → u.step.wait.pending = false →
      u.step.registers.get x ≠ key.setWidth 8 := by
  subst hseen hu
  have hbegin := awaiting_step hwait
  have hkeypad : s.step.keypad = s.keypad := keypad_step s
  have hawaits := hbegin.applyAll es (by rwa [hkeypad])
  rw [hkeypad, List.singleton_append] at hawaits
  generalize s.step.applyAll es = u at *
  have hpc : u.pc.toNat = s.pc.toNat + 2 := by
    have hfetch := canFetch_iff.1 hwait.canFetch
    rw [hawaits.pc, BitVec.toNat_add]
    exact Nat.mod_eq_of_lt (by simp only [memorySize] at hfetch; show s.pc.toNat + 2 < 65536; omega)
  refine ⟨⟨hawaits.pending, hpc, hawaits.kept⟩, fun hnone => ?_, fun key hfresh hlowest => ?_,
    fun key hheld hended htaken => ?_⟩
  · rw [hawaits.step_of_none hnone]
    exact ⟨hawaits.pending, fun p hp => by cases p <;> simp_all [Part.Kept]⟩
  · have hstep := hawaits.step_of_fresh hfresh hlowest
    have hrun : u.step.Running := by
      rw [hstep]
      exact ⟨hawaits.not_halted, rfl⟩
    refine ⟨by rw [hstep], fun p hp => ?_, hrun, by rw [hstep, hpc], ?_⟩
    · rw [hstep]
      cases p <;> simp_all [Part.Kept]
    · split
      · exact step_of_canFetch hrun ‹_›
      · exact step_of_not_canFetch hrun (Bool.eq_false_iff.2 ‹_›)
  · rcases hawaits.exists_lowest with hnone | ⟨key', hfresh, hlowest⟩
    · rw [hawaits.step_of_none hnone] at hended
      exact absurd (hawaits.pending.symm.trans hended) (by decide)
    · rw [hawaits.step_of_fresh hfresh hlowest, Registers.get_set, if_pos rfl] at htaken
      have hkey : key' = key := by
        rw [← setWidth_setWidth key', htaken, setWidth_setWidth]
      exact not_fresh_of_held hheld (hkey ▸ hfresh)

/-- A program that waits for a key for register 3. -/
def keyRom : Rom := [0xF3, 0x0A]

/-- The machine about to wait, with key 5 down. -/
def beforeWait : State :=
  { State.withRom .keyed ⟨0, 0⟩ keyRom programStart with keypad := Keypad.none.press 5 }

/-- A slot, a tick, all keys let up, another slot, and then keys 3 and 5 pressed at once. -/
def pressAgain : List Event :=
  [.slot, .tick, .keys .none, .slot, .keys ((Keypad.none.press 3).press 5)]

theorem fetch_beforeWait : beforeWait.fetch = 0xF30A := by
  simp [State.fetch, beforeWait, keyRom, State.withRom, State.powerOn, Memory.read_writeAll,
    memorySize, programStart]

/-- Key 5 is down when the wait begins and counts only when it is pressed again; key 3, pressed at
the same time, is the lower one and is taken. -/
theorem pressAgain_takes_three :
    beforeWait.AsksForKey 3 ∧ Quiet [beforeWait.keypad] (samples beforeWait.keypad pressAgain) ∧
      (beforeWait.step.applyAll pressAgain).wait.pending = true ∧
      (beforeWait.step.applyAll pressAgain).step.Running ∧
      (beforeWait.step.applyAll pressAgain).step.registers.get 3 = 3 := by
  have hwait : beforeWait.AsksForKey 3 :=
    ⟨⟨rfl, rfl⟩, by decide, by rw [fetch_beforeWait]; decide, by rw [fetch_beforeWait]; decide⟩
  have hnone : ∀ key, ¬ Keypad.none.isDown key = true := by decide
  have hbelow : ∀ key < 3, ¬ ((Keypad.none.press 3).press 5).isDown key = true := by decide
  have hquiet : Quiet [beforeWait.keypad] (samples beforeWait.keypad pressAgain) := by
    refine quiet_cons_iff.2 ⟨fun key hfresh => ?_, quiet_cons_iff.2 ⟨fun key hfresh => ?_,
      quiet_nil _⟩⟩
    · exact not_fresh_of_held (by simpa using hfresh.down) hfresh
    · exact hnone key hfresh.down
  obtain ⟨⟨hpending, -⟩, -, htake, -⟩ := keyWait_protocol hwait hquiet rfl rfl
  have hfresh : Fresh (beforeWait.keypad :: samples beforeWait.keypad pressAgain)
      ((Keypad.none.press 3).press 5) 3 := ⟨by decide, Keypad.none, by decide, by decide⟩
  have hlowest : ∀ key < 3, ¬ Fresh (beforeWait.keypad :: samples beforeWait.keypad pressAgain)
      ((Keypad.none.press 3).press 5) key := fun key hlt hlower => hbelow key hlt hlower.down
  obtain ⟨hregisters, -, hrun, -⟩ := htake 3 hfresh hlowest
  refine ⟨hwait, hquiet, hpending, hrun, ?_⟩
  rw [hregisters, Registers.get_set, if_pos rfl]
  rfl

end Chip8
