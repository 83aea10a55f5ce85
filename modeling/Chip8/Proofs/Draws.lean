import Chip8.Proofs.Interleaving
import Chip8.Random.Replay

/-!
# Random bytes are drawn in turn

A replay source hands out the bytes of a list over and over, and the first word of its key is the
cursor. A slot moves the cursor by one if it executes the instruction that draws a byte
(`State.Draws`) and leaves it alone otherwise, whatever else it does, and ticks and keys leave it
alone too. So over a run the cursor moves by the number of draws (`State.draws`), modulo `2 ^ 32`
like every word of a key.

**`drawn_in_turn`** says this, and that the draws of a run take the bytes in the order of the list:
the draw behind `k` others sets its register to the byte that stands `k` places behind the cursor
with which the run began.
-/

namespace Chip8

/-! ## One slot -/

/-- A running machine whose next slot draws a random byte. -/
structure State.Draws (s : State) : Prop extends s.Running where
  canFetch : s.canFetch = true
  fetch : s.fetch &&& 0xF000 = 0xC000

namespace State

variable {s : State} {e : Event} {bytes : List Byte} {hne : bytes ≠ []}

instance : DecidablePred Draws := fun s =>
  decidable_of_iff (s.Running ∧ s.canFetch = true ∧ s.fetch &&& 0xF000 = 0xC000)
    ⟨fun ⟨hrun, hf, hw⟩ => ⟨hrun, hf, hw⟩, fun h => ⟨h.toRunning, h.canFetch, h.fetch⟩⟩

theorem step_of_draws (h : s.Draws) :
    s.step = { s with
      pc := s.pc + 2
      registers := s.registers.set (wordX s.fetch) ((s.source.next s.key).1 &&& wordByte s.fetch)
      key := (s.source.next s.key).2 } :=
  step_of_run h.toRunning h.canFetch (decode?_eq_random_iff.2 ⟨h.fetch, rfl, rfl⟩) rfl

theorem key_step_of_not_draws (h : ¬ s.Draws) : s.step.key = s.key := by
  refine kept_step_of_not_writes (p := .key) (by decide) ?_
  intro a w hw hdraws
  obtain ⟨hrun, hf, -, rfl⟩ := executed?_eq_some_iff.1 hw
  exact h ⟨hrun, hf, hdraws⟩

theorem source_step (s : State) : s.step.source = s.source :=
  kept_step_of_not_writes (p := .source) (by decide) fun _ _ _ hwrites => hwrites

theorem source_apply (s : State) (e : Event) : (s.apply e).source = s.source := by
  cases e with
  | slot => exact source_step s
  | tick | keys => rfl

/-! ## The cursor -/

/-- How many of the slots among events draw a random byte. -/
def draws : State → List Event → Nat
  | _, [] => 0
  | s, e :: es => (if e = .slot ∧ s.Draws then 1 else 0) + (s.apply e).draws es

theorem key_apply (hsource : s.source = .replay bytes hne) (e : Event) :
    (s.apply e).key =
      ⟨s.key.fst + BitVec.ofNat 32 (if e = .slot ∧ s.Draws then 1 else 0), s.key.snd⟩ := by
  split
  · rename_i h
    obtain ⟨rfl, hdraws⟩ := h
    rw [apply, step_of_draws hdraws, hsource]
    rfl
  · rename_i h
    have hkey : (s.apply e).key = s.key := by
      cases e with
      | slot => exact key_step_of_not_draws fun hdraws => h ⟨rfl, hdraws⟩
      | tick | keys => rfl
    rw [hkey]
    simp

/-- **The cursor follows the draws.** -/
theorem key_applyAll (hsource : s.source = .replay bytes hne) (es : List Event) :
    (s.applyAll es).key = ⟨s.key.fst + BitVec.ofNat 32 (s.draws es), s.key.snd⟩ := by
  induction es generalizing s with
  | nil => simp [applyAll, draws]
  | cons e es ih =>
    rw [applyAll_cons, ih ((source_apply s e).trans hsource), key_apply hsource, draws,
      BitVec.ofNat_add, BitVec.add_assoc]

theorem source_applyAll (s : State) (es : List Event) : (s.applyAll es).source = s.source := by
  induction es generalizing s with
  | nil => rfl
  | cons e es ih => rw [applyAll_cons, ih, source_apply]

/-! ## The bytes -/

/-- A draw takes the byte at the cursor. -/
theorem get_step_of_draws (hsource : s.source = .replay bytes hne) (h : s.Draws) :
    s.step.registers.get (wordX s.fetch) =
      RandomSource.replayByte bytes s.key.fst &&& wordByte s.fetch := by
  rw [step_of_draws h, hsource]
  show (Registers.set _ _ _).get (wordX s.fetch) = _
  rw [Registers.get_set, if_pos rfl]
  rfl

end State

/-- **Random bytes are drawn in turn.** Let a machine have a source that replays values from its
host, and let it come to `u` by slots, ticks and changes of the keypad. Then the cursor has moved by
one for each draw among them and the rest of the key is the same. If the next slot draws a byte, it
takes the one that is as many places behind the first as bytes were drawn, modulo the range of the
cursor and then the number of values. -/
theorem drawn_in_turn {s u : State} {values : HostValue} {bytes : List Byte} {es : List Event}
    (hbytes : values.leaves.mapM HostValue.toByte = .ok bytes)
    (hsource : RandomSource.ofHost values = .ok s.source) (hu : s.applyAll es = u) :
    u.key.fst.toNat = (s.key.fst.toNat + s.draws es) % 0x100000000 ∧ u.key.snd = s.key.snd ∧
    (u.Draws → ∃ b, bytes[(s.key.fst.toNat + s.draws es) % 0x100000000 % bytes.length]? = some b ∧
      u.step.registers.get (wordX u.fetch) = b &&& wordByte u.fetch) := by
  subst hu
  obtain ⟨bytes', hne, hbytes', hreplay⟩ := RandomSource.ofHost_eq_ok hsource
  obtain rfl := Except.ok.inj (hbytes.symm.trans hbytes')
  have hkey := State.key_applyAll hreplay es
  have hcursor : (s.applyAll es).key.fst.toNat = (s.key.fst.toNat + s.draws es) % 0x100000000 := by
    rw [hkey, BitVec.toNat_add, BitVec.toNat_ofNat]
    exact Nat.add_mod_mod _ _ _
  refine ⟨hcursor, by rw [hkey], fun hdraws => ?_⟩
  have hsource' := (State.source_applyAll s es).trans hreplay
  refine ⟨_, ?_, State.get_step_of_draws hsource' hdraws⟩
  rw [← hcursor]
  exact RandomSource.getElem?_replayByte hne _

/-- A program that draws two bytes. -/
def diceRom : Rom := [0xC0, 0xFF, 0xC1, 0x0F]

/-- The values of a replay source. -/
def diceValues : HostValue := .list [.int 0xC8, .int 7, .int 9]

/-- The machine at the start of the program, with the cursor at its greatest value. -/
def beforeDice : State :=
  .withRom (.replay [0xC8, 7, 9] (by decide)) ⟨0xFFFFFFFF, 5⟩ diceRom programStart

theorem fetch_beforeDice : beforeDice.fetch = 0xC0FF := by
  simp [State.fetch, beforeDice, diceRom, State.withRom, State.powerOn, Memory.read_writeAll,
    memorySize, programStart]

theorem draws_beforeDice : beforeDice.Draws :=
  ⟨⟨rfl, rfl⟩, by decide, by rw [fetch_beforeDice]; decide⟩

/-- The machine behind the first draw. -/
def afterFirstDraw : State :=
  { beforeDice with pc := 0x202, registers := Registers.zero.set 0 0xC8, key := ⟨0, 5⟩ }

theorem step_beforeDice : beforeDice.step = afterFirstDraw := by
  rw [State.step_of_draws draws_beforeDice, fetch_beforeDice]
  rfl

theorem fetch_afterFirstDraw : afterFirstDraw.fetch = 0xC10F := by
  simp [State.fetch, afterFirstDraw, beforeDice, diceRom, State.withRom, State.powerOn,
    Memory.read_writeAll, memorySize, programStart]

/-- The machine at the second draw, after a tick and with another keypad. -/
def atSecondDraw : State := { afterFirstDraw with keypad := .all }

/-- The second draw finds the cursor at zero again. -/
theorem dice_around_cursor :
    diceValues.leaves.mapM HostValue.toByte = .ok [0xC8, 7, 9] ∧
      RandomSource.ofHost diceValues = .ok beforeDice.source ∧
      beforeDice.draws [.slot, .tick, .keys .all] = 1 ∧
      atSecondDraw.key.fst.toNat = 0 ∧ atSecondDraw.step.registers.get 1 = 8 := by
  have hbytes : diceValues.leaves.mapM HostValue.toByte = .ok [0xC8, 7, 9] := rfl
  have hsource : RandomSource.ofHost diceValues = .ok beforeDice.source := rfl
  have hdraws : beforeDice.draws [.slot, .tick, .keys .all] = 1 := by
    rw [State.draws, if_pos ⟨rfl, draws_beforeDice⟩]
    rfl
  have hu : beforeDice.applyAll [.slot, .tick, .keys .all] = atSecondDraw := by
    rw [State.applyAll_cons, State.apply, step_beforeDice]
    rfl
  obtain ⟨hcursor, -, hbyte⟩ := drawn_in_turn hbytes hsource hu
  have hfetch : atSecondDraw.fetch = 0xC10F := fetch_afterFirstDraw
  have hdraws' : atSecondDraw.Draws := ⟨⟨rfl, rfl⟩, by decide, by rw [hfetch]; decide⟩
  obtain ⟨b, hb, hregister⟩ := hbyte hdraws'
  rw [hdraws] at hcursor hb
  rw [hfetch] at hregister
  obtain rfl : 0xC8 = b := Option.some.inj hb
  exact ⟨hbytes, hsource, hdraws, hcursor, hregister⟩

end Chip8
