import Chip8.Proofs.Decoding
import Chip8.Proofs.Slot
import Mathlib.Logic.ExistsUnique

/-!
# Exactly when a slot faults

A `FaultCause` is one of the six conditions on a running machine under which its next slot faults.
`FaultCause.Applies` states each of them on the program counter, the bits of the word there, the
depth of the stack and the range of bytes from the index on, and not through the instructions that
look at them. `FaultCause.record` is the status that the cause leaves behind, and
`FaultCause.failure` the failure that a host reads off it.

**`step_faults_iff`.** A slot of a running machine faults exactly when one cause applies, and never
do two apply. The slot then changes nothing but the status, which becomes the record of the cause.
-/

namespace Chip8

/-! ## Ranges of bytes -/

/-- The number of bytes that a word reads from the index on: the rows of a sprite, or the registers
up to the one it names. -/
def readExtent? (w : Word) : Option Nat :=
  if w &&& 0xF000 = 0xD000 then some (wordN w).toNat
  else if w &&& 0xF0FF = 0xF065 then some ((wordX w).toNat + 1)
  else none

/-- The number of bytes that a word writes from the index on: three digits, or the registers up to
the one it names. -/
def writeExtent? (w : Word) : Option Nat :=
  if w &&& 0xF0FF = 0xF033 then some 3
  else if w &&& 0xF0FF = 0xF055 then some ((wordX w).toNat + 1)
  else none

/-- The first of `n` addresses from `a` on at which a glyph stands. -/
def firstFontByte? (a n : Nat) : Option Nat :=
  (List.range' a n).find? fun j => fontStart ≤ j && j < fontEnd

theorem firstFontByte?_eq (a n : Nat) :
    firstFontByte? a n = if touchesFont a n then some (max a fontStart) else none := by
  unfold firstFontByte?
  split
  · rename_i h
    obtain ⟨j, h1, h2, h3, h4⟩ := (touchesFont_iff a n).1 h
    simp only [List.find?_range'_eq_some, List.mem_range'_1, Bool.and_eq_true, decide_eq_true_eq,
      Bool.not_eq_true', Bool.and_eq_false_iff, decide_eq_false_iff_not]
    refine ⟨⟨by omega, by omega⟩, ⟨by omega, by omega⟩, fun k hk hlt => .inl ?_⟩
    omega
  · rename_i h
    simp only [List.find?_range'_eq_none, Bool.not_eq_true', Bool.and_eq_false_iff,
      decide_eq_false_iff_not]
    intro j h1 h2
    by_cases h3 : fontStart ≤ j
    · exact .inr fun h4 => h ((touchesFont_iff a n).2 ⟨j, h1, h2, h3, h4⟩)
    · exact .inl h3

theorem readExtent?_eq_some_iff {w : Word} {n : Nat} :
    readExtent? w = some n ↔ ∃ i, decode? w = some i ∧ i.readLength? = some n := by
  constructor
  · intro h
    unfold readExtent? at h
    split at h
    · rename_i hw
      exact ⟨.draw (wordX w) (wordY w) (wordN w), decode?_eq_draw_iff.2 ⟨hw, rfl, rfl, rfl⟩, h⟩
    · split at h
      · rename_i hw
        exact ⟨.load (wordX w), decode?_eq_load_iff.2 ⟨hw, rfl⟩, h⟩
      · cases h
  · rintro ⟨i, hd, hi⟩
    cases i with
    | draw x y height =>
      obtain ⟨hw, -, -, rfl⟩ := decode?_eq_draw_iff.1 hd
      rw [readExtent?, if_pos hw]
      exact hi
    | load x =>
      obtain ⟨hw, rfl⟩ := decode?_eq_load_iff.1 hd
      -- A word is one instruction, so a load is no draw.
      have hne : w &&& 0xF000 ≠ 0xD000 := fun hdraw => by
        rw [decode?_eq_draw_iff.2 ⟨hdraw, rfl, rfl, rfl⟩] at hd
        cases hd
      rw [readExtent?, if_neg hne, if_pos hw]
      exact hi
    | _ => cases hi

theorem writeExtent?_eq_some_iff {w : Word} {n : Nat} :
    writeExtent? w = some n ↔ ∃ i, decode? w = some i ∧ i.writeLength? = some n := by
  constructor
  · intro h
    unfold writeExtent? at h
    split at h
    · rename_i hw
      exact ⟨.decimal (wordX w), decode?_eq_decimal_iff.2 ⟨hw, rfl⟩, h⟩
    · split at h
      · rename_i hw
        exact ⟨.store (wordX w), decode?_eq_store_iff.2 ⟨hw, rfl⟩, h⟩
      · cases h
  · rintro ⟨i, hd, hi⟩
    cases i with
    | decimal x =>
      obtain ⟨hw, rfl⟩ := decode?_eq_decimal_iff.1 hd
      rw [writeExtent?, if_pos hw]
      exact hi
    | store x =>
      obtain ⟨hw, rfl⟩ := decode?_eq_store_iff.1 hd
      rw [writeExtent?, hw, if_neg (by decide), if_pos rfl]
      exact hi
    | _ => cases hi

/-! ## Causes -/

/-- Why a slot faults. -/
inductive FaultCause
  | noWord
  | noInstruction
  | fullStack
  | emptyStack
  | unreadable
  | unwritable
deriving DecidableEq, Repr

namespace FaultCause

/-- The condition of a cause on a word that has been fetched. -/
def AppliesTo (s : State) (w : Word) : FaultCause → Prop
  | noWord => False
  | noInstruction => ∀ e ∈ Encoding.table, w &&& e.mask ≠ e.value
  | fullStack => w &&& 0xF000 = 0x2000 ∧ s.stack.depth.toNat = stackSize
  | emptyStack => w = 0x00EE ∧ s.stack.depth.toNat = 0
  | unreadable => ∃ n, readExtent? w = some n ∧ 0 < n ∧ memorySize < s.index.toNat + n
  | unwritable => ∃ n, writeExtent? w = some n ∧
      (memorySize < s.index.toNat + n ∨ (firstFontByte? s.index.toNat n).isSome)

/-- The condition of a cause on a running machine: if one of the two bytes at the program counter is
not in memory, this is the cause; otherwise the word there decides. -/
def Applies (s : State) (c : FaultCause) : Prop :=
  if memorySize ≤ s.pc.toNat + 1 then c = noWord else c.AppliesTo s s.fetch

/-- The number that the record of a cause has for the kind of fault. -/
def code : FaultCause → Byte
  | noInstruction => 1
  | fullStack => 2
  | emptyStack => 3
  | noWord | unreadable | unwritable => 4

/-- The word that the record of a cause has; zero if none could be fetched. -/
def word (s : State) : FaultCause → Word
  | noWord => 0
  | _ => s.fetch

/-- The address that the record of a cause has: the first one past the end of memory or, for a
refused write, the first one of a glyph. -/
def address (s : State) : FaultCause → Nat
  | noWord => max s.pc.toNat memorySize
  | noInstruction | fullStack | emptyStack => 0
  | unreadable => max s.index.toNat memorySize
  | unwritable =>
    ((writeExtent? s.fetch).bind (firstFontByte? s.index.toNat)).getD (max s.index.toNat memorySize)

/-- The status that a cause leaves behind. -/
def record (s : State) (c : FaultCause) : Status :=
  ⟨c.code, s.pc, c.word s, BitVec.ofNat 16 (c.address s)⟩

/-- The failure that a host reads off the record of a cause. -/
def failure (s : State) : FaultCause → Failure
  | noInstruction => .invalidOpcode s.fetch.toNat s.pc.toNat
  | fullStack => .stackOverflow s.pc.toNat
  | emptyStack => .stackUnderflow s.pc.toNat
  | c => .memoryOutOfBounds (c.address s) (some (s.pc.toNat : Int))

/-! ## Causes and instructions -/

/-- The one cause that can apply to a word. -/
def ofWord? (w : Word) : Option FaultCause :=
  match decode? w with
  | none => some noInstruction
  | some .ret => some emptyStack
  | some (.call _) => some fullStack
  | some (.draw ..) | some (.load _) => some unreadable
  | some (.decimal _) | some (.store _) => some unwritable
  | some _ => none

variable {s : State} {w : Word} {c : FaultCause}

theorem ofWord?_of_appliesTo (h : c.AppliesTo s w) : ofWord? w = some c := by
  cases c with
  | noWord => cases h
  | noInstruction => simp only [ofWord?, decode?_eq_none_iff_mask.2 h]
  | fullStack => simp only [ofWord?, decode?_eq_call_iff.2 ⟨h.1, rfl⟩]
  | emptyStack => simp only [ofWord?, decode?_eq_ret_iff.2 h.1]
  | unreadable =>
    obtain ⟨n, hn, -⟩ := h
    obtain ⟨i, hd, hi⟩ := readExtent?_eq_some_iff.1 hn
    cases i with
    | draw | load => simp only [ofWord?, hd]
    | _ => cases hi
  | unwritable =>
    obtain ⟨n, hn, -⟩ := h
    obtain ⟨i, hd, hi⟩ := writeExtent?_eq_some_iff.1 hn
    cases i with
    | decimal | store => simp only [ofWord?, hd]
    | _ => cases hi

theorem code_le (c : FaultCause) : c.code.toNat ≤ 4 := by
  cases c <;> decide

theorem halted_record (s : State) (c : FaultCause) : (s.withStatus (c.record s)).halted = true := by
  cases c <;> rfl

/-- A record loses nothing of its address. -/
theorem address_lt (s : State) (c : FaultCause) : c.address s < 0x10000 := by
  have hpc := s.pc.isLt
  have hindex := s.index.isLt
  cases c with
  | noWord | unreadable => simp only [address, memorySize]; omega
  | noInstruction | fullStack | emptyStack => simp [address]
  | unwritable =>
    simp only [address]
    cases writeExtent? s.fetch with
    | none => simp only [Option.bind_none, Option.getD_none, memorySize]; omega
    | some n =>
      rw [Option.bind_some, firstFontByte?_eq]
      split <;> simp only [Option.getD_some, Option.getD_none, fontStart, memorySize] <;> omega

theorem toNat_address_record (s : State) (c : FaultCause) :
    (c.record s).address.toNat = c.address s :=
  Nat.mod_eq_of_lt (address_lt s c)

theorem failure_record (s : State) (c : FaultCause) :
    (c.record s).failure = .ok (some (c.failure s)) := by
  have h := toNat_address_record s c
  cases c with
  | noInstruction | fullStack | emptyStack => rfl
  | noWord | unreadable | unwritable =>
    simp only [Status.failure, h]
    rfl

/-- A cause that applies keeps the word from being carried out. -/
theorem runWord_of_appliesTo (h : c.AppliesTo s s.fetch) :
    ∃ f, s.runWord s.fetch = .error f ∧ Status.ofFault f s.pc s.fetch = c.record s := by
  simp only [State.runWord_eq_error_iff]
  cases c with
  | noWord => cases h
  | noInstruction => exact ⟨.invalidOpcode, .inl ⟨decode?_eq_none_iff_mask.2 h, rfl⟩, rfl⟩
  | fullStack =>
    obtain ⟨hw, hdepth⟩ := h
    have hfull : s.advanced.stack.isFull = true := CallStack.isFull_iff.2 (Nat.le_of_eq hdepth.symm)
    exact ⟨.stackOverflow, .inr ⟨_, decode?_eq_call_iff.2 ⟨hw, rfl⟩,
      Instruction.run_eq_error_iff.2 (.inr (.inl ⟨⟨_, rfl⟩, hfull, rfl⟩))⟩, rfl⟩
  | emptyStack =>
    obtain ⟨hw, hdepth⟩ := h
    have hempty : s.advanced.stack.isEmpty = true := CallStack.isEmpty_iff.2 hdepth
    exact ⟨.stackUnderflow, .inr ⟨_, decode?_eq_ret_iff.2 hw,
      Instruction.run_eq_error_iff.2 (.inl ⟨rfl, hempty, rfl⟩)⟩, rfl⟩
  | unreadable =>
    obtain ⟨n, hn, hpos, hend⟩ := h
    obtain ⟨i, hd, hi⟩ := readExtent?_eq_some_iff.1 hn
    have hleaves : s.advanced.leavesMemory n = true := State.leavesMemory_iff.2 ⟨hpos, hend⟩
    exact ⟨_, .inr ⟨i, hd,
      Instruction.run_eq_error_iff.2 (.inr (.inr (.inl ⟨n, hi, hleaves, rfl⟩)))⟩, rfl⟩
  | unwritable =>
    obtain ⟨n, hn, hobstacle⟩ := h
    obtain ⟨i, hd, hi⟩ := writeExtent?_eq_some_iff.1 hn
    have hrefused : touchesFont s.advanced.index.toNat n = true ∨
        s.advanced.leavesMemory n = true := by
      rcases hobstacle with hend | hfont
      · have hpos : 0 < n := Instruction.pos_of_writeLength? hi
        exact .inr (State.leavesMemory_iff.2 ⟨hpos, hend⟩)
      · rw [firstFontByte?_eq] at hfont
        exact .inl (by simpa using hfont)
    have haddress : s.advanced.writeObstacle n = unwritable.address s := by
      simp only [address, State.writeObstacle, State.index_advanced, hn, Option.bind_some,
        firstFontByte?_eq]
      by_cases hfont : touchesFont s.index.toNat n = true <;> simp [hfont]
    refine ⟨_, .inr ⟨i, hd,
      Instruction.run_eq_error_iff.2 (.inr (.inr (.inr ⟨n, hi, hrefused, rfl⟩)))⟩, ?_⟩
    rw [haddress]
    rfl

/-- A word that cannot be carried out has a cause. The depth matters: a stack with more than
sixteen entries would refuse a call as well. -/
theorem exists_appliesTo {f : Fault} (hdepth : s.stack.depth.toNat ≤ stackSize)
    (h : s.runWord w = .error f) : ∃ c, AppliesTo s w c := by
  rcases State.runWord_eq_error_iff.1 h with ⟨hd, -⟩ | ⟨i, hd, hi⟩
  · exact ⟨noInstruction, decode?_eq_none_iff_mask.1 hd⟩
  · rcases Instruction.run_eq_error_iff.1 hi with
      ⟨rfl, hempty, -⟩ | ⟨⟨target, rfl⟩, hfull, -⟩ | ⟨n, hn, hleaves, -⟩ | ⟨n, hn, hrefused, -⟩
    · exact ⟨emptyStack, decode?_eq_ret_iff.1 hd, CallStack.isEmpty_iff.1 hempty⟩
    · exact ⟨fullStack, (decode?_eq_call_iff.1 hd).1,
        Nat.le_antisymm hdepth (CallStack.isFull_iff.1 hfull)⟩
    · exact ⟨unreadable, n, readExtent?_eq_some_iff.2 ⟨i, hd, hn⟩, State.leavesMemory_iff.1 hleaves⟩
    · refine ⟨unwritable, n, writeExtent?_eq_some_iff.2 ⟨i, hd, hn⟩, ?_⟩
      rcases hrefused with hfont | hleaves
      · right
        rw [State.index_advanced] at hfont
        rw [firstFontByte?_eq, if_pos hfont]
        rfl
      · exact .inl (State.leavesMemory_iff.1 hleaves).2

/-! ## Slots -/

theorem applies_unique {c' : FaultCause} (h : c.Applies s) (h' : c'.Applies s) : c' = c := by
  unfold Applies at h h'
  split at h
  · rw [if_pos ‹_›] at h'
    exact h'.trans h.symm
  · rw [if_neg ‹_›] at h'
    exact Option.some.inj ((ofWord?_of_appliesTo h').symm.trans (ofWord?_of_appliesTo h))

theorem step_of_applies (hrun : s.Running) (h : c.Applies s) :
    s.step = s.withStatus (c.record s) := by
  unfold Applies at h
  split at h
  · subst h
    exact step_of_not_canFetch hrun (State.canFetch_eq_false_iff.2 ‹_›)
  · obtain ⟨f, hf, hrecord⟩ := runWord_of_appliesTo h
    rw [step_of_fault hrun (State.canFetch_iff.2 (Nat.lt_of_not_le ‹_›)) hf, hrecord]

theorem exists_applies (hrun : s.Running) (hdepth : s.stack.depth.toNat ≤ stackSize)
    (h : s.step.halted = true) : ∃ c : FaultCause, c.Applies s := by
  unfold Applies
  split
  · exact ⟨noWord, rfl⟩
  · have hfetch : s.canFetch = true := State.canFetch_iff.2 (Nat.lt_of_not_le ‹_›)
    cases hw : s.runWord s.fetch with
    | error f => exact exists_appliesTo hdepth hw
    | ok t =>
      rw [step_of_canFetch hrun hfetch, State.execute_of_ok hrun.not_halted hw, State.halted,
        State.status_of_runWord hw] at h
      rw [← State.halted, hrun.not_halted] at h
      cases h

end FaultCause

/-- **When a slot faults.** A running machine with at most sixteen calls on its stack faults in its
next slot exactly when one cause applies, and then only one does. The slot changes nothing but the
status, which becomes the record of the cause with its address in full, and a host reads the failure
of the cause off it. -/
theorem step_faults_iff {s : State} (hrun : s.Running) (hdepth : s.stack.depth.toNat ≤ stackSize) :
    (s.step.halted = true ↔ ∃! c : FaultCause, c.Applies s) ∧
      ∀ c : FaultCause, c.Applies s →
        s.step = s.withStatus (c.record s) ∧ (c.record s).address.toNat = c.address s ∧
          s.step.failure = .ok (some (c.failure s)) := by
  refine ⟨⟨fun h => ?_, ?_⟩, fun c hc => ?_⟩
  · obtain ⟨c, hc⟩ := FaultCause.exists_applies hrun hdepth h
    exact ⟨c, hc, fun c' hc' => FaultCause.applies_unique hc hc'⟩
  · rintro ⟨c, hc, -⟩
    rw [FaultCause.step_of_applies hrun hc]
    exact FaultCause.halted_record s c
  · have hstep := FaultCause.step_of_applies hrun hc
    refine ⟨hstep, FaultCause.toNat_address_record s c, ?_⟩
    rw [hstep]
    exact FaultCause.failure_record s c

/-- A machine about to store four registers over the last bytes before the glyphs and the first two
of a glyph. -/
def storeIntoGlyph : State :=
  { State.powerOn .keyed ⟨0, 0⟩ 0x200 with
    memory := Memory.powerOn.writeAll 0x200 [0xF3, 0x55]
    index := 0x4E }

theorem fetch_storeIntoGlyph : storeIntoGlyph.fetch = 0xF355 := by
  simp [State.fetch, storeIntoGlyph, State.powerOn, Memory.read_writeAll, memorySize]

/-- The store is refused, and the record names the first glyph byte and not the index. -/
theorem step_storeIntoGlyph :
    storeIntoGlyph.Running ∧ storeIntoGlyph.stack.depth.toNat ≤ stackSize ∧
      FaultCause.unwritable.Applies storeIntoGlyph ∧
      storeIntoGlyph.step = storeIntoGlyph.withStatus ⟨4, 0x200, 0xF355, 0x50⟩ := by
  have hrun : storeIntoGlyph.Running := ⟨rfl, rfl⟩
  have hdepth : storeIntoGlyph.stack.depth.toNat ≤ stackSize := by decide
  have happlies : FaultCause.unwritable.Applies storeIntoGlyph := by
    rw [FaultCause.Applies, if_neg (by decide), fetch_storeIntoGlyph]
    exact ⟨4, by decide, .inr (by decide)⟩
  refine ⟨hrun, hdepth, happlies, ?_⟩
  rw [((step_faults_iff hrun hdepth).2 _ happlies).1]
  simp only [FaultCause.record, FaultCause.word, FaultCause.address, fetch_storeIntoGlyph]
  rfl

end Chip8
