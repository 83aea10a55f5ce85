import Mathlib.Algebra.Ring.Nat
import Chip8.Proofs.Arithmetic
import Chip8.Proofs.CallStack

/-!
# Sums in the index register

A word can add a register to the index. The sum wraps at `0x1000`, and the flag register tells
whether it has. An `Addition` is such a word with the state in which it is executed, so that what it
reads can be told from what it leaves, even where it adds the flag register itself.

One addition is exact (`Addition.Exact`): the index behind it, with 4096 for a carry, is the sum of
the index and the register before it. **`index_sums_exact`** says that nothing is lost over any
number of them, with registers loaded in between: the last index and 4096 for each carry are the
first index and all that was added.
-/

namespace Chip8

/-- The word adds a register to the index. -/
def AddsToIndex (w : Word) : Prop := w &&& 0xF0FF = 0xF01E

/-- The word loads a register with a byte. -/
def LoadsByte (w : Word) : Prop := w &&& 0xF000 = 0x6000

instance : DecidablePred AddsToIndex := fun w =>
  inferInstanceAs (Decidable (w &&& 0xF0FF = 0xF01E))

instance : DecidablePred LoadsByte := fun w => inferInstanceAs (Decidable (w &&& 0xF000 = 0x6000))

/-- A word that adds to the index, and the state in which it is executed. -/
structure Addition where
  before : State
  word : Word

namespace Addition

/-- The state behind the addition. -/
def after (a : Addition) : State := a.before.execute a.word

/-- What is added: the register that the word names, as it is before the flag is written. -/
def addend (a : Addition) : Nat := (a.before.registers.get (wordX a.word)).toNat

/-- The flag register tells of a carry. -/
def Carries (a : Addition) : Prop := a.after.registers.get flagRegister = 1

instance : DecidablePred Carries := fun a =>
  inferInstanceAs (Decidable (a.after.registers.get flagRegister = 1))

/-- The addition keeps the index within twelve bits and loses nothing of the sum, and of the
registers it changes the flag register alone. -/
structure Exact (a : Addition) : Prop where
  index_le : a.after.index.toNat ≤ 0xFFF
  sum_eq : a.after.index.toNat + 4096 * (if a.Carries then 1 else 0) =
    a.before.index.toNat + a.addend
  flag : a.after.registers.get flagRegister = 0 ∨ a.Carries
  others : ∀ z ≠ flagRegister, a.after.registers.get z = a.before.registers.get z

end Addition

namespace State

variable {s : State} {w : Word} {ws : List Word}

/-! ## One word -/

theorem execute_addIndex (hs : s.halted = false) (hw : AddsToIndex w) :
    s.execute w = { s.advanced with
      index := BitVec.ofNat 16 (s.index.toNat + (s.registers.get (wordX w)).toNat) &&& addressMask
      registers := s.registers.setFlag
        (addressMask.toNat < s.index.toNat + (s.registers.get (wordX w)).toNat) } :=
  ((carriesOut_iff_of_decode? (decode?_eq_addIndex_iff.2 ⟨hw, rfl⟩)).2 rfl).execute_eq hs

theorem execute_loadByte (hs : s.halted = false) (hw : LoadsByte w) :
    s.execute w =
      { s.advanced with registers := s.registers.set (wordX w) (wordByte w) } :=
  ((carriesOut_iff_of_decode? (decode?_eq_loadByte_iff.2 ⟨hw, rfl, rfl⟩)).2 rfl).execute_eq hs

theorem carries_iff (hs : s.halted = false) (hw : AddsToIndex w) :
    (Addition.mk s w).Carries ↔ 0xFFF < s.index.toNat + (s.registers.get (wordX w)).toNat := by
  rw [Addition.Carries, Addition.after, execute_addIndex hs hw]
  show (Registers.setFlag _ _).get flagRegister = 1 ↔ _
  rw [Registers.get_setFlag, if_pos rfl]
  simp

/-- **One addition is exact.** -/
theorem exact_addition (hs : s.halted = false) (hindex : s.index.toNat ≤ 0xFFF)
    (hw : AddsToIndex w) : (Addition.mk s w).Exact := by
  have hcarries := carries_iff hs hw
  have hbyte := (s.registers.get (wordX w)).isLt
  have hindex' : (s.execute w).index.toNat =
      (s.index.toNat + (s.registers.get (wordX w)).toNat) % 4096 := by
    rw [execute_addIndex hs hw]
    show (BitVec.ofNat 16 _ &&& addressMask).toNat = _
    rw [CallStack.toNat_and_addressMask, BitVec.toNat_ofNat]
    omega
  have hregisters (z : Nibble) : (s.execute w).registers.get z =
      if flagRegister = z then (if (Addition.mk s w).Carries then 1 else 0)
      else s.registers.get z := by
    simp only [hcarries, execute_addIndex hs hw]
    show (Registers.setFlag _ _).get z = _
    rw [Registers.get_setFlag]
    simp
  refine ⟨?_, ?_, ?_, fun z hz => ?_⟩
  · rw [Addition.after, hindex']
    omega
  · rw [Addition.after, hindex', Addition.addend]
    simp only [hcarries]
    split <;> omega
  · rw [Addition.after, hregisters, if_pos rfl]
    split
    · exact .inr ‹_›
    · exact .inl rfl
  · rw [Addition.after, hregisters, if_neg hz.symm]

theorem halted_execute_addIndex (hs : s.halted = false) (hw : AddsToIndex w) :
    (s.execute w).halted = false := by
  rw [execute_addIndex hs hw]
  exact hs

theorem halted_execute_loadByte (hs : s.halted = false) (hw : LoadsByte w) :
    (s.execute w).halted = false := by
  rw [execute_loadByte hs hw]
  exact hs

theorem index_execute_loadByte (hs : s.halted = false) (hw : LoadsByte w) :
    (s.execute w).index = s.index := by
  rw [execute_loadByte hs hw]
  rfl

/-! ## Words one after the other -/

/-- The state after a sequence of words. -/
def executeAll (s : State) (ws : List Word) : State := ws.foldl execute s

/-- The additions among words that are executed one after the other. -/
def additions : State → List Word → List Addition
  | _, [] => []
  | s, w :: ws =>
    if AddsToIndex w then ⟨s, w⟩ :: (s.execute w).additions ws else (s.execute w).additions ws

theorem executeAll_cons (s : State) (w : Word) (ws : List Word) :
    s.executeAll (w :: ws) = (s.execute w).executeAll ws := rfl

theorem additions_cons_of_adds (hw : AddsToIndex w) :
    s.additions (w :: ws) = ⟨s, w⟩ :: (s.execute w).additions ws := by
  rw [additions, if_pos hw]

theorem additions_cons_of_not_adds (hw : ¬ AddsToIndex w) :
    s.additions (w :: ws) = (s.execute w).additions ws := by
  rw [additions, if_neg hw]

end State

/-- **Sums in the index are exact.** Let a machine that has not halted, and whose index is within
twelve bits, execute words that add a register to the index or load a register, in any order. Each
addition is exact by itself. The last index is within twelve bits too, and together with 4096 for
each addition that tells of a carry it is the first index and all that the additions have read. -/
theorem index_sums_exact {s t : State} {ws : List Word} {adds : List Addition}
    (hs : s.halted = false) (hindex : s.index.toNat ≤ 0xFFF)
    (hws : ∀ w ∈ ws, AddsToIndex w ∨ LoadsByte w) (ht : s.executeAll ws = t)
    (hadds : s.additions ws = adds) :
    t.index.toNat ≤ 0xFFF ∧
      t.index.toNat + 4096 * adds.countP (·.Carries) =
        s.index.toNat + (adds.map (·.addend)).sum ∧
      ∀ a ∈ adds, a.Exact := by
  subst ht hadds
  induction ws generalizing s with
  | nil => exact ⟨hindex, rfl, nofun⟩
  | cons w ws ih =>
    have hrest : ∀ w' ∈ ws, AddsToIndex w' ∨ LoadsByte w' := fun w' hw' =>
      hws w' (List.mem_cons_of_mem w hw')
    rw [State.executeAll_cons]
    by_cases hw : AddsToIndex w
    · have hexact := State.exact_addition hs hindex hw
      obtain ⟨hle, hsum, hall⟩ :=
        ih (State.halted_execute_addIndex hs hw) hexact.index_le hrest
      rw [State.additions_cons_of_adds hw]
      refine ⟨hle, ?_, List.forall_mem_cons.2 ⟨hexact, hall⟩⟩
      have hone : (s.execute w).index.toNat + 4096 * (if (Addition.mk s w).Carries then 1 else 0) =
          s.index.toNat + (Addition.mk s w).addend := hexact.sum_eq
      simp only [List.countP_cons, List.map_cons, List.sum_cons, decide_eq_true_eq]
      omega
    · have hload : LoadsByte w := (hws w List.mem_cons_self).resolve_left hw
      have hkept := State.index_execute_loadByte hs hload
      rw [State.additions_cons_of_not_adds hw, ← hkept]
      exact ih (State.halted_execute_loadByte hs hload) (hkept ▸ hindex) hrest

/-- A machine whose index is two below its end and whose flag register holds two. -/
def nearIndexEnd : State :=
  { State.powerOn .keyed ⟨0, 0⟩ 0x200 with
    index := 0xFFE, registers := Registers.zero.set flagRegister 2 }

/-- The flag register is added twice, and then register 1, which has been loaded before. -/
def indexWords : List Word := [0xFF1E, 0xFF1E, 0x61FF, 0xF11E]

/-- The first addition goes around the end and leaves the one that the second adds. -/
theorem index_sums_around_end :
    nearIndexEnd.halted = false ∧ nearIndexEnd.index.toNat ≤ 0xFFF ∧
      (∀ w ∈ indexWords, AddsToIndex w ∨ LoadsByte w) ∧
      (nearIndexEnd.additions indexWords).map (·.addend) = [2, 1, 0xFF] ∧
      (nearIndexEnd.additions indexWords).countP (·.Carries) = 1 ∧
      (nearIndexEnd.executeAll indexWords).index.toNat = 0x100 := by
  have hs : nearIndexEnd.halted = false := rfl
  have hindex : nearIndexEnd.index.toNat ≤ 0xFFF := by decide
  have hwords : ∀ w ∈ indexWords, AddsToIndex w ∨ LoadsByte w := by
    simp [indexWords, AddsToIndex, LoadsByte]
  have haddends : (nearIndexEnd.additions indexWords).map (·.addend) = [2, 1, 0xFF] := by decide
  have hcarries : (nearIndexEnd.additions indexWords).countP (·.Carries) = 1 := by decide
  obtain ⟨-, hsum, -⟩ := index_sums_exact hs hindex hwords rfl rfl
  refine ⟨hs, hindex, hwords, haddends, hcarries, ?_⟩
  have hfirst : nearIndexEnd.index.toNat = 0xFFE := rfl
  have htotal : ([2, 1, 0xFF] : List Nat).sum = 0x102 := rfl
  rw [hcarries, haddends, hfirst, htotal] at hsum
  exact Nat.eq_sub_of_add_eq hsum

end Chip8
