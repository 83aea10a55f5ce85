import Chip8.Proofs.Transfer

/-!
# Round trips through memory

What one word puts in memory another one gets back. Registers that are stored come back when as many
or fewer are loaded from the same place, and behind them come the bytes that were there before;
bytes that are loaded go back where they were; and the digits of a register, put in memory and
loaded, make up its number.

**`memory_round_trips`** states the three for any state, with the ranges that the words touch in
memory and those that they write off the glyphs. None of the words faults then, so what is said of
their outcomes is never empty.
-/

namespace Chip8

namespace State

variable {s t u : State} {w : Word} {x y : Nibble}

theorem Stored.index_eq (h : Stored s x t) : t.index = s.index := by
  rw [h.rest]
  rfl

theorem Loaded.index_eq (h : Loaded s x t) : t.index = s.index := by
  rw [h.rest]
  rfl

theorem Loaded.memory_eq (h : Loaded s x t) : t.memory = s.memory := by
  rw [h.rest]
  rfl

/-! ## Storing, then loading -/

theorem Stored.loaded_get {r : State} (ht : Stored s x t) (hmemory : u.memory = t.memory)
    (hindex : u.index = t.index) (hr : Loaded u y r)
    (hrange : s.index.toNat + y.toNat < memorySize) (i : Nibble) :
    r.registers.get i =
      if y < i then u.registers.get i
      else if x < i then s.memory.read (s.index.toNat + i.toNat)
      else s.registers.get i := by
  by_cases hy : y < i
  · rw [if_pos hy, hr.other_registers i hy]
  · have hi : i ≤ y := BitVec.not_lt.1 hy
    rw [if_neg hy, hr.registers i hi, hmemory, hindex, ht.index_eq]
    by_cases hx : x < i
    · have hcell : s.index.toNat + i.toNat < memorySize := by
        have := BitVec.le_def.1 hi
        omega
      have hbehind : s.index.toNat + x.toNat < s.index.toNat + i.toNat :=
        Nat.add_lt_add_left (BitVec.lt_def.1 hx) _
      rw [if_pos hx, ht.other_cells _ hcell (.inr hbehind)]
    · rw [if_neg hx, ht.cells i (BitVec.not_lt.1 hx)]

/-! ## Loading, then storing -/

theorem Loaded.memory_of_stored (ht : Loaded s x t) (hu : Stored t x u) : u.memory = s.memory := by
  refine Memory.ext_read fun j hj => ?_
  by_cases hcell : s.index.toNat ≤ j ∧ j ≤ s.index.toNat + x.toNat
  · obtain ⟨i, hi, rfl⟩ : ∃ i ≤ x, s.index.toNat + i.toNat = j := by
      have hx := x.isLt
      have hlt : j - s.index.toNat < 2 ^ 4 := by omega
      refine ⟨BitVec.ofNat 4 (j - s.index.toNat), ?_, ?_⟩
      · rw [BitVec.le_def, BitVec.toNat_ofNat, Nat.mod_eq_of_lt hlt]
        omega
      · rw [BitVec.toNat_ofNat, Nat.mod_eq_of_lt hlt]
        omega
    have hread := hu.cells i hi
    rw [ht.index_eq] at hread
    rw [hread, ht.registers i hi]
  · rw [hu.other_cells j hj (by rw [ht.index_eq]; omega), ht.memory_eq]

/-! ## Digits -/

theorem carriesOut_decimal_iff (hw : w &&& 0xF0FF = 0xF033) :
    s.CarriesOut w t ↔ (∀ i < 3, Writable (s.index.toNat + i)) ∧
      { s.advanced with
        memory := s.memory.writeAll s.index.toNat
          (decimalDigits (s.registers.get (wordX w))) } = t := by
  rw [carriesOut_iff_of_decode? (decode?_eq_decimal_iff.2 ⟨hw, rfl⟩)]
  exact guardWrite_eq_ok_iff_writable (by decide)

theorem decimalDigits_value (b : Byte) :
    (b / 100).toNat ≤ 9 ∧ (b / 10 % 10).toNat ≤ 9 ∧ (b % 10).toNat ≤ 9 ∧
      100 * (b / 100).toNat + 10 * (b / 10 % 10).toNat + (b % 10).toNat = b.toNat := by
  have hb := b.isLt
  have hten : (10 : Byte).toNat = 10 := rfl
  have hhundred : (100 : Byte).toNat = 100 := rfl
  rw [BitVec.toNat_umod, BitVec.toNat_umod, BitVec.toNat_udiv, BitVec.toNat_udiv, hten, hhundred]
  omega

theorem read_decimalDigits (m : Memory) {a : Nat} (b : Byte)
    (h : ∀ i < 3, a + i < memorySize) :
    (m.writeAll a (decimalDigits b)).read a = b / 100 ∧
      (m.writeAll a (decimalDigits b)).read (a + 1) = b / 10 % 10 ∧
      (m.writeAll a (decimalDigits b)).read (a + 2) = b % 10 := by
  have hread (i : Nat) (hi : i < 3) := Memory.read_writeAll m a (decimalDigits b) (h i hi)
  refine ⟨(hread 0 (by decide)).trans ?_, (hread 1 (by decide)).trans ?_,
    (hread 2 (by decide)).trans ?_⟩ <;> simp [decimalDigits]

/-! ## No faults -/

theorem exists_stored (hw : w &&& 0xF0FF = 0xF055)
    (hrange : ∀ i < (wordX w).toNat + 1, Writable (s.index.toNat + i)) :
    ∃ t, s.CarriesOut w t ∧ Stored s (wordX w) t := by
  have ht := (carriesOut_store_iff hw).2 ⟨hrange, rfl⟩
  exact ⟨_, ht, stored_of_carriesOut hw ht⟩

theorem exists_loaded (hw : w &&& 0xF0FF = 0xF065)
    (hrange : s.index.toNat + (wordX w).toNat < memorySize) :
    ∃ t, s.CarriesOut w t ∧ Loaded s (wordX w) t := by
  have hcells : ∀ i < (wordX w).toNat + 1, s.index.toNat + i < memorySize := fun i hi => by omega
  have ht := (carriesOut_load_iff hw).2 ⟨hcells, rfl⟩
  exact ⟨_, ht, loaded_of_carriesOut hw ht⟩

theorem exists_digits (hw : w &&& 0xF0FF = 0xF033)
    (hrange : ∀ i < 3, Writable (s.index.toNat + i)) :
    ∃ t, s.CarriesOut w t ∧ t.index = s.index ∧ t.memory =
      s.memory.writeAll s.index.toNat (decimalDigits (s.registers.get (wordX w))) :=
  ⟨_, (carriesOut_decimal_iff hw).2 ⟨hrange, rfl⟩, rfl, rfl⟩

end State

open State

/-- **Round trips through memory.** On any state: registers that are stored and then loaded, by a
state with any registers but the same memory and index, come back, behind them come the bytes that
were there, and the registers that are not loaded keep what they have; loading registers and storing
them again changes no byte; and the decimal digits of any register, loaded into the first three, are
digits and make up its number. -/
theorem memory_round_trips (s : State) :
    (∀ store load : Word, store &&& 0xF0FF = 0xF055 → load &&& 0xF0FF = 0xF065 →
      (∀ i < (wordX store).toNat + 1, Writable (s.index.toNat + i)) →
      s.index.toNat + (wordX load).toNat < memorySize →
      ∃ t, s.CarriesOut store t ∧ ∀ u : State, u.memory = t.memory → u.index = t.index →
        ∃ r, u.CarriesOut load r ∧ ∀ i : Nibble, r.registers.get i =
          if wordX load < i then u.registers.get i
          else if wordX store < i then s.memory.read (s.index.toNat + i.toNat)
          else s.registers.get i) ∧
    (∀ load store : Word, load &&& 0xF0FF = 0xF065 → store &&& 0xF0FF = 0xF055 →
      wordX load = wordX store →
      (∀ i < (wordX store).toNat + 1, Writable (s.index.toNat + i)) →
      ∃ t u, s.CarriesOut load t ∧ t.CarriesOut store u ∧ u.memory = s.memory) ∧
    (∀ w : Word, w &&& 0xF0FF = 0xF033 → (∀ i < 3, Writable (s.index.toNat + i)) →
      ∃ t u, s.CarriesOut w t ∧ t.CarriesOut 0xF265 u ∧
        (u.registers.get 0).toNat ≤ 9 ∧ (u.registers.get 1).toNat ≤ 9 ∧
        (u.registers.get 2).toNat ≤ 9 ∧
        100 * (u.registers.get 0).toNat + 10 * (u.registers.get 1).toNat +
          (u.registers.get 2).toNat = (s.registers.get (wordX w)).toNat) := by
  refine ⟨fun store load hstore hload hrange hend => ?_,
    fun load store hload hstore hx hrange => ?_, fun w hw hrange => ?_⟩
  · obtain ⟨t, ht, hstored⟩ := exists_stored hstore hrange
    refine ⟨t, ht, fun u hmemory hindex => ?_⟩
    have hend' : u.index.toNat + (wordX load).toNat < memorySize := by
      rwa [hindex, hstored.index_eq]
    obtain ⟨r, hr, hloaded⟩ := exists_loaded hload hend'
    exact ⟨r, hr, hstored.loaded_get hmemory hindex hloaded hend⟩
  · have hend : s.index.toNat + (wordX load).toNat < memorySize :=
      hx ▸ (hrange _ (Nat.lt_succ_self _)).1
    obtain ⟨t, ht, hloaded⟩ := exists_loaded hload hend
    rw [← hloaded.index_eq] at hrange
    obtain ⟨u, hu, hstored⟩ := exists_stored hstore hrange
    exact ⟨t, u, ht, hu, hloaded.memory_of_stored (hx ▸ hstored)⟩
  · obtain ⟨t, ht, hindex, hmemory⟩ := exists_digits hw hrange
    have hend : t.index.toNat + (wordX 0xF265).toNat < memorySize :=
      hindex ▸ (hrange 2 (by decide)).1
    obtain ⟨u, hu, hloaded⟩ := exists_loaded (by decide) hend
    obtain ⟨h0, h1, h2⟩ := read_decimalDigits s.memory (s.registers.get (wordX w))
      fun i hi => (hrange i hi).1
    have hget (i : Nibble) (hi : i ≤ 2) :
        u.registers.get i = t.memory.read (s.index.toNat + i.toNat) :=
      hindex ▸ hloaded.registers i hi
    have hg0 := (hget 0 (by decide)).trans (hmemory ▸ h0)
    have hg1 := (hget 1 (by decide)).trans (hmemory ▸ h1)
    have hg2 := (hget 2 (by decide)).trans (hmemory ▸ h2)
    refine ⟨t, u, ht, hu, ?_⟩
    rw [hg0, hg1, hg2]
    exact decimalDigits_value _

/-- A machine with its index at the last three cells of memory. -/
def atLastThree : State :=
  { State.powerOn .keyed ⟨0, 0⟩ 0x200 with
    index := 0xFFD
    registers := (Registers.zero.set 0 5).set 1 234 }

/-- Two registers are stored and, after all of them have been cleared, three are loaded; three are
loaded and stored again; and 234 is taken apart and put together. -/
theorem round_trips_atLastThree :
    (∃ t r, atLastThree.CarriesOut 0xF155 t ∧
      { t with registers := .zero }.CarriesOut 0xF265 r ∧ r.registers.get 0 = 5 ∧
      r.registers.get 1 = 234 ∧ r.registers.get 2 = atLastThree.memory.read 0xFFF) ∧
    (∃ t u, atLastThree.CarriesOut 0xF265 t ∧ t.CarriesOut 0xF255 u ∧
      u.memory = atLastThree.memory) ∧
    ∃ t u, atLastThree.CarriesOut 0xF133 t ∧ t.CarriesOut 0xF265 u ∧
      100 * (u.registers.get 0).toNat + 10 * (u.registers.get 1).toNat +
        (u.registers.get 2).toNat = 234 := by
  obtain ⟨hstored, hloaded, hdigits⟩ := memory_round_trips atLastThree
  refine ⟨?_, hloaded 0xF265 0xF255 (by decide) (by decide) (by decide) (by decide), ?_⟩
  · obtain ⟨t, ht, hload⟩ := hstored 0xF155 0xF265 (by decide) (by decide) (by decide) (by decide)
    obtain ⟨r, hr, hget⟩ := hload { t with registers := .zero } rfl rfl
    have hlast : atLastThree.index.toNat + (2 : Nibble).toNat = 0xFFF := by decide
    refine ⟨t, r, ht, hr, hget 0, hget 1, ?_⟩
    rw [← hlast, hget 2, if_neg (by decide), if_pos (by decide)]
  · obtain ⟨t, u, ht, hu, -, -, -, hvalue⟩ := hdigits 0xF133 (by decide) (by decide)
    exact ⟨t, u, ht, hu, hvalue⟩

end Chip8
