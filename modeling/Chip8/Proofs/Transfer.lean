import Chip8.Proofs.Decoding
import Chip8.Proofs.Slot

/-!
# Registers and memory, byte by byte

The words that store and load registers always look at sixteen cells from the index on, of which up
to fifteen may lie behind the end of memory or among the glyphs, and sort out afterwards which of
them count. What they stand for is a loop over the registers up to the named one that looks at one
cell at a time (`Memory.storeLoop?`, `Registers.loadLoop?`). The loops here go through checked
accesses: they come to an end only if every address that they touch may be touched.

**`transfers_match_loops`.** On every state, such a word is carried out exactly if its loop comes to
an end, and then with the outcome of the loop: the cells from the index on hold the registers up to
the named one, or the other way round, and every other cell and register is as before.
-/

namespace Chip8

/-- The cell at an address may be written: it is in memory and not part of a glyph. -/
def Writable (a : Nat) : Prop := a < memorySize ∧ (a < fontStart ∨ fontEnd ≤ a)

instance : DecidablePred Writable := fun a =>
  inferInstanceAs (Decidable (a < memorySize ∧ (a < fontStart ∨ fontEnd ≤ a)))

/-! ## The loops -/

/-- A loop that checks each of its steps comes to an end if all checks succeed, and then it has done
all of the steps. -/
theorem foldlM_range_eq_some_iff {α : Type} {ok : Nat → Prop} [DecidablePred ok]
    {next : α → Nat → α} {n : Nat} {a b : α} :
    (List.range n).foldlM (fun a i => if ok i then some (next a i) else none) a = some b ↔
      (∀ i < n, ok i) ∧ (List.range n).foldl next a = b := by
  induction n generalizing b with
  | zero => simp
  | succ n ih =>
    have hall : (∀ i < n + 1, ok i) ↔ (∀ i < n, ok i) ∧ ok n := Nat.forall_lt_succ_right
    rw [List.range_succ, List.foldlM_append, List.foldl_append, hall]
    refine Option.bind_eq_some_iff.trans ?_
    simp only [List.foldlM_cons, List.foldlM_nil, List.foldl_cons, List.foldl_nil, bind_pure, ih]
    constructor
    · rintro ⟨_, ⟨hfirst, rfl⟩, hlast⟩
      by_cases hok : ok n
      · rw [if_pos hok] at hlast
        exact ⟨⟨hfirst, hok⟩, Option.some.inj hlast⟩
      · rw [if_neg hok] at hlast
        cases hlast
    · rintro ⟨⟨hfirst, hlast⟩, rfl⟩
      exact ⟨_, ⟨hfirst, rfl⟩, if_pos hlast⟩

namespace Memory

variable {m m' : Memory} {a n : Nat} {v : Registers}

/-- The byte at an address, if it is in memory. -/
def cell? (m : Memory) (a : Nat) : Option Byte := if a < memorySize then some (m.read a) else none

/-- Put a byte at an address, if it may be written. -/
def put? (m : Memory) (a : Nat) (b : Byte) : Option Memory :=
  if Writable a then some (m.write a b) else none

/-- Put the first `n` registers in the cells from `a` on, one after the other. -/
def storeLoop? (m : Memory) (a : Nat) (v : Registers) (n : Nat) : Option Memory :=
  (List.range n).foldlM (fun m i => m.put? (a + i) (v.get (BitVec.ofNat 4 i))) m

theorem foldl_write (m : Memory) (a n : Nat) (f : Nat → Byte) :
    (List.range n).foldl (fun m i => m.write (a + i) (f i)) m =
      m.writeAll a ((List.range n).map f) := by
  induction n with
  | zero => rfl
  | succ n ih =>
    rw [List.range_succ, List.foldl_append, ih, List.map_append, List.map_singleton,
      writeAll_concat, List.length_map, List.length_range]
    rfl

/-- The loop comes to an end if all its cells may be written, and then it has written them all. -/
theorem storeLoop?_eq_some_iff :
    m.storeLoop? a v n = some m' ↔ (∀ i < n, Writable (a + i)) ∧
      m.writeAll a ((List.range n).map fun i => v.get (BitVec.ofNat 4 i)) = m' := by
  rw [← foldl_write]
  exact foldlM_range_eq_some_iff

end Memory

namespace Registers

variable {m : Memory} {a n : Nat} {v v' : Registers}

/-- Put the cells from `a` on in the first `n` registers, one after the other. -/
def loadLoop? (v : Registers) (m : Memory) (a n : Nat) : Option Registers :=
  (List.range n).foldlM (fun v i => (m.cell? (a + i)).map (v.set (BitVec.ofNat 4 i))) v

/-- The first `n` registers replaced by the cells from `a` on. -/
def loaded (v : Registers) (m : Memory) (a n : Nat) : Registers :=
  .ofFn fun i => if i.toNat < n then m.read (a + i.toNat) else v.get i

theorem loaded_succ (hn : n < registerCount) :
    v.loaded m a (n + 1) = (v.loaded m a n).set (BitVec.ofNat 4 n) (m.read (a + n)) := by
  refine ext_get fun i => ?_
  have hindex : BitVec.ofNat 4 n = i ↔ i.toNat = n := by
    rw [← BitVec.toNat_inj, BitVec.toNat_ofNat, Nat.mod_eq_of_lt hn, eq_comm]
  rw [get_set, loaded, loaded, get_ofFn, get_ofFn]
  by_cases hi : i.toNat = n
  · rw [if_pos (hindex.2 hi), if_pos (by omega), hi]
  · have hlt : i.toNat < n + 1 ↔ i.toNat < n := by omega
    simp only [hindex, hi, hlt, if_false]

theorem foldl_set (v : Registers) (m : Memory) (a : Nat) (hn : n ≤ registerCount) :
    (List.range n).foldl (fun v i => v.set (BitVec.ofNat 4 i) (m.read (a + i))) v =
      v.loaded m a n := by
  induction n with
  | zero => exact ext_get fun i => by simp [loaded, get_ofFn]
  | succ n ih =>
    rw [List.range_succ, List.foldl_append, ih (Nat.le_of_lt hn), loaded_succ hn]
    rfl

/-- The loop comes to an end if all its cells are in memory, and then it has loaded them all. -/
theorem loadLoop?_eq_some_iff (hn : n ≤ registerCount) :
    v.loadLoop? m a n = some v' ↔ (∀ i < n, a + i < memorySize) ∧ v.loaded m a n = v' := by
  have hstep (v : Registers) (i : Nat) : (m.cell? (a + i)).map (v.set (BitVec.ofNat 4 i)) =
      if a + i < memorySize then some (v.set (BitVec.ofNat 4 i) (m.read (a + i))) else none := by
    unfold Memory.cell?
    split <;> rfl
  simp only [loadLoop?, hstep]
  rw [foldlM_range_eq_some_iff, foldl_set v m a hn]

end Registers

/-! ## The words -/

theorem forall_writable_iff {a n : Nat} (hn : 0 < n) :
    (∀ i < n, Writable (a + i)) ↔ touchesFont a n = false ∧ a + n ≤ memorySize := by
  have hfont : touchesFont a n = false ↔ a + n ≤ fontStart ∨ fontEnd ≤ a := by
    simp only [touchesFont, Bool.and_eq_false_iff, decide_eq_false_iff_not]
    omega
  rw [hfont]
  constructor
  · intro h
    -- The last cell is in memory, and the first one from the glyphs on is behind them.
    have hlast := (h (n - 1) (by omega)).1
    have hfirst (hlt : max a fontStart - a < n) := (h _ hlt).2
    simp only [fontStart, fontEnd] at hfirst ⊢
    omega
  · rintro ⟨hfont, hend⟩ i hi
    exact ⟨by omega, by omega⟩

namespace State

variable {s t : State} {w : Word}

theorem guardWrite_eq_ok_iff_writable {next : State} {n : Nat} (hn : 0 < n) :
    s.guardWrite n next = .ok t ↔ (∀ i < n, Writable (s.index.toNat + i)) ∧ next = t := by
  have hrange : s.leavesMemory n = false ↔ s.index.toNat + n ≤ memorySize := by
    rw [leavesMemory_eq_false_iff]
    omega
  rw [guardWrite_eq_ok_iff, forall_writable_iff hn, hrange, and_assoc]

theorem guardRead_eq_ok_iff_lt {next : State} {n : Nat} (hn : 0 < n) :
    s.guardRead n next = .ok t ↔ (∀ i < n, s.index.toNat + i < memorySize) ∧ next = t := by
  have hrange : s.leavesMemory n = false ↔ ∀ i < n, s.index.toNat + i < memorySize := by
    rw [leavesMemory_eq_false_iff]
    constructor
    · intro h i hi
      omega
    · intro h
      have hlast := h (n - 1) (by omega)
      omega
  rw [guardRead_eq_ok_iff, hrange]

theorem carriesOut_store_iff (hw : w &&& 0xF0FF = 0xF055) :
    s.CarriesOut w t ↔ (∀ i < (wordX w).toNat + 1, Writable (s.index.toNat + i)) ∧
      { s.advanced with
        memory := s.memory.writeAll s.index.toNat (s.storeWindow (wordX w)) } = t := by
  rw [carriesOut_iff_of_decode? (decode?_eq_store_iff.2 ⟨hw, rfl⟩)]
  exact guardWrite_eq_ok_iff_writable (Nat.succ_pos _)

theorem carriesOut_load_iff (hw : w &&& 0xF0FF = 0xF065) :
    s.CarriesOut w t ↔ (∀ i < (wordX w).toNat + 1, s.index.toNat + i < memorySize) ∧
      { s.advanced with registers := s.loadWindow (wordX w) } = t := by
  rw [carriesOut_iff_of_decode? (decode?_eq_load_iff.2 ⟨hw, rfl⟩)]
  exact guardRead_eq_ok_iff_lt (Nat.succ_pos _)

/-- The cells behind the registers that are stored get the bytes that were in them. -/
theorem writeAll_storeWindow (s : State) (x : Nibble) :
    s.memory.writeAll s.index.toNat (s.storeWindow x) =
      s.memory.writeAll s.index.toNat
        ((List.range (x.toNat + 1)).map fun i => s.registers.get (BitVec.ofNat 4 i)) := by
  have hx := x.isLt
  refine Memory.ext_read fun j hj => ?_
  rw [storeWindow, Memory.read_writeAll_range _ _ _ _ hj, Memory.read_writeAll_range _ _ _ _ hj]
  by_cases hstored : s.index.toNat ≤ j ∧ j < s.index.toNat + (x.toNat + 1)
  · have hwindow : s.index.toNat ≤ j ∧ j < s.index.toNat + registerCount := by
      simp only [registerCount]
      omega
    rw [if_pos hstored, if_pos hwindow, if_pos (by omega)]
  · rw [if_neg hstored]
    split
    · have hcell : s.index.toNat + (j - s.index.toNat) = j := by omega
      rw [if_neg (by omega), hcell]
    · rfl

theorem loadWindow_eq (s : State) (x : Nibble) :
    s.loadWindow x = s.registers.loaded s.memory s.index.toNat (x.toNat + 1) := by
  refine Registers.ext_get fun i => ?_
  simp only [loadWindow, Registers.loaded, Registers.get_ofFn, BitVec.le_def, Nat.lt_succ_iff]

/-- The state `t` is what storing the registers up to `x` makes of `s`. -/
structure Stored (s : State) (x : Nibble) (t : State) : Prop where
  cells : ∀ i ≤ x, t.memory.read (s.index.toNat + i.toNat) = s.registers.get i
  other_cells : ∀ j < memorySize, j < s.index.toNat ∨ s.index.toNat + x.toNat < j →
    t.memory.read j = s.memory.read j
  by_loop : s.memory.storeLoop? s.index.toNat s.registers (x.toNat + 1) = some t.memory
  rest : t = { s.advanced with memory := t.memory }

/-- The state `t` is what loading the registers up to `x` makes of `s`. -/
structure Loaded (s : State) (x : Nibble) (t : State) : Prop where
  registers : ∀ i ≤ x, t.registers.get i = s.memory.read (s.index.toNat + i.toNat)
  other_registers : ∀ i, x < i → t.registers.get i = s.registers.get i
  by_loop : s.registers.loadLoop? s.memory s.index.toNat (x.toNat + 1) = some t.registers
  rest : t = { s.advanced with registers := t.registers }

theorem stored_of_carriesOut (hw : w &&& 0xF0FF = 0xF055) (h : s.CarriesOut w t) :
    Stored s (wordX w) t := by
  obtain ⟨hwritable, rfl⟩ := (carriesOut_store_iff hw).1 h
  generalize wordX w = x at *
  have hread {j : Nat} (hj : j < memorySize) := Memory.read_writeAll_range s.memory s.index.toNat
    (x.toNat + 1) (fun i => s.registers.get (BitVec.ofNat 4 i)) hj
  rw [writeAll_storeWindow]
  refine ⟨fun i hi => ?_, fun j hj hout => ?_, Memory.storeLoop?_eq_some_iff.2 ⟨hwritable, rfl⟩,
    rfl⟩
  · have hlt : i.toNat < x.toNat + 1 := Nat.lt_succ_of_le hi
    rw [hread (hwritable _ hlt).1, if_pos (by omega), Nat.add_sub_cancel_left,
      BitVec.ofNat_toNat, BitVec.setWidth_eq]
  · rw [hread hj, if_neg (by omega)]

theorem loaded_of_carriesOut (hw : w &&& 0xF0FF = 0xF065) (h : s.CarriesOut w t) :
    Loaded s (wordX w) t := by
  obtain ⟨hrange, rfl⟩ := (carriesOut_load_iff hw).1 h
  generalize wordX w = x at *
  have hx : x.toNat + 1 ≤ registerCount := x.isLt
  have hget (i : Nibble) : (s.loadWindow x).get i =
      if i ≤ x then s.memory.read (s.index.toNat + i.toNat) else s.registers.get i := by
    rw [loadWindow, Registers.get_ofFn]
  refine ⟨fun i hi => ?_, fun i hi => ?_, ?_, rfl⟩
  · rw [hget, if_pos hi]
  · rw [hget, if_neg (BitVec.not_le.2 hi)]
  · exact (Registers.loadLoop?_eq_some_iff hx).2 ⟨hrange, (loadWindow_eq s x).symm⟩

/-- What holds of every outcome of a word holds of the state after executing it, unless that has
halted. -/
theorem of_carriesOut {p : State → Prop} (h : ∀ t, s.CarriesOut w t → p t)
    (hnot : (s.execute w).halted = false) : p (s.execute w) := by
  obtain ⟨hs, t, ht⟩ := halted_execute_iff.1 hnot
  rw [ht.execute_eq hs]
  exact h t ht

end State

open State

/-- **Storing and loading registers is a loop.** Whatever the state, the index and the number of
registers, a word that stores or loads registers is carried out exactly if the loop over the cells
comes to an end, which it does only if it may touch each of them. What the word then makes of the
state, and so what executing it without a fault makes of it, is what the loop says. -/
theorem transfers_match_loops (s : State) (w : Word) :
    (w &&& 0xF0FF = 0xF055 →
      ((∃ t, s.CarriesOut w t) ↔
        (s.memory.storeLoop? s.index.toNat s.registers ((wordX w).toNat + 1)).isSome) ∧
      (∀ t, s.CarriesOut w t → Stored s (wordX w) t) ∧
      ((s.execute w).halted = false → Stored s (wordX w) (s.execute w))) ∧
    (w &&& 0xF0FF = 0xF065 →
      ((∃ t, s.CarriesOut w t) ↔
        (s.registers.loadLoop? s.memory s.index.toNat ((wordX w).toNat + 1)).isSome) ∧
      (∀ t, s.CarriesOut w t → Loaded s (wordX w) t) ∧
      ((s.execute w).halted = false → Loaded s (wordX w) (s.execute w))) := by
  constructor
  · intro hw
    refine ⟨⟨fun ⟨t, ht⟩ => ?_, fun h => ?_⟩, fun t => stored_of_carriesOut hw,
      of_carriesOut fun t => stored_of_carriesOut hw⟩
    · rw [(stored_of_carriesOut hw ht).by_loop]
      rfl
    · obtain ⟨m, hm⟩ := Option.isSome_iff_exists.1 h
      exact ⟨_, (carriesOut_store_iff hw).2 ⟨(Memory.storeLoop?_eq_some_iff.1 hm).1, rfl⟩⟩
  · intro hw
    have hx : (wordX w).toNat + 1 ≤ registerCount := (wordX w).isLt
    refine ⟨⟨fun ⟨t, ht⟩ => ?_, fun h => ?_⟩, fun t => loaded_of_carriesOut hw,
      of_carriesOut fun t => loaded_of_carriesOut hw⟩
    · rw [(loaded_of_carriesOut hw ht).by_loop]
      rfl
    · obtain ⟨v, hv⟩ := Option.isSome_iff_exists.1 h
      exact ⟨_, (carriesOut_load_iff hw).2 ⟨((Registers.loadLoop?_eq_some_iff hx).1 hv).1, rfl⟩⟩

/-- A machine about to store or load two registers in the last two cells of memory. -/
def atLastCells : State :=
  { State.powerOn .keyed ⟨0, 0⟩ 0x200 with
    index := 0xFFE
    registers := (Registers.zero.set 1 0x2A).set 2 7 }

/-- Fourteen of the sixteen cells do not exist, and nothing of them is stored or loaded. -/
theorem transfers_atLastCells :
    (atLastCells.execute 0xF155).halted = false ∧ (atLastCells.execute 0xF165).halted = false ∧
      (atLastCells.execute 0xF155).memory.read 0xFFF = 0x2A ∧
      (atLastCells.execute 0xF155).memory.read 0xFFD = atLastCells.memory.read 0xFFD ∧
      (atLastCells.execute 0xF165).registers.get 1 = atLastCells.memory.read 0xFFF ∧
      (atLastCells.execute 0xF165).registers.get 2 = 7 := by
  obtain ⟨hstores, -, hstored⟩ := (transfers_match_loops atLastCells 0xF155).1 (by decide)
  obtain ⟨hloads, -, hloaded⟩ := (transfers_match_loops atLastCells 0xF165).2 (by decide)
  have hstore : (atLastCells.execute 0xF155).halted = false :=
    halted_execute_iff.2 ⟨rfl, hstores.2 (by decide)⟩
  have hload : (atLastCells.execute 0xF165).halted = false :=
    halted_execute_iff.2 ⟨rfl, hloads.2 (by decide)⟩
  exact ⟨hstore, hload, (hstored hstore).cells 1 (by decide),
    (hstored hstore).other_cells 0xFFD (by decide) (by decide),
    (hloaded hload).registers 1 (by decide), (hloaded hload).other_registers 2 (by decide)⟩

end Chip8
