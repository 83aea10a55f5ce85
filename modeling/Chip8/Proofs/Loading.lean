import Chip8.Proofs.FaultCause
import Chip8.Proofs.Reading
import Chip8.Proofs.Run

/-!
# Programs in memory

A program is refused for one of three reasons, which are looked at in order: its address is outside
memory, it is longer than the room behind the address, or one of its bytes would fall on a glyph
(`Rom.Refused`). A program that none of them stands against is copied to its address, and nothing
else changes but the program counter, which points at it (`InPlace`).

**`programs_in_place`** says this for every state, program and address. It follows that a program
that is assembled from words is fetched word by word from where it was loaded, up to a last word in
the last two bytes of memory.
-/

namespace Chip8

namespace Rom

variable {rom : Rom} {a : Int} {f : Failure}

/-! ## Programs that are refused -/

/-- Why a program is refused at an address. -/
inductive Refused (rom : Rom) (a : Int) : Failure → Prop
  | outside : ¬(0 ≤ a ∧ a < memorySize) → Refused rom a (.memoryOutOfBounds a none)
  | tooLarge : 0 ≤ a → a < memorySize → memorySize - a < rom.length →
      Refused rom a (.romTooLarge rom.length (.int (memorySize - a)))
  | onFont {j : Nat} : 0 ≤ a → a < memorySize → rom.length ≤ memorySize - a →
      firstFontByte? a.toNat rom.length = some j → Refused rom a (.memoryOutOfBounds j none)

/-- A program has room at an address, and keeps off the glyphs. -/
structure Fits (rom : Rom) (a : Int) : Prop where
  nonneg : 0 ≤ a
  lt : a < memorySize
  length_le : rom.length ≤ memorySize - a
  off_font : ∀ j : Nat, a ≤ j → j < a + rom.length → j < fontStart ∨ fontEnd ≤ j

theorem obstacle?_of_outside (h : ¬(0 ≤ a ∧ a < memorySize)) :
    rom.obstacle? a = some (.memoryOutOfBounds a none) :=
  if_pos (by omega)

section Inside

variable (hnonneg : 0 ≤ a) (hlt : a < memorySize)

include hnonneg hlt

theorem obstacle?_of_tooLarge (h : memorySize - a < rom.length) :
    rom.obstacle? a = some (.romTooLarge rom.length (.int (memorySize - a))) := by
  have hcapacity : ((memorySize - a.toNat : Nat) : Int) = memorySize - a := by omega
  rw [obstacle?, if_neg (by omega)]
  dsimp only
  rw [if_pos (by omega), hcapacity]

theorem obstacle?_of_length_le (h : rom.length ≤ memorySize - a) :
    rom.obstacle? a =
      (firstFontByte? a.toNat rom.length).map fun j => .memoryOutOfBounds j none := by
  rw [obstacle?, if_neg (by omega)]
  dsimp only
  rw [if_neg (by omega), firstFontByte?_eq]
  split <;> rfl

end Inside

theorem obstacle?_eq_some_iff : rom.obstacle? a = some f ↔ rom.Refused a f := by
  constructor
  · intro h
    by_cases hin : 0 ≤ a ∧ a < memorySize
    · by_cases hroom : rom.length ≤ memorySize - a
      · rw [obstacle?_of_length_le hin.1 hin.2 hroom] at h
        obtain ⟨j, hj, rfl⟩ := Option.map_eq_some_iff.1 h
        exact .onFont hin.1 hin.2 hroom hj
      · have hroom : memorySize - a < rom.length := by omega
        rw [obstacle?_of_tooLarge hin.1 hin.2 hroom] at h
        obtain rfl := Option.some.inj h
        exact .tooLarge hin.1 hin.2 hroom
    · rw [obstacle?_of_outside hin] at h
      obtain rfl := Option.some.inj h
      exact .outside hin
  · rintro (hout | ⟨hnonneg, hlt, hroom⟩ | ⟨hnonneg, hlt, hroom, hj⟩)
    · exact obstacle?_of_outside hout
    · exact obstacle?_of_tooLarge hnonneg hlt hroom
    · rw [obstacle?_of_length_le hnonneg hlt hroom, hj, Option.map_some]

theorem firstFontByte?_eq_none_iff {n m : Nat} :
    firstFontByte? n m = none ↔ ∀ j, n ≤ j → j < n + m → j < fontStart ∨ fontEnd ≤ j := by
  simp only [firstFontByte?, List.find?_range'_eq_none, Bool.not_eq_true', Bool.and_eq_false_iff,
    decide_eq_false_iff_not, Nat.not_le, Nat.not_lt]

theorem obstacle?_eq_none_iff : rom.obstacle? a = none ↔ rom.Fits a := by
  by_cases hin : 0 ≤ a ∧ a < memorySize
  · obtain ⟨hnonneg, hlt⟩ := hin
    by_cases hroom : rom.length ≤ memorySize - a
    · rw [obstacle?_of_length_le hnonneg hlt hroom, Option.map_eq_none_iff,
        firstFontByte?_eq_none_iff]
      constructor
      · exact fun h => ⟨hnonneg, hlt, hroom, fun j hstart hend => h j (by omega) (by omega)⟩
      · exact fun h j hstart hend => h.off_font j (by omega) (by omega)
    · rw [obstacle?_of_tooLarge hnonneg hlt (by omega)]
      exact ⟨nofun, fun h => absurd h.length_le hroom⟩
  · rw [obstacle?_of_outside hin]
    exact ⟨nofun, fun h => absurd ⟨h.nonneg, h.lt⟩ hin⟩

end Rom

/-! ## Words in memory -/

/-- A word as it stands in memory, high byte first. -/
def wordBytes (w : Word) : List Byte := [w.extractLsb' 8 8, wordByte w]

/-- The program that is made up of words. -/
def assemble (ws : List Word) : Rom := ws.flatMap wordBytes

theorem append_wordBytes (w : Word) : w.extractLsb' 8 8 ++ wordByte w = w :=
  BitVec.extractLsb'_append_extractLsb'

theorem length_assemble (ws : List Word) : (assemble ws).length = 2 * ws.length := by
  induction ws with
  | nil => rfl
  | cons w ws ih =>
    have htail : (assemble (w :: ws)).length = (assemble ws).length + 2 := rfl
    rw [htail, ih, List.length_cons, Nat.mul_succ]

theorem getElem?_assemble (ws : List Word) (k : Nat) :
    (assemble ws)[2 * k]? = ws[k]?.map (·.extractLsb' 8 8) ∧
      (assemble ws)[2 * k + 1]? = ws[k]?.map wordByte := by
  induction ws generalizing k with
  | nil => simp [assemble]
  | cons w ws ih =>
    cases k with
    | zero => exact ⟨rfl, rfl⟩
    | succ k => exact ih k

/-! ## Programs that are loaded -/

/-- A program stands at an address, and nothing else is different but the program counter, which
points at it. -/
structure InPlace (s : State) (rom : Rom) (a : Int) (t : State) : Prop where
  program : ∀ i (h : i < rom.length), t.memory.read (a.toNat + i) = rom[i]
  outside : ∀ j < memorySize, j < a ∨ a + rom.length ≤ j → t.memory.read j = s.memory.read j
  pc : (t.pc.toNat : Int) = a
  others : AgreeBut [.memory, .pc] s t

namespace InPlace

variable {s t u : State} {rom : Rom} {a : Int}

theorem of_writeAll (hfits : rom.Fits a) : InPlace s rom a
    { s with memory := s.memory.writeAll a.toNat rom, pc := BitVec.ofInt 16 a } := by
  obtain ⟨hnonneg, hlt, hlength, -⟩ := hfits
  have hsize : (memorySize : Int) = 4096 := rfl
  refine ⟨fun i hi => Memory.read_writeAll_add _ (by omega) hi, fun j hj hout => ?_, ?_, ?_⟩
  · exact Memory.read_writeAll_of_outside _ hj (by omega)
  · show ((BitVec.ofInt 16 a).toNat : Int) = a
    rw [BitVec.toNat_ofInt]
    omega
  · intro p hp
    cases p <;> simp_all [Part.Kept]

/-- There is one way to put a program in place. -/
theorem unique (hfits : rom.Fits a) (h : InPlace s rom a t) (h' : InPlace s rom a u) : t = u := by
  obtain ⟨hnonneg, hlt, hlength, -⟩ := hfits
  have hmemory : u.memory = t.memory := by
    refine Memory.ext_read fun j hj => ?_
    by_cases hin : a.toNat ≤ j ∧ j < a.toNat + rom.length
    · obtain ⟨i, rfl⟩ := Nat.exists_eq_add_of_le hin.1
      have hi : i < rom.length := by omega
      rw [h.program i hi, h'.program i hi]
    · have hout : j < a ∨ a + rom.length ≤ j := by omega
      rw [h.outside j hj hout, h'.outside j hj hout]
  have hpc : u.pc = t.pc := BitVec.eq_of_toNat_eq (Int.ofNat.inj (h'.pc.trans h.pc.symm))
  refine State.ext_kept fun p => ?_
  by_cases hp : p ∈ [Part.memory, .pc]
  · have hboth : p = .memory ∨ p = .pc := by simpa using hp
    rcases hboth with rfl | rfl
    · exact hmemory
    · exact hpc
  · exact h.others.symm.trans h'.others p hp

/-- Any state with the memory of an assembled program fetches its words from where they stand. -/
theorem fetch_eq {ws : List Word} (hfits : (assemble ws).Fits a)
    (h : InPlace s (assemble ws) a t) {k : Nat} (hk : k < ws.length)
    (hmemory : u.memory = t.memory) (hpc : (u.pc.toNat : Int) = a + 2 * k) :
    u.canFetch = true ∧ u.fetch = ws[k] := by
  obtain ⟨hnonneg, hlt, hlength, -⟩ := hfits
  rw [length_assemble] at hlength
  have hstart : u.pc.toNat = a.toNat + 2 * k := by omega
  have hf : u.canFetch = true := State.canFetch_iff.2 (by omega)
  obtain ⟨hhigh, hlow⟩ := getElem?_assemble ws k
  rw [List.getElem?_eq_getElem hk, Option.map_some] at hhigh hlow
  obtain ⟨hi, hhigh⟩ := List.getElem?_eq_some_iff.1 hhigh
  obtain ⟨hi', hlow⟩ := List.getElem?_eq_some_iff.1 hlow
  refine ⟨hf, ?_⟩
  rw [State.fetch, State.toNat_pc_add_one hf, hmemory, hstart, Nat.add_assoc, h.program _ hi,
    h.program _ hi', hhigh, hlow, append_wordBytes]

end InPlace

section Loading

variable {s t : State} {rom : Rom} {a : Int} {f : Failure}

theorem loadRom_eq_error_iff : s.loadRom rom a = .error f ↔ rom.Refused a f := by
  rw [← Rom.obstacle?_eq_some_iff, State.loadRom]
  split <;> simp_all

theorem loadRom_eq_ok_iff_inPlace :
    s.loadRom rom a = .ok t ↔ rom.Fits a ∧ InPlace s rom a t := by
  rw [loadRom_eq_ok_iff, Rom.obstacle?_eq_none_iff]
  refine and_congr_right fun hfits => ⟨fun h => h ▸ .of_writeAll hfits, fun h => ?_⟩
  exact InPlace.unique hfits (.of_writeAll hfits) h

end Loading

/-- **Programs in memory.** A program is refused for its address, for its length or for a glyph that
it would overwrite, in this order; otherwise it is put in place and nothing else changes. The words
of an assembled program are then fetched from where they were put. -/
theorem programs_in_place (s : State) (a : Int) :
    (∀ rom f, s.loadRom rom a = .error f ↔ rom.Refused a f) ∧
    (∀ rom t, s.loadRom rom a = .ok t ↔ rom.Fits a ∧ InPlace s rom a t) ∧
    ∀ ws t, s.loadRom (assemble ws) a = .ok t → ∀ k (hk : k < ws.length) (u : State),
      u.memory = t.memory → (u.pc.toNat : Int) = a + 2 * k →
        u.canFetch = true ∧ u.fetch = ws[k] := by
  refine ⟨fun _ _ => loadRom_eq_error_iff, fun _ _ => loadRom_eq_ok_iff_inPlace, ?_⟩
  intro ws t h k hk u hmemory hpc
  obtain ⟨hfits, hplace⟩ := loadRom_eq_ok_iff_inPlace.1 h
  exact hplace.fetch_eq hfits hk hmemory hpc

/-- A program of two words that ends where memory ends: its second word is fetched from the last two
bytes. -/
theorem lastWord_fetched : ∃ t : State,
    (State.powerOn .keyed ⟨0, 0⟩ 0x200).loadRom (assemble [0x6005, 0x1FFC]) 0xFFC = .ok t ∧
      State.canFetch { t with pc := 0xFFE } = true ∧ State.fetch { t with pc := 0xFFE } = 0x1FFC :=
  have h := loadRom_eq_ok_iff.2 ⟨by decide, rfl⟩
  ⟨_, h, (programs_in_place _ 0xFFC).2.2 [0x6005, 0x1FFC] _ h 1 (by decide) _ rfl rfl⟩

end Chip8
