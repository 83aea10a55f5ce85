import Chip8.Word

/-!
# The keypad

Sixteen keys, each up or down, held as one bit per key: key `k` is bit `k`. `isDown` is the view;
`press` and `release` change one key, and `lowest?` finds the first key that is down.
-/

namespace Chip8

/-- The number of keys. -/
abbrev keyCount : Nat := 16

/-- Which keys are down. -/
structure Keypad where
  down : BitVec keyCount
deriving DecidableEq

namespace Keypad

/-- All keys up. -/
def none : Keypad := ⟨0⟩

/-- All keys down. -/
def all : Keypad := ⟨BitVec.allOnes keyCount⟩

/-- Whether a key is down. -/
def isDown (k : Keypad) (key : Nibble) : Bool := k.down.getLsbD key.toNat

/-- Put a key down. -/
def press (k : Keypad) (key : Nibble) : Keypad := ⟨k.down ||| BitVec.twoPow keyCount key.toNat⟩

/-- Let a key up. -/
def release (k : Keypad) (key : Nibble) : Keypad := ⟨k.down &&& ~~~BitVec.twoPow keyCount key.toNat⟩

/-- The keys that are down in both keypads. -/
def inter (k l : Keypad) : Keypad := ⟨k.down &&& l.down⟩

/-- The keys that are down in the first keypad and up in the second. -/
def without (k l : Keypad) : Keypad := ⟨k.down &&& ~~~l.down⟩

/-- The sixteen keys in order. -/
def keys : List Nibble := (List.range keyCount).map (BitVec.ofNat 4)

/-- The lowest-numbered key that is down. -/
def lowest? (k : Keypad) : Option Nibble := keys.find? k.isDown

/-- The keypad whose keys are given from key 0 on. -/
def ofList (states : List Bool) : Keypad := ⟨(BitVec.ofBoolListLE states).setWidth keyCount⟩

/-- Whether each key is down, from key 0 on. -/
def toList (k : Keypad) : List Bool := keys.map k.isDown

/-! ## Which keys are down after a change -/

theorem ext_isDown {k l : Keypad} (h : ∀ a, k.isDown a = l.isDown a) : k = l := by
  obtain ⟨d⟩ := k
  obtain ⟨e⟩ := l
  congr 1
  apply BitVec.eq_of_getLsbD_eq
  intro i hi
  simpa [isDown, Nat.mod_eq_of_lt hi] using h (BitVec.ofNat 4 i)

theorem isDown_none (a : Nibble) : none.isDown a = false := by simp [isDown, none]

theorem isDown_all (a : Nibble) : all.isDown a = true := by
  have ha : a.toNat < keyCount := a.isLt
  simp [isDown, all, ha]

theorem isDown_press (k : Keypad) (a b : Nibble) :
    (k.press a).isDown b = (k.isDown b || a == b) := by
  have ha : a.toNat < keyCount := a.isLt
  have h : (a == b) = decide (a.toNat = b.toNat) := by
    rw [Bool.eq_iff_iff]; simp [BitVec.toNat_inj]
  simp only [isDown, press, BitVec.getLsbD_or, BitVec.getLsbD_twoPow, ha, decide_true,
    Bool.true_and, h]

theorem isDown_release (k : Keypad) (a b : Nibble) :
    (k.release a).isDown b = (k.isDown b && a != b) := by
  have ha : a.toNat < keyCount := a.isLt
  have hb : b.toNat < keyCount := b.isLt
  have h : (a != b) = !decide (a.toNat = b.toNat) := by
    rw [Bool.eq_iff_iff]; simp [BitVec.toNat_inj]
  simp only [isDown, release, BitVec.getLsbD_and, BitVec.getLsbD_not, BitVec.getLsbD_twoPow, ha,
    hb, decide_true, Bool.true_and, h]

theorem isDown_inter (k l : Keypad) (a : Nibble) :
    (k.inter l).isDown a = (k.isDown a && l.isDown a) := by
  simp [isDown, inter]

theorem isDown_without (k l : Keypad) (a : Nibble) :
    (k.without l).isDown a = (k.isDown a && !l.isDown a) := by
  have ha : a.toNat < keyCount := a.isLt
  simp [isDown, without, ha]

theorem isDown_ofList (states : List Bool) (a : Nibble) :
    (ofList states).isDown a = states.getD a.toNat false := by
  have ha : a.toNat < keyCount := a.isLt
  simp [isDown, ofList, ha]

/-! ## The lowest key that is down -/

theorem mem_keys (a : Nibble) : a ∈ keys :=
  List.mem_map.2 ⟨a.toNat, List.mem_range.2 a.isLt, BitVec.ofNat_toNat ..⟩

theorem lowest?_eq_none_iff {k : Keypad} : k.lowest? = Option.none ↔ ∀ a, k.isDown a = false := by
  simp [lowest?, mem_keys]

theorem lowest?_eq_some_iff {k : Keypad} {a : Nibble} :
    k.lowest? = some a ↔ k.isDown a = true ∧ ∀ b < a, k.isDown b = false := by
  simp only [lowest?, keys, List.find?_map, Option.map_eq_some_iff, List.find?_range_eq_some,
    List.mem_range, Function.comp, Bool.not_eq_true']
  constructor
  · rintro ⟨i, ⟨hi, hsize, hbelow⟩, rfl⟩
    refine ⟨hi, fun b hb => ?_⟩
    have hlt : b.toNat < i := by
      have h := BitVec.lt_def.1 hb
      rwa [BitVec.toNat_ofNat, Nat.mod_eq_of_lt hsize] at h
    simpa using hbelow b.toNat hlt
  · rintro ⟨ha, hbelow⟩
    refine ⟨a.toNat, ⟨by simpa using ha, a.isLt, fun i hi => hbelow _ ?_⟩, by simp⟩
    have ha := a.isLt
    rw [BitVec.lt_def, BitVec.toNat_ofNat, Nat.mod_eq_of_lt (by omega)]
    exact hi

end Keypad

end Chip8
