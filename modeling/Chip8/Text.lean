/-!
# Texts

A host may keep a character as a pair of halves, and hand over a text in which a half stands alone.
So a text here is a list of symbols, each of which is a character or a half of a pair.
`ofNumber_number` and `number_ofNumber` say that symbols are known by their numbers, and
`split_join` that texts are found again when they are joined and cut.
-/

namespace Chip8

/-- A character, or a half of a pair by its place among all halves. -/
inductive Symbol
  | char (c : Char)
  | half (place : BitVec 11)
deriving DecidableEq, Repr

instance : Coe Char Symbol := ⟨.char⟩

namespace Symbol

/-- The number of the first half. -/
def firstHalf : Nat := 0xD800

/-- The number of halves. -/
def halfCount : Nat := 0x800

/-- The number of a symbol. -/
def number : Symbol → Nat
  | char c => c.toNat
  | half place => firstHalf + place.toNat

/-- The symbol with a number. -/
def ofNumber (n : Nat) : Symbol :=
  if firstHalf ≤ n ∧ n < firstHalf + halfCount then half (BitVec.ofNat 11 (n - firstHalf))
  else char (Char.ofNat n)

/-- The symbol is a half. -/
def isHalf : Symbol → Bool
  | char _ => false
  | half _ => true

/-- A half stands for a byte that is part of no character. -/
def isByte (s : Symbol) : Bool := s.isHalf && 0xDC80 ≤ s.number && s.number ≤ 0xDCFF

/-- The number of bytes that a symbol takes in the name of a file, if it can be in one. -/
def size? : Symbol → Option Nat
  | char c => some c.utf8Size
  | s => if s.isByte then some 1 else none

theorem ofNumber_number (s : Symbol) : ofNumber s.number = s := by
  cases s with
  | char c =>
    have hvalid : c.toNat < 0xD800 ∨ 0xDFFF < c.toNat ∧ c.toNat < 0x110000 := c.valid
    have hnot : ¬ (firstHalf ≤ c.toNat ∧ c.toNat < firstHalf + halfCount) := by
      simp only [firstHalf, halfCount]
      omega
    show (if firstHalf ≤ c.toNat ∧ c.toNat < firstHalf + halfCount then _ else _) = _
    rw [if_neg hnot]
    simp [number]
  | half place =>
    have := place.isLt
    unfold ofNumber number
    rw [if_pos (by simp only [halfCount]; omega)]
    simp

theorem number_ofNumber {n : Nat} (h : n < 0x110000) : (ofNumber n).number = n := by
  unfold ofNumber
  split
  · rename_i hn
    simp only [number, halfCount, BitVec.toNat_ofNat] at hn ⊢
    omega
  · rename_i hn
    simp only [firstHalf, halfCount] at hn
    have hvalid : n.isValidChar := by simp only [Nat.isValidChar]; omega
    rw [number, Char.ofNat, dif_pos hvalid]
    rfl

end Symbol

/-- A text as a host hands it over. -/
abbrev Text := List Symbol

namespace Text

/-- The text of a string. -/
def ofString (s : String) : Text := s.toList.map .char

instance : Coe String Text := ⟨ofString⟩

/-- The characters of a text without halves. -/
def chars? : Text → Option (List Char)
  | [] => some []
  | .char c :: t => (chars? t).map (c :: ·)
  | .half _ :: _ => none

/-- The string of a text without halves. -/
def string? (t : Text) : Option String := t.chars?.map String.ofList

theorem chars?_map_char (cs : List Char) : chars? (cs.map .char) = some cs := by
  induction cs with
  | nil => rfl
  | cons c cs ih => simp [chars?, ih]

/-- A text filled with spaces on the left to a least width. -/
def padLeft (width : Nat) (t : Text) : Text := List.replicate (width - t.length) (.char ' ') ++ t

/-! ## Cutting and joining -/

/-- Texts one after the other with a separator between them. -/
def join (separator : Text) (texts : List Text) : Text := List.intercalate separator texts

/-- The parts of a text between separators. -/
def split (separator : Symbol) : Text → List Text
  | [] => [[]]
  | s :: rest =>
    let parts := split separator rest
    if s = separator then [] :: parts else (s :: parts.headD []) :: parts.tail

/-- The lines of a text. -/
def lines (t : Text) : List Text := t.split '\n'

theorem split_of_not_mem {separator : Symbol} {t : Text} (h : separator ∉ t) :
    split separator t = [t] := by
  induction t with
  | nil => rfl
  | cons s rest ih =>
    obtain ⟨hs, hrest⟩ := List.ne_and_not_mem_of_not_mem_cons h
    simp [split, Ne.symm hs, ih hrest]

theorem split_append {separator : Symbol} {part : Text} (h : separator ∉ part) (t : Text) :
    split separator (part ++ separator :: t) = part :: split separator t := by
  induction part with
  | nil => simp [split]
  | cons s rest ih =>
    obtain ⟨hs, hrest⟩ := List.ne_and_not_mem_of_not_mem_cons h
    simp [split, Ne.symm hs, ih hrest]

theorem split_join {separator : Symbol} {parts : List Text} (hne : parts ≠ [])
    (h : ∀ part ∈ parts, separator ∉ part) : split separator (join [separator] parts) = parts := by
  induction parts with
  | nil => exact absurd rfl hne
  | cons part parts ih =>
    cases parts with
    | nil => simpa [join, List.intercalate] using split_of_not_mem (h part List.mem_cons_self)
    | cons next parts =>
      have hjoin : join [separator] (part :: next :: parts) =
          part ++ separator :: join [separator] (next :: parts) := by
        simp [join, List.intercalate]
      rw [hjoin, split_append (h part List.mem_cons_self),
        ih (by simp) fun other hmem => h other (List.mem_cons_of_mem _ hmem)]

end Text

end Chip8
