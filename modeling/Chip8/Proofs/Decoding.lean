import Chip8.Instruction

/-!
# Decoding

No word fits two rows of the instruction set (`table_pairwise_apart`), so the order of
`Encoding.table` does not matter: a word stands for an instruction exactly when it fits some row
that builds this instruction (`decode?_eq_some_iff`).

The instructions are then read off their masks, each by one equivalence. These are what connects a
statement about the bits of a word with a statement about an instruction.
-/

namespace Chip8

namespace Encoding

/-! ## The rows exclude each other -/

/-- Two rows ask for different values of a bit that both look at. -/
def Apart (e f : Encoding) : Prop := e.mask &&& f.mask &&& (e.value ^^^ f.value) ≠ 0

instance : DecidableRel Apart := fun e f =>
  inferInstanceAs (Decidable (e.mask &&& f.mask &&& (e.value ^^^ f.value) ≠ 0))

theorem fits_iff {e : Encoding} {w : Word} : e.fits w = true ↔ w &&& e.mask = e.value := by
  simp [fits]

theorem not_apart_of_fits {e f : Encoding} {w : Word} (he : e.fits w = true)
    (hf : f.fits w = true) : ¬ Apart e f := by
  rw [fits_iff] at he hf
  have h : e.mask &&& f.mask &&& (e.value ^^^ f.value) = 0 := by
    rw [← he, ← hf]
    ext i
    simp only [BitVec.getElem_and, BitVec.getElem_xor]
    cases w[i] <;> cases e.mask[i] <;> cases f.mask[i] <;> simp
  exact fun hne => hne h

theorem table_pairwise_apart : table.Pairwise Apart := by decide

theorem find?_fits {rows : List Encoding} (hrows : rows.Pairwise Apart) {e : Encoding} {w : Word}
    (he : e ∈ rows) (hw : e.fits w = true) : rows.find? (·.fits w) = some e := by
  induction rows with
  | nil => cases he
  | cons f rows ih =>
    obtain ⟨hf, hrows⟩ := List.pairwise_cons.1 hrows
    rcases List.mem_cons.1 he with rfl | he
    · simp [hw]
    · have hnot : f.fits w = false :=
        Bool.eq_false_iff.2 fun hfw => not_apart_of_fits hfw hw (hf e he)
      simp only [List.find?_cons, hnot]
      exact ih hrows he

end Encoding

/-! ## Words and instructions -/

theorem decode?_eq_some_iff {w : Word} {i : Instruction} :
    decode? w = some i ↔ ∃ e ∈ Encoding.table, e.fits w = true ∧ e.build w = i := by
  unfold decode?
  constructor
  · intro h
    obtain ⟨e, he, rfl⟩ := Option.map_eq_some_iff.1 h
    have hw := List.find?_some he
    exact ⟨e, List.mem_of_find?_eq_some he, hw, rfl⟩
  · rintro ⟨e, he, hw, rfl⟩
    rw [Encoding.find?_fits Encoding.table_pairwise_apart he hw]
    rfl

section Masks

variable {w : Word}

theorem decode?_eq_none_iff_mask :
    decode? w = none ↔ ∀ e ∈ Encoding.table, w &&& e.mask ≠ e.value := by
  rw [decode?_eq_none_iff]
  refine forall_congr' fun e => forall_congr' fun _ => ?_
  rw [← Bool.not_eq_true, Encoding.fits_iff]

theorem decode?_eq_clearScreen_iff : decode? w = some .clearScreen ↔ w = 0x00E0 := by
  have hmask : w &&& 65535#16 = w := BitVec.and_allOnes
  simp [decode?_eq_some_iff, Encoding.table, Encoding.ofAlu, Encoding.ofRegister, Encoding.fits,
    hmask]

theorem decode?_eq_ret_iff : decode? w = some .ret ↔ w = 0x00EE := by
  have hmask : w &&& 65535#16 = w := BitVec.and_allOnes
  simp [decode?_eq_some_iff, Encoding.table, Encoding.ofAlu, Encoding.ofRegister, Encoding.fits,
    hmask]

theorem decode?_eq_jump_iff {target : Address} :
    decode? w = some (.jump target) ↔ w &&& 0xF000 = 0x1000 ∧ wordAddress w = target := by
  simp [decode?_eq_some_iff, Encoding.table, Encoding.ofAlu, Encoding.ofRegister, Encoding.fits]

theorem decode?_eq_call_iff {target : Address} :
    decode? w = some (.call target) ↔ w &&& 0xF000 = 0x2000 ∧ wordAddress w = target := by
  simp [decode?_eq_some_iff, Encoding.table, Encoding.ofAlu, Encoding.ofRegister, Encoding.fits]

theorem decode?_eq_skipIf_eqByte_iff {x : Nibble} {k : Byte} :
    decode? w = some (.skipIf (.eqByte x k)) ↔
      w &&& 0xF000 = 0x3000 ∧ wordX w = x ∧ wordByte w = k := by
  simp [decode?_eq_some_iff, Encoding.table, Encoding.ofAlu, Encoding.ofRegister, Encoding.fits]

theorem decode?_eq_skipIf_neByte_iff {x : Nibble} {k : Byte} :
    decode? w = some (.skipIf (.neByte x k)) ↔
      w &&& 0xF000 = 0x4000 ∧ wordX w = x ∧ wordByte w = k := by
  simp [decode?_eq_some_iff, Encoding.table, Encoding.ofAlu, Encoding.ofRegister, Encoding.fits]

theorem decode?_eq_skipIf_eqReg_iff {x y : Nibble} :
    decode? w = some (.skipIf (.eqReg x y)) ↔
      w &&& 0xF00F = 0x5000 ∧ wordX w = x ∧ wordY w = y := by
  simp [decode?_eq_some_iff, Encoding.table, Encoding.ofAlu, Encoding.ofRegister, Encoding.fits]

theorem decode?_eq_skipIf_neReg_iff {x y : Nibble} :
    decode? w = some (.skipIf (.neReg x y)) ↔
      w &&& 0xF00F = 0x9000 ∧ wordX w = x ∧ wordY w = y := by
  simp [decode?_eq_some_iff, Encoding.table, Encoding.ofAlu, Encoding.ofRegister, Encoding.fits]

theorem decode?_eq_loadByte_iff {x : Nibble} {k : Byte} :
    decode? w = some (.loadByte x k) ↔ w &&& 0xF000 = 0x6000 ∧ wordX w = x ∧ wordByte w = k := by
  simp [decode?_eq_some_iff, Encoding.table, Encoding.ofAlu, Encoding.ofRegister, Encoding.fits]

theorem decode?_eq_addByte_iff {x : Nibble} {k : Byte} :
    decode? w = some (.addByte x k) ↔ w &&& 0xF000 = 0x7000 ∧ wordX w = x ∧ wordByte w = k := by
  simp [decode?_eq_some_iff, Encoding.table, Encoding.ofAlu, Encoding.ofRegister, Encoding.fits]

/-- What words for an operation on two registers have under the mask `0xF00F`. -/
def AluOp.value : AluOp → Word
  | copy => 0x8000
  | or => 0x8001
  | and => 0x8002
  | xor => 0x8003
  | add => 0x8004
  | sub => 0x8005
  | shiftRight => 0x8006
  | subFrom => 0x8007
  | shiftLeft => 0x800E

theorem decode?_eq_alu_iff {op : AluOp} {x y : Nibble} :
    decode? w = some (.alu op x y) ↔ w &&& 0xF00F = op.value ∧ wordX w = x ∧ wordY w = y := by
  cases op <;>
    simp [decode?_eq_some_iff, Encoding.table, Encoding.ofAlu, Encoding.ofRegister, Encoding.fits,
      AluOp.value]

theorem decode?_eq_loadIndex_iff {address : Address} :
    decode? w = some (.loadIndex address) ↔ w &&& 0xF000 = 0xA000 ∧ wordAddress w = address := by
  simp [decode?_eq_some_iff, Encoding.table, Encoding.ofAlu, Encoding.ofRegister, Encoding.fits]

theorem decode?_eq_jumpOffset_iff {x : Nibble} {base : Address} :
    decode? w = some (.jumpOffset x base) ↔
      w &&& 0xF000 = 0xB000 ∧ wordX w = x ∧ wordAddress w = base := by
  simp [decode?_eq_some_iff, Encoding.table, Encoding.ofAlu, Encoding.ofRegister, Encoding.fits]

theorem decode?_eq_draw_iff {x y height : Nibble} :
    decode? w = some (.draw x y height) ↔
      w &&& 0xF000 = 0xD000 ∧ wordX w = x ∧ wordY w = y ∧ wordN w = height := by
  simp [decode?_eq_some_iff, Encoding.table, Encoding.ofAlu, Encoding.ofRegister, Encoding.fits]

theorem decode?_eq_decimal_iff {x : Nibble} :
    decode? w = some (.decimal x) ↔ w &&& 0xF0FF = 0xF033 ∧ wordX w = x := by
  simp [decode?_eq_some_iff, Encoding.table, Encoding.ofAlu, Encoding.ofRegister, Encoding.fits]

theorem decode?_eq_store_iff {x : Nibble} :
    decode? w = some (.store x) ↔ w &&& 0xF0FF = 0xF055 ∧ wordX w = x := by
  simp [decode?_eq_some_iff, Encoding.table, Encoding.ofAlu, Encoding.ofRegister, Encoding.fits]

theorem decode?_eq_load_iff {x : Nibble} :
    decode? w = some (.load x) ↔ w &&& 0xF0FF = 0xF065 ∧ wordX w = x := by
  simp [decode?_eq_some_iff, Encoding.table, Encoding.ofAlu, Encoding.ofRegister, Encoding.fits]

theorem decode?_eq_waitKey_iff {x : Nibble} :
    decode? w = some (.waitKey x) ↔ w &&& 0xF0FF = 0xF00A ∧ wordX w = x := by
  simp [decode?_eq_some_iff, Encoding.table, Encoding.ofAlu, Encoding.ofRegister, Encoding.fits]

theorem decode?_eq_random_iff {x : Nibble} {mask : Byte} :
    decode? w = some (.random x mask) ↔
      w &&& 0xF000 = 0xC000 ∧ wordX w = x ∧ wordByte w = mask := by
  simp [decode?_eq_some_iff, Encoding.table, Encoding.ofAlu, Encoding.ofRegister, Encoding.fits]

theorem decode?_eq_skipIf_keyDown_iff {x : Nibble} :
    decode? w = some (.skipIf (.keyDown x)) ↔ w &&& 0xF0FF = 0xE09E ∧ wordX w = x := by
  simp [decode?_eq_some_iff, Encoding.table, Encoding.ofAlu, Encoding.ofRegister, Encoding.fits]

theorem decode?_eq_skipIf_keyUp_iff {x : Nibble} :
    decode? w = some (.skipIf (.keyUp x)) ↔ w &&& 0xF0FF = 0xE0A1 ∧ wordX w = x := by
  simp [decode?_eq_some_iff, Encoding.table, Encoding.ofAlu, Encoding.ofRegister, Encoding.fits]

theorem decode?_eq_readDelay_iff {x : Nibble} :
    decode? w = some (.readDelay x) ↔ w &&& 0xF0FF = 0xF007 ∧ wordX w = x := by
  simp [decode?_eq_some_iff, Encoding.table, Encoding.ofAlu, Encoding.ofRegister, Encoding.fits]

theorem decode?_eq_setDelay_iff {x : Nibble} :
    decode? w = some (.setDelay x) ↔ w &&& 0xF0FF = 0xF015 ∧ wordX w = x := by
  simp [decode?_eq_some_iff, Encoding.table, Encoding.ofAlu, Encoding.ofRegister, Encoding.fits]

theorem decode?_eq_setSound_iff {x : Nibble} :
    decode? w = some (.setSound x) ↔ w &&& 0xF0FF = 0xF018 ∧ wordX w = x := by
  simp [decode?_eq_some_iff, Encoding.table, Encoding.ofAlu, Encoding.ofRegister, Encoding.fits]

theorem decode?_eq_addIndex_iff {x : Nibble} :
    decode? w = some (.addIndex x) ↔ w &&& 0xF0FF = 0xF01E ∧ wordX w = x := by
  simp [decode?_eq_some_iff, Encoding.table, Encoding.ofAlu, Encoding.ofRegister, Encoding.fits]

theorem decode?_eq_glyph_iff {x : Nibble} :
    decode? w = some (.glyph x) ↔ w &&& 0xF0FF = 0xF029 ∧ wordX w = x := by
  simp [decode?_eq_some_iff, Encoding.table, Encoding.ofAlu, Encoding.ofRegister, Encoding.fits]

end Masks

end Chip8
