import Chip8.Word

/-!
# Instructions and their encoding

`Instruction` is what the machine can be told to do. `Encoding.table` is the instruction set as it
is written in memory: each row names a mask, the bits a word has under it, and the instruction
that such a word stands for. `decode?` looks a word up in the table, and `opcodeIndex` is the row
number, or the number of rows for a word that fits none.
-/

namespace Chip8

/-! ## What the machine can be told to do -/

/-- A test that a skip instruction makes. -/
inductive Condition
  | eqByte (x : Nibble) (k : Byte)
  | neByte (x : Nibble) (k : Byte)
  | eqReg (x y : Nibble)
  | neReg (x y : Nibble)
  | keyDown (x : Nibble)
  | keyUp (x : Nibble)
deriving DecidableEq, Repr

/-- An operation on two registers; `shiftRight` and `shiftLeft` look at the first alone. -/
inductive AluOp
  | copy
  | or
  | and
  | xor
  | add
  | sub
  | shiftRight
  | subFrom
  | shiftLeft
deriving DecidableEq, Repr

/-- An instruction with its operands. -/
inductive Instruction
  | clearScreen
  | ret
  | jump (target : Address)
  | call (target : Address)
  | skipIf (condition : Condition)
  | loadByte (x : Nibble) (k : Byte)
  | addByte (x : Nibble) (k : Byte)
  | alu (op : AluOp) (x y : Nibble)
  | loadIndex (address : Address)
  | jumpOffset (x : Nibble) (base : Address)
  | random (x : Nibble) (mask : Byte)
  | draw (x y height : Nibble)
  | readDelay (x : Nibble)
  | waitKey (x : Nibble)
  | setDelay (x : Nibble)
  | setSound (x : Nibble)
  | addIndex (x : Nibble)
  | glyph (x : Nibble)
  | decimal (x : Nibble)
  | store (x : Nibble)
  | load (x : Nibble)
deriving DecidableEq, Repr

/-! ## Encoding -/

/-- A row of the instruction set: words that are `value` under `mask` stand for `build` of them. -/
structure Encoding where
  mnemonic : String
  mask : Word
  value : Word
  build : Word → Instruction

namespace Encoding

/-- The word is of this row. -/
def fits (e : Encoding) (w : Word) : Bool := w &&& e.mask == e.value

/-- A row for an operation on two registers. -/
def ofAlu (mnemonic : String) (value : Word) (op : AluOp) : Encoding :=
  ⟨mnemonic, 0xF00F, value, fun w => .alu op (wordX w) (wordY w)⟩

/-- A row for an instruction that has a register and no other operand. -/
def ofRegister (mnemonic : String) (value : Word) (build : Nibble → Instruction) : Encoding :=
  ⟨mnemonic, 0xF0FF, value, fun w => build (wordX w)⟩

/-- The instruction set. No word fits two rows. -/
def table : List Encoding := [
  ⟨"CLS", 0xFFFF, 0x00E0, fun _ => .clearScreen⟩,
  ⟨"RET", 0xFFFF, 0x00EE, fun _ => .ret⟩,
  ⟨"JP", 0xF000, 0x1000, fun w => .jump (wordAddress w)⟩,
  ⟨"CALL", 0xF000, 0x2000, fun w => .call (wordAddress w)⟩,
  ⟨"SE_IMM", 0xF000, 0x3000, fun w => .skipIf (.eqByte (wordX w) (wordByte w))⟩,
  ⟨"SNE_IMM", 0xF000, 0x4000, fun w => .skipIf (.neByte (wordX w) (wordByte w))⟩,
  ⟨"SE_REG", 0xF00F, 0x5000, fun w => .skipIf (.eqReg (wordX w) (wordY w))⟩,
  ⟨"LD_IMM", 0xF000, 0x6000, fun w => .loadByte (wordX w) (wordByte w)⟩,
  ⟨"ADD_IMM", 0xF000, 0x7000, fun w => .addByte (wordX w) (wordByte w)⟩,
  ofAlu "LD_REG" 0x8000 .copy,
  ofAlu "OR" 0x8001 .or,
  ofAlu "AND" 0x8002 .and,
  ofAlu "XOR" 0x8003 .xor,
  ofAlu "ADD_REG" 0x8004 .add,
  ofAlu "SUB" 0x8005 .sub,
  ofAlu "SHR" 0x8006 .shiftRight,
  ofAlu "SUBN" 0x8007 .subFrom,
  ofAlu "SHL" 0x800E .shiftLeft,
  ⟨"SNE_REG", 0xF00F, 0x9000, fun w => .skipIf (.neReg (wordX w) (wordY w))⟩,
  ⟨"LD_I", 0xF000, 0xA000, fun w => .loadIndex (wordAddress w)⟩,
  ⟨"JP_OFFSET", 0xF000, 0xB000, fun w => .jumpOffset (wordX w) (wordAddress w)⟩,
  ⟨"RND", 0xF000, 0xC000, fun w => .random (wordX w) (wordByte w)⟩,
  ⟨"DRW", 0xF000, 0xD000, fun w => .draw (wordX w) (wordY w) (wordN w)⟩,
  ofRegister "SKP" 0xE09E fun x => .skipIf (.keyDown x),
  ofRegister "SKNP" 0xE0A1 fun x => .skipIf (.keyUp x),
  ofRegister "LD_VX_DT" 0xF007 .readDelay,
  ofRegister "LD_VX_K" 0xF00A .waitKey,
  ofRegister "LD_DT_VX" 0xF015 .setDelay,
  ofRegister "LD_ST_VX" 0xF018 .setSound,
  ofRegister "ADD_I" 0xF01E .addIndex,
  ofRegister "LD_F" 0xF029 .glyph,
  ofRegister "LD_B" 0xF033 .decimal,
  ofRegister "STORE" 0xF055 .store,
  ofRegister "LOAD" 0xF065 .load]

end Encoding

/-- The instruction that a word stands for, if any. -/
def decode? (w : Word) : Option Instruction :=
  (Encoding.table.find? (·.fits w)).map fun e => e.build w

/-- The number of the row that a word fits; a word that fits none gets the number of rows. -/
def opcodeIndex (w : Word) : Nat := Encoding.table.findIdx (·.fits w)

/-- The names of the rows in order, and last the name for a word that fits none. -/
def mnemonics : List String := Encoding.table.map (·.mnemonic) ++ ["INVALID"]

/-- The name of a word's row. -/
def mnemonic (w : Word) : String := mnemonics.getD (opcodeIndex w) ""

theorem decode?_eq_none_iff {w : Word} :
    decode? w = none ↔ ∀ e ∈ Encoding.table, e.fits w = false := by
  simp [decode?]

end Chip8
