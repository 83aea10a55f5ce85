/-!
# Bytes, words and addresses

The machine has four widths of number: nibbles name registers and keys, bytes fill memory and
registers, twelve-bit addresses stand inside jump and call words, and sixteen-bit words are what
the program counter and the index register hold.

An instruction word is cut in fixed places. `wordX`, `wordY` and `wordN` are its second, third and
fourth nibbles, `wordByte` its low byte and `wordAddress` its low twelve bits.
-/

namespace Chip8

abbrev Nibble := BitVec 4

abbrev Byte := BitVec 8

abbrev Address := BitVec 12

abbrev Word := BitVec 16

/-! ## The operands of a word -/

/-- The second nibble, which names the first register of an instruction. -/
def wordX (w : Word) : Nibble := w.extractLsb' 8 4

/-- The third nibble, which names the second register of an instruction. -/
def wordY (w : Word) : Nibble := w.extractLsb' 4 4

/-- The fourth nibble, the height of a sprite. -/
def wordN (w : Word) : Nibble := w.extractLsb' 0 4

/-- The low byte, an immediate operand. -/
def wordByte (w : Word) : Byte := w.extractLsb' 0 8

/-- The low twelve bits, the target of a jump or call. -/
def wordAddress (w : Word) : Address := w.extractLsb' 0 12

/-! ## Numbers from outside

A host hands over unbounded integers. Each entry point accepts the range of one machine width and
refuses the rest. -/

/-- A word from the host: any signed 32-bit number, of which the low sixteen bits count. -/
def wordOfInt? (v : Int) : Option Word :=
  if -0x80000000 ≤ v ∧ v < 0x80000000 then some (BitVec.ofInt 16 v) else none

/-- A program counter from the host: a number that fits sixteen bits as it stands. -/
def counterOfInt? (v : Int) : Option Word :=
  if 0 ≤ v ∧ v < 0x10000 then some (BitVec.ofInt 16 v) else none

/-- A byte from the host: a number that fits eight bits as it stands. -/
def byteOfInt? (v : Int) : Option Byte :=
  if 0 ≤ v ∧ v < 0x100 then some (BitVec.ofInt 8 v) else none

end Chip8
