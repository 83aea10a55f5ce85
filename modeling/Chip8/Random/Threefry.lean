/-!
# The Threefry block function

A keyed bijection on pairs of 32-bit words. Twenty rounds each add, rotate and mix the two words;
before the first round and after every fourth, a pair of key words is added, together with the
number of the group. The third key word is the parity of the other two and a constant.
-/

namespace Chip8

/-- Two 32-bit words: a key, a counter or a block of output. -/
structure WordPair where
  fst : BitVec 32
  snd : BitVec 32
deriving DecidableEq

namespace Threefry

/-- The constant in the parity word of a key. -/
def parity : BitVec 32 := 0x1BD11BDA

/-- The rotations of the four rounds of a group; groups alternate between the two lists. -/
def rotations (group : Nat) : List Nat :=
  if group % 2 = 0 then [13, 15, 26, 6] else [17, 29, 16, 24]

/-- One round: add the second word to the first, rotate the second and mix the first into it. -/
def mix (block : WordPair) (rotation : Nat) : WordPair :=
  let sum := block.fst + block.snd
  ⟨sum, block.snd.rotateLeft rotation ^^^ sum⟩

/-- The key word with a number, counted cyclically through the two words and their parity. -/
def keyWord (key : WordPair) (i : Nat) : BitVec 32 :=
  match i % 3 with
  | 0 => key.fst
  | 1 => key.snd
  | _ => key.fst ^^^ key.snd ^^^ parity

/-- Four rounds, then the key words and number of the next group. -/
def group (key : WordPair) (block : WordPair) (i : Nat) : WordPair :=
  let mixed := (rotations i).foldl mix block
  ⟨mixed.fst + keyWord key (i + 1), mixed.snd + keyWord key (i + 2) + BitVec.ofNat 32 (i + 1)⟩

/-- The output block of a key for a counter. -/
def block (key counter : WordPair) : WordPair :=
  [0, 1, 2, 3, 4].foldl (group key) ⟨counter.fst + keyWord key 0, counter.snd + keyWord key 1⟩

end Threefry

end Chip8
