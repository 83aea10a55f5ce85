import Chip8.Random.Threefry
import Chip8.Word

/-!
# Sources of random bytes

The random instruction draws from a source. A *keyed* source derives each byte from a two-word key
and replaces the key, so a run is a function of its seed. A *replay* source hands out a fixed list
of bytes over and over, and uses the first key word as its cursor. A *custom* source is any other
function of the key that a host brings along.
-/

namespace Chip8

/-- Where random bytes come from. -/
inductive RandomSource
  | keyed
  | replay (bytes : List Byte) (nonempty : bytes ≠ [])
  | custom (draw : WordPair → Byte × WordPair)

/-- The key for a seed: zero and the seed's low 32 bits. -/
def WordPair.ofSeed (seed : Int) : WordPair := ⟨0, BitVec.ofInt 32 seed⟩

/-- The key for a seed from the host, which has to fit a signed 64-bit number. -/
def WordPair.ofSeed? (seed : Int) : Option WordPair :=
  if -0x8000000000000000 ≤ seed ∧ seed < 0x8000000000000000 then some (ofSeed seed) else none

/-- The key of two numbers from the host, each of which has to fit 32 bits as it stands. -/
def WordPair.ofInts? (fst snd : Int) : Option WordPair :=
  if 0 ≤ fst ∧ fst < 0x100000000 ∧ 0 ≤ snd ∧ snd < 0x100000000 then
    some ⟨BitVec.ofInt 32 fst, BitVec.ofInt 32 snd⟩
  else none

namespace RandomSource

/-- The keys that a keyed source derives from its key: the next key, and the one for this byte. -/
def split (key : WordPair) : WordPair × WordPair :=
  (Threefry.block key ⟨0, 0⟩, Threefry.block key ⟨0, 1⟩)

/-- The byte that a one-time key stands for: the two words of its second block, mixed. -/
def keyByte (key : WordPair) : Byte :=
  let bits := Threefry.block (Threefry.block key ⟨0, 1⟩) ⟨0, 0⟩
  (bits.fst ^^^ bits.snd).setWidth 8

/-- The byte that a list replays at a cursor. -/
def replayByte (bytes : List Byte) (cursor : BitVec 32) : Byte :=
  bytes.getD (cursor.toNat % bytes.length) 0

/-- Draw a byte: the byte and the key for the next draw. -/
def next (source : RandomSource) (key : WordPair) : Byte × WordPair :=
  match source with
  | keyed => let (key', once) := split key; (keyByte once, key')
  | replay bytes _ => (replayByte bytes key.fst, ⟨key.fst + 1, key.snd⟩)
  | custom draw => draw key

/-- Draw `n` bytes: the bytes in order and the key for the next draw. -/
def take (source : RandomSource) (n : Nat) (key : WordPair) : List Byte × WordPair :=
  match n with
  | 0 => ([], key)
  | n + 1 =>
    let (b, key') := source.next key
    let (bs, key'') := source.take n key'
    (b :: bs, key'')

theorem getElem?_replayByte {bytes : List Byte} (h : bytes ≠ []) (cursor : BitVec 32) :
    bytes[cursor.toNat % bytes.length]? = some (replayByte bytes cursor) := by
  have hlt : cursor.toNat % bytes.length < bytes.length := Nat.mod_lt _ (List.length_pos_iff.2 h)
  rw [replayByte, List.getD_eq_getElem?_getD, List.getElem?_eq_getElem hlt, Option.getD_some]

end RandomSource

end Chip8
