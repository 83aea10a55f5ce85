import Chip8.Word

/-!
# Check sums

The two sums by which a reader of an image file finds out that a byte is wrong: the remainder of the
bytes by a polynomial over bits, and a pair of sums modulo a prime.
-/

namespace Chip8.Checksum

/-! ## The polynomial remainder -/

/-- The polynomial, without its highest bit and with its lowest bit on the left. -/
def polynomial : BitVec 32 := 0xEDB88320

/-- Divide by one more bit. -/
def divideBit (r : BitVec 32) : BitVec 32 :=
  if r.getLsbD 0 then (r >>> 1) ^^^ polynomial else r >>> 1

/-- Divide by one more byte. -/
def divideByte (r : BitVec 32) (b : Byte) : BitVec 32 :=
  Nat.repeat divideBit 8 (r ^^^ b.setWidth 32)

/-- The remainder of the bytes; it starts with all bits set and ends with all bits turned. -/
def remainder (bytes : List Byte) : BitVec 32 := ~~~ bytes.foldl divideByte (BitVec.allOnes 32)

/-! ## The pair of sums -/

/-- The prime. -/
def modulus : Nat := 65521

/-- One more than the sum of the bytes, and the sum of all such sums of their beginnings. -/
def sums (bytes : List Byte) : Nat × Nat :=
  bytes.foldl (fun (a, b) byte =>
    let a := (a + byte.toNat) % modulus
    (a, (b + a) % modulus)) (1, 0)

/-- The two sums in one number. -/
def sumPair (bytes : List Byte) : Nat :=
  let (a, b) := sums bytes
  65536 * b + a

/-! ## The sums of the digits from one to nine -/

example : remainder [0x31, 0x32, 0x33, 0x34, 0x35, 0x36, 0x37, 0x38, 0x39] = 0xCBF43926 := by
  decide +kernel

example : sumPair [0x31, 0x32, 0x33, 0x34, 0x35, 0x36, 0x37, 0x38, 0x39] = 0x091E01DE := by
  decide +kernel

end Chip8.Checksum
