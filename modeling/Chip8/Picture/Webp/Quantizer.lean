import Chip8.Picture.Webp.Block

/-!
# Levels of frequencies

Frequencies are kept as multiples of a step, and the multiples are called levels. The first
frequency of a block has a step of its own. `zigzag` is the order in which levels are kept.
-/

namespace Chip8.Webp

/-- The distance between two values that are kept, and how a value between them is rounded. -/
structure Step where
  size : Nat
  reciprocal : Nat
  bias : Nat
deriving DecidableEq, Repr

namespace Step

/-- The step of a size; the bias is in parts of two hundred and fifty-six. -/
def ofSize (size bias : Nat) : Step := ⟨size, 131072 / size, bias * 512⟩

/-- The level of a value of which the amount is made greater. -/
def level (s : Step) (v : Int) (more : Nat) : Int :=
  let n := ((v.natAbs + more) * s.reciprocal + s.bias) / 131072
  if v < 0 then -n else n

/-- The value that is kept of a value. -/
def keep (s : Step) (v : Int) : Int := s.level v 0 * s.size

end Step

/-- How the frequencies of blocks are kept. -/
structure Quantizer where
  first : Step
  rest : Step
  /-- By how much each frequency is made greater. -/
  sharpness : Quad (Quad Nat)
deriving DecidableEq, Repr

namespace Quantizer

/-- No frequency is made greater. -/
def plain : Quad (Quad Nat) := .replicate (.replicate 0)

/-- High frequencies are made greater, in parts of a step. -/
def sharp (size : Nat) : Quad (Quad Nat) :=
  Quad.map (Quad.map fun weight => weight * size / 2048)
    ⟨⟨0, 30, 60, 90⟩, ⟨30, 60, 90, 90⟩, ⟨60, 90, 90, 90⟩, ⟨90, 90, 90, 90⟩⟩

/-- The levels of a block of frequencies. -/
def levels (q : Quantizer) (b : Block) : Block :=
  Block.setFirst (Quad.zipWith (Quad.zipWith q.rest.level) b q.sharpness)
    (q.first.level b.first q.sharpness.a.a)

/-- The frequencies that levels stand for. -/
def values (q : Quantizer) (levels : Block) : Block :=
  Block.setFirst (levels.map (·.map (· * q.rest.size))) (levels.first * q.first.size)

/-- The mean of the steps of all frequencies. -/
def mean (q : Quantizer) : Nat := (q.first.size + 15 * q.rest.size + 8) / 16

end Quantizer

/-! ## The order of levels -/

namespace Block

/-- The numbers from low to high frequencies. -/
def zigzag (b : Block) : List Int :=
  [b.a.a, b.a.b, b.b.a, b.c.a, b.b.b, b.a.c, b.a.d, b.b.c, b.c.b, b.d.a, b.d.b, b.c.c, b.b.d,
    b.c.d, b.d.c, b.d.d]

end Block

/-- The list without zeros at its end. -/
def trim : List Nat → List Nat
  | [] => []
  | n :: ns =>
    match trim ns with
    | [] => if n = 0 then [] else [n]
    | ns => n :: ns

/-- The amounts of the levels of a block up to the last that is not zero. -/
def Block.amounts (b : Block) : List Nat := trim (b.zigzag.map Int.natAbs)

/-- The amounts of the levels but the first. -/
def Block.restAmounts (b : Block) : List Nat := trim (b.zigzag.tail.map Int.natAbs)

end Chip8.Webp
