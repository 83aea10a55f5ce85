import Chip8.Picture.Webp.Block

/-!
# The transforms of blocks

A block of differences becomes a block of frequencies and back, in whole numbers, by rows and by
columns. The first frequency of each of sixteen blocks is a mean, and the means are transformed
once more by sums and differences alone.
-/

namespace Chip8.Webp

/-- The nearest value of a sample. -/
def clamp (v : Int) : Int := if v < 0 then 0 else if 255 < v then 255 else v

namespace Block

/-! ## Frequencies -/

/-- The frequencies of a row, with three more bits. -/
def forwardRow (q : Quad Int) : Quad Int :=
  let s := q.a + q.d
  let t := q.b + q.c
  let u := q.b - q.c
  let v := q.a - q.d
  ⟨(s + t) * 8, (u * 2217 + v * 5352 + 1812) / 512, (s - t) * 8,
    (v * 2217 - u * 5352 + 937) / 512⟩

/-- The frequencies of a column, without the bits that rows have more. -/
def forwardColumn (q : Quad Int) : Quad Int :=
  let s := q.a + q.d
  let t := q.b + q.c
  let u := q.b - q.c
  let v := q.a - q.d
  ⟨(s + t + 7) / 16, (u * 2217 + v * 5352 + 12000) / 65536 + (if v = 0 then 0 else 1),
    (s - t + 7) / 16, (v * 2217 - u * 5352 + 51000) / 65536⟩

/-- The frequencies of a block. -/
def forward (b : Block) : Block :=
  let rows : Block := b.map forwardRow
  let columns : Block := rows.transpose.map forwardColumn
  columns.transpose

/-- The frequencies of the differences between a block and another. -/
def frequencies (b prediction : Block) : Block := forward (b.zipWith (· - ·) prediction)

/-- The samples of four frequencies. -/
def backwardLine (q : Quad Int) : Quad Int :=
  let s := q.a + q.c
  let t := q.a - q.c
  let u := q.b * 35468 / 65536 - q.d * 85627 / 65536
  let v := q.b * 85627 / 65536 + q.d * 35468 / 65536
  ⟨s + v, t + u, t - u, s - v⟩

/-- The differences of some frequencies. -/
def backward (b : Block) : Block :=
  let columns : Block := b.transpose.map backwardLine
  columns.transpose.map fun q => (backwardLine ⟨q.a + 4, q.b, q.c, q.d⟩).map (· / 8)

/-- The samples at which some frequencies differ from a block. -/
def restore (prediction frequencies : Block) : Block :=
  prediction.zipWith (fun p v => clamp (p + v)) frequencies.backward

/-! ## Sums and differences -/

/-- Sums and differences of four numbers, by how often their signs change. -/
def sums (q : Quad Int) : Quad Int :=
  let s := q.a + q.c
  let t := q.b + q.d
  let u := q.b - q.d
  let v := q.a - q.c
  ⟨s + t, v + u, v - u, s - t⟩

/-- Sums and differences of a block. -/
def allSums (b : Block) : Block :=
  let rows : Block := b.map sums
  let columns : Block := rows.transpose.map sums
  columns.transpose

/-- The means of blocks, transformed. -/
def forwardMeans (b : Block) : Block := b.allSums.map (·.map (· / 2))

/-- The means of blocks along a line. -/
def backwardMeansLine (q : Quad Int) : Quad Int :=
  let s := q.a + q.d
  let t := q.b + q.c
  let u := q.b - q.c
  let v := q.a - q.d
  ⟨s + t, v + u, s - t, v - u⟩

/-- The means of blocks. -/
def backwardMeans (b : Block) : Block :=
  let columns : Block := b.transpose.map backwardMeansLine
  columns.transpose.map fun q => (backwardMeansLine ⟨q.a + 3, q.b, q.c, q.d⟩).map (· / 8)

/-! ## Texture -/

/-- How much the sums and differences of a block count for its texture. -/
def textureWeights : Quad (Quad Nat) :=
  ⟨⟨38, 32, 20, 9⟩, ⟨32, 28, 17, 7⟩, ⟨20, 17, 10, 4⟩, ⟨9, 7, 4, 2⟩⟩

/-- How rough a block is. -/
def texture (b : Block) : Nat :=
  (textureWeights.zipWith (Quad.zipWith fun w v => w * v.natAbs) b.allSums).total (Quad.total id)

end Block

end Chip8.Webp
