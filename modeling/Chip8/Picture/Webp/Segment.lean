import Chip8.Picture.Webp.Quantizer
import Chip8.Picture.Webp.Tile

/-!
# Segments

Tiles that are as easy to guess as each other belong to a segment, and each segment has its own
settings: easy ones are kept with smaller steps. There are up to four segments, whose tiles lie
around a centre each.
-/

namespace Chip8.Webp

/-! ## How easy tiles are to guess -/

/-- The number of sizes of frequencies that are told apart. -/
def sizeCount : Nat := 32

/-- How far frequencies are spread out: their greatest size by how many have the commonest one. -/
def spread (frequencies : List Int) : Nat :=
  let sizes := frequencies.map fun v => min (v.natAbs / 8) (sizeCount - 1)
  let counts := sizes.foldl (fun counts size => counts.modify size (· + 1))
    (Array.replicate sizeCount 0)
  510 * sizes.foldl max 0 / counts.foldl max 0

/-- How far the differences from a guess are spread out in squares and the frames around them. -/
def spreadOfGuess (squares : List (Frame × Grid)) (d : Direction) : Nat :=
  spread <| squares.flatMap fun (frame, square) =>
    (Grid.zipWith Block.frequencies square (frame.predict square.length d)).flatMap fun row =>
      row.flatMap Block.toList

/-- How hard it is to guess squares in the frames around them. -/
def hardness (squares : List (Frame × Grid)) : Nat :=
  max (spreadOfGuess squares .mean) (spreadOfGuess squares .gradient)

/-- How easy it is to guess a tile, and how hard its differences of colour are. -/
structure Measure where
  ease : Nat
  chroma : Nat

namespace Measure

/-- The greatest ease. -/
def maxEase : Nat := 255

/-- The measure of a tile between its neighbours. -/
def ofTile (n : Neighbours Tile) (t : Tile) : Measure :=
  let part (grid : Tile → Grid) : Frame × Grid :=
    (n.frame (fun t => (grid t).bottom) (fun t => (grid t).right), grid t)
  let luma := hardness [part (·.luma)]
  let chroma := hardness [part (·.blue), part (·.red)]
  ⟨maxEase - (3 * luma + chroma + 2) / 4, chroma⟩

/-- The measures of a row of tiles, given the row above. -/
def ofRow (aboveLeft? left? : Option Tile) (above : List Tile) : List Tile → List Measure
  | [] => []
  | t :: ts =>
    ofTile ⟨above.head?, left?, aboveLeft?, above.tail.head?⟩ t ::
      ofRow above.head? (some t) above.tail ts

/-- The measures of rows of tiles, given the row above them. -/
def ofRows (above : List Tile) : List (List Tile) → List (List Measure)
  | [] => []
  | row :: rows => ofRow none none above row :: ofRows row rows

end Measure

/-! ## Centres -/

/-- The greatest number of segments. -/
def maxSegments : Nat := 4

/-- The centres from the one on that is nearest to a number. -/
def fromNearest (v : Int) : List Int → List Int
  | c :: next :: centres =>
    if (v - next).natAbs < (v - c).natAbs then fromNearest v (next :: centres)
    else c :: next :: centres
  | centres => centres

/-- Numbers in order with the numbers of the centres to which they belong. -/
def assign (centres : List Int) : List Nat → List (Nat × Nat)
  | [] => []
  | v :: vs =>
    let centres := fromNearest v centres
    (v, maxSegments - centres.length) :: assign centres vs

/-- Centres, and which numbers belong to them. -/
structure Grouping where
  centres : List Int
  groups : List (Nat × Nat)

namespace Grouping

/-- The numbers that belong to a centre. -/
def members (g : Grouping) (centre : Nat) : List Nat :=
  (g.groups.filter fun (_, c) => c == centre).map (·.1)

/-- How many tiles belong to a centre, and the sum of their numbers. -/
def weight (counts : Array Nat) (g : Grouping) (centre : Nat) : Nat × Nat :=
  let members := g.members centre
  (members.foldl (fun n v => n + counts.getD v 0) 0,
    members.foldl (fun n v => n + v * counts.getD v 0) 0)

/-- A quotient, rounded. -/
def ratio (n d : Nat) : Nat := (n + d / 2) / d

/-- The centres in the middle of what belongs to them. -/
def middles (counts : Array Nat) (g : Grouping) : List Int :=
  g.centres.zipIdx.map fun (centre, i) =>
    let (size, sum) := g.weight counts i
    if size = 0 then centre else ratio sum size

/-- How far a centre may be from the middle in the end. -/
def tolerance : Nat := 5

/-- Centres moved to the middle of the numbers that are nearest to them, so many times at most. -/
def settle (counts : Array Nat) (numbers : List Nat) : Nat → Grouping → Grouping
  | 0, g => g
  | n + 1, g =>
    let groups := assign g.centres numbers
    let moved := middles counts ⟨g.centres, groups⟩
    let distance := (g.centres.zipWith (fun c m => (c - m).natAbs) moved).foldl (· + ·) 0
    if distance < tolerance then ⟨moved, groups⟩ else settle counts numbers n ⟨moved, groups⟩

/-- How many times centres are moved at most. -/
def maxMoves : Nat := 6

/-- The grouping of numbers, each of which is there so many times. -/
def ofCounts (counts : Array Nat) : Grouping :=
  let numbers := (List.range counts.size).filter fun v => counts.getD v 0 != 0
  let (low, high) := (numbers.headD 0, numbers.getLastD 0)
  let centres := (List.range maxSegments).map fun k =>
    (low + (2 * k + 1) * (high - low) / (2 * maxSegments) : Nat)
  settle counts numbers maxMoves ⟨centres.map Int.ofNat, []⟩

/-- The mean of the centres of all tiles. -/
def mean (counts : Array Nat) (g : Grouping) : Int :=
  let weights := g.centres.zipIdx.map fun (centre, i) => (centre, (g.weight counts i).1)
  ratio (weights.foldl (fun n (centre, size) => n + centre.toNat * size) 0)
    (weights.foldl (fun n (_, size) => n + size) 0)

/-- The number of the centre to which a number belongs. -/
def find (g : Grouping) (v : Nat) : Nat := (g.groups.lookup v).getD 0

end Grouping

/-! ## Settings -/

/-- The number of the steps for frequencies, and how much samples are smoothed. -/
structure Degree where
  step : Nat
  smoothing : Nat
deriving DecidableEq, Repr

namespace Degree

/-- The sizes of steps for the first frequency. -/
def firstSizes : Array Nat := #[
  4, 5, 6, 7, 8, 9, 10, 10, 11, 12, 13, 14, 15, 16, 17, 17, 18, 19, 20, 20, 21, 21, 22, 22, 23, 23,
  24, 25, 25, 26, 27, 28]

/-- The size of the step for the first frequency. -/
def firstSize (step : Nat) : Nat := firstSizes.getD step 0

/-- The size of the step for all other frequencies. -/
def restSize (step : Nat) : Nat := step + 4

/-- The greatest smoothing. -/
def maxSmoothing : Nat := 63

/-- The degree for a segment whose centre is above the mean, and above the lowest, by so much. -/
def ofOffsets (aboveMean aboveLowest : Int) : Degree :=
  let exponent := 1.0 - 0.9 * 50.0 / 100.0 / 128.0 * Float.ofInt aboveMean
  let base := (2.0 * (80.0 / 100.0) - 1.0).pow (1.0 / 3.0)
  let step := (127.0 * (1.0 - base.pow exponent)).toUInt64.toNat
  let smoothing := min (restSize step / 4) maxSmoothing * 300 / (256 + aboveLowest.toNat)
  ⟨step, if smoothing < 2 then 0 else min smoothing maxSmoothing⟩

/-- The number between two others that is nearest to a number. -/
def between (low high v : Int) : Int := max low (min high v)

/-- The degrees for the centres of a grouping, in parts of the distance between them. -/
def ofGrouping (counts : Array Nat) (g : Grouping) : List Degree :=
  let low := g.centres.foldl min (g.centres.headD 0)
  let high := max (low + 1) (g.centres.foldl max 0)
  let mean := g.mean counts
  let offset (centre start : Int) : Int := (255 * (centre - start)).tdiv (high - low)
  g.centres.map fun centre =>
    ofOffsets (between (-127) 127 (offset centre mean)) (between 0 255 (offset centre low))

end Degree

/-- How the tiles of a segment are kept. -/
structure Setting where
  luma : Quantizer
  means : Quantizer
  chroma : Quantizer
  smoothing : Nat

namespace Setting

/-- The setting of a degree; the steps of differences of colour are some steps further. -/
def ofDegree (chromaStep : Int) (d : Degree) : Setting :=
  let first := Degree.firstSize d.step
  let rest := Degree.restSize d.step
  { luma := ⟨.ofSize first 96, .ofSize rest 110, Quantizer.sharp rest⟩
    means := ⟨.ofSize (2 * first) 96, .ofSize (max 8 (rest * 155 / 100)) 108, Quantizer.plain⟩
    chroma := ⟨.ofSize (Degree.firstSize (d.step - 2)) 110,
      .ofSize (Degree.restSize (d.step + chromaStep).toNat) 115, Quantizer.plain⟩
    smoothing := d.smoothing }

/-- How much a bit counts beside an error when the direction of a block is chosen. -/
def fineWeight (s : Setting) : Nat := max 1 (3 * s.luma.mean * s.luma.mean / 128)

/-- How much a bit counts beside an error when the direction of a square is chosen. -/
def squareWeight (s : Setting) : Nat := max 1 (3 * s.means.mean * s.means.mean)

/-- How much a bit counts beside an error when the direction for colour is chosen. -/
def chromaWeight (s : Setting) : Nat := max 1 (3 * s.chroma.mean * s.chroma.mean / 64)

/-- How much a bit counts beside an error when a square is or is not guessed as a whole. -/
def choiceWeight (s : Setting) : Nat := max 1 (s.luma.mean * s.luma.mean / 128)

/-- How much a change of texture counts as an error. -/
def textureWeight (s : Setting) : Nat := max 1 (50 * s.luma.mean / 32)

/-- The error above which an edge shows that comes from the means alone. -/
def edgeError (s : Setting) : Nat := 20 * s.luma.first.size

end Setting

/-! ## Plans -/

/-- The settings of segments, and the segments of tiles. -/
structure Plan where
  settings : List Setting
  segments : List (List Nat)

namespace Plan

/-- How many steps further those of differences of colour are, by how hard they are to guess. -/
def chromaStep (hardness : Nat) : Int :=
  Degree.between (-4) 6 (((((hardness : Int) - 64) * 10).tdiv 70 * 50).tdiv 100)

/-- The share of a number in its sum with another, in parts of 255; no sum counts as all. -/
def share (a b : Nat) : Nat := if a + b = 0 then 255 else (255 * a + (a + b) / 2) / (a + b)

/-- Hardly any tile is in another segment than the first. -/
def isUniform (segments : List Nat) : Bool :=
  let size (n : Nat) := segments.count n
  [share (size 0 + size 1) (size 2 + size 3), share (size 0) (size 1), share (size 2) (size 3)]
    == [255, 255, 255]

/-- The plan for some tiles. Segments of the same degree are one. -/
def ofTiles (tiles : List (List Tile)) : Plan :=
  let measures := Measure.ofRows [] tiles
  let all := measures.flatten
  let counts := all.foldl (fun counts m => counts.modify m.ease (· + 1))
    (Array.replicate (Measure.maxEase + 1) 0)
  let grouping := Grouping.ofCounts counts
  let degrees := Degree.ofGrouping counts grouping
  let distinct := degrees.eraseDups
  let numbers := degrees.map fun d => distinct.idxOf d
  let segments := measures.map (·.map fun m => numbers.getD (grouping.find m.ease) 0)
  let step := chromaStep (all.foldl (fun n m => n + m.chroma) 0 / all.length)
  { settings := distinct.map (Setting.ofDegree step)
    segments := if isUniform segments.flatten then segments.map (·.map fun _ => 0) else segments }

end Plan

end Chip8.Webp
