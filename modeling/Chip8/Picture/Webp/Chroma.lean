import Chip8.Picture.Webp.Guess

/-!
# Guesses for differences of colour

Both differences of colour of a square are guessed in the same direction. The first frequencies of
their blocks leave errors behind, which are added to those of the blocks beside and below.
-/

namespace Chip8.Webp

/-- What of a difference of colour can be seen by the next tile beside or below it. -/
structure ChromaRim where
  samples : List (Quad Int)
  coded : List Bool
  errors : List Int

/-- Blocks in a row with what is kept of their first frequencies, and the errors that are left. -/
def diffuseRow (step : Step) : Int → List Int → List Block → List (Block × Int)
  | left, above :: aboves, block :: blocks =>
    let v := block.first + (7 * above + 8 * left) / 8
    let kept := step.keep v
    let error := (v - kept) / 2
    (block.setFirst kept, error) :: diffuseRow step error aboves blocks
  | _, _, _ => []

/-- Rows of blocks with what is kept of their first frequencies, and the errors that are left. -/
def diffuse (step : Step) (above : List Int) : List Int → Grid → List (List (Block × Int))
  | left :: lefts, row :: rows =>
    let kept := diffuseRow step left above row
    kept :: diffuse step (kept.map (·.2)) lefts rows
  | _, _ => []

/-- A guess for one of the differences of colour. -/
structure ChannelGuess where
  levels : Grid
  square : Grid
  errors : List (List Int)
  cost : Cost

namespace ChannelGuess

/-- The guess for a square between two rims in a direction. -/
def make (s : Setting) (m : Model) (frame : Frame) (above left : ChromaRim) (square : Grid)
    (direction : Direction) : ChannelGuess :=
  let prediction := frame.predict chromaSide direction
  let diffused := diffuse s.chroma.first above.errors left.errors
    (Grid.zipWith Block.frequencies square prediction)
  let levels := diffused.map (·.map fun (b, _) => s.chroma.levels b)
  let result := Grid.zipWith (fun p l => p.restore (s.chroma.values l)) prediction levels
  let contexts := contexts above.coded left.coded (levels.map (·.map Block.hasAny))
  let bits := Grid.zipWith (fun c l => m.cost .chroma c (Block.amounts l)) contexts levels
  { levels
    square := result
    errors := diffused.map (·.map (·.2))
    cost := {
      bits := Grid.total id bits
      samples := Grid.total id (Grid.zipWith Block.error square result)
      texture := 0 } }

/-- Which blocks have levels. -/
def coded (g : ChannelGuess) : List (List Bool) := g.levels.map (·.map Block.hasAny)

/-- The decisions by which the levels are found between two rims. -/
def decisions (g : ChannelGuess) (above left : ChromaRim) : List (Nat × Bool) :=
  (Grid.zipWith (fun c l => Webp.decisions .chroma c (Block.amounts l))
    (contexts above.coded left.coded g.coded) g.levels).flatMap (·.flatten)

/-- The errors on the right, of which the last one is shared with the bottom. -/
def rightErrors (g : ChannelGuess) : List Int :=
  let errors := g.errors.map (·.getLastD 0)
  errors.dropLast ++ [3 * errors.getLastD 0 / 4]

/-- The errors at the bottom, of which the last one is shared with the right. -/
def bottomErrors (g : ChannelGuess) : List Int :=
  let errors := g.errors.getLastD []
  errors.dropLast ++ [errors.getLastD 0 - 3 * errors.getLastD 0 / 4]

/-- The lower rim. -/
def bottom (g : ChannelGuess) : ChromaRim := ⟨g.square.bottom, g.coded.getLastD [], g.bottomErrors⟩

/-- The right rim. -/
def right (g : ChannelGuess) : ChromaRim :=
  ⟨g.square.right, g.coded.map (·.getLastD false), g.rightErrors⟩

end ChannelGuess

/-- A guess for both differences of colour. -/
structure ChromaGuess where
  blue : ChannelGuess
  red : ChannelGuess
  cost : Cost

namespace ChromaGuess

/-- The greatest number of levels that counts as hardly any detail. -/
def fewLevels : Nat := 2

/-- The guess of which both parts are guesses in a direction. -/
def make (blue red : Direction → ChannelGuess) (direction : Direction) : ChromaGuess :=
  let blue := blue direction
  let red := red direction
  let count := Grid.total Block.restCount (blue.levels ++ red.levels)
  let detail := if direction ≠ .mean ∧ count ≤ fewLevels then 8 * detailCost else 0
  { blue, red
    cost := {
      bits := detail + direction.chromaCost + blue.cost.bits + red.cost.bits
      samples := blue.cost.samples + red.cost.samples
      texture := 0 } }

/-- The best guess of which both parts are guesses in the same direction. -/
def best (s : Setting) (blue red : Direction → ChannelGuess) : ChromaGuess :=
  cheapest (·.cost.total s.chromaWeight) (make blue red .mean)
    (Direction.others.map (make blue red))

/-- Some block has levels. -/
def hasLevels (g : ChromaGuess) : Bool := (g.blue.coded ++ g.red.coded).any (·.any id)

end ChromaGuess

end Chip8.Webp
