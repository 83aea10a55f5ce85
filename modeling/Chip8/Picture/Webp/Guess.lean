import Chip8.Picture.Webp.Model
import Chip8.Picture.Webp.Segment

/-!
# Guesses

Each square is guessed in several ways. What comes out of a guess differs from the square, and the
levels of the differences cost something; the guess with the least sum of both is taken. A square
of brightness is guessed as a whole or block by block, and both colour differences together.
-/

namespace Chip8.Webp

/-- What a guess costs in bits, and the errors of its samples and of its texture. -/
structure Cost where
  bits : Nat
  samples : Nat
  texture : Nat

/-- The cost of a guess if a bit counts so much beside an error. -/
def Cost.total (c : Cost) (weight : Nat) : Nat := c.bits * weight + 256 * (c.samples + c.texture)

/-- The first of some that have the least cost. -/
def cheapest {α : Type} (cost : α → Nat) (first : α) (rest : List α) : α :=
  (rest.foldl (fun (best, least) a =>
    let c := cost a
    if c < least then (a, c) else (best, least)) (first, cost first)).1

/-- The error of a change of texture. -/
def Setting.textureError (s : Setting) (change : Nat) : Nat :=
  (s.textureWeight * change + 128) / 256

/-- The change from one texture to another. -/
def textureChange (a b : Nat) : Nat := ((a : Int) - b).natAbs / 32

/-- The cost of detail in a direction that usually has more of it. -/
def detailCost : Nat := 140

/-- How many blocks next to each block have levels, by those above and on the left of a square. -/
def contexts (above : List Bool) : List Bool → List (List Bool) → List (List Nat)
  | l :: left, row :: rows =>
    above.zipWith (fun a l => a.toNat + l.toNat) (l :: row) :: contexts row left rows
  | _, _ => []

/-- What of a block can be seen by the next one beside or below it. -/
structure Rim where
  samples : Quad Int
  direction : FineDirection
  coded : Bool

/-! ## Brightness block by block -/

/-- A block of brightness and how rough it is. -/
structure Patch where
  block : Block
  texture : Nat

/-- A block of brightness. -/
def Patch.ofBlock (b : Block) : Patch := ⟨b, b.texture⟩

/-- A guess for a block: its direction and levels, and the block that comes out. -/
structure FineGuess where
  direction : FineDirection
  levels : Block
  block : Block
  cost : Cost

namespace FineGuess

/-- The lower rim of the block. -/
def bottom (g : FineGuess) : Rim := ⟨g.block.d, g.direction, g.levels.hasAny⟩

/-- The right rim of the block. -/
def right (g : FineGuess) : Rim := ⟨g.block.map (·.d), g.direction, g.levels.hasAny⟩

/-- The greatest number of levels that counts as hardly any detail. -/
def fewLevels : Nat := 3

/-- The guess for a block between two rims in a direction. -/
def make (s : Setting) (m : Model) (e : Edge) (above left : Rim) (p : Patch)
    (direction : FineDirection) : FineGuess :=
  let prediction := e.predict direction
  let levels := s.luma.levels (p.block.frequencies prediction)
  let block := prediction.restore (s.luma.values levels)
  let detail :=
    if direction ≠ .plain .mean ∧ levels.restCount ≤ fewLevels then detailCost else 0
  { direction, levels, block
    cost := {
      bits := detail + direction.cost above.direction left.direction +
        m.cost .whole (above.coded.toNat + left.coded.toNat) levels.amounts
      samples := p.block.error block
      texture := s.textureError (textureChange p.texture block.texture) } }

/-- The best guess for a block between two rims. -/
def best (s : Setting) (m : Model) (corner : Int) (above left : Rim) (aboveRight : Quad Int)
    (p : Patch) : FineGuess :=
  let make := make s m ⟨corner, left.samples, above.samples, aboveRight⟩ above left p
  cheapest (·.cost.total s.fineWeight) (make (.plain .mean)) (FineDirection.others.map make)

/--
The best guesses for a row of blocks and what is left of an amount to spend, unless they cost as
much or more. The row above has one more block on the right.
-/
def bestRow (s : Setting) (m : Model) :
    Nat → Int → Rim → List Rim → List Patch → Option (List FineGuess × Nat)
  | budget, corner, left, above :: next :: rest, patch :: patches => do
    let guess := best s m corner above left next.samples patch
    let cost := guess.cost.total s.choiceWeight
    guard (cost < budget)
    let (guesses, budget) ←
      bestRow s m (budget - cost) above.samples.d guess.right (next :: rest) patches
    return (guess :: guesses, budget)
  | budget, _, _, _, _ => some ([], budget)

/-- The best guesses for rows of blocks, with one more block on the right of all rows above. -/
def bestRows (s : Setting) (m : Model) (aboveRight : Rim) :
    Nat → Int → List Rim → List Rim → List (List Patch) → Option (List (List FineGuess))
  | budget, corner, left :: lefts, above, row :: rows => do
    let (guesses, budget) ← bestRow s m budget corner left (above ++ [aboveRight]) row
    return guesses ::
      (← bestRows s m aboveRight budget left.samples.d lefts (guesses.map bottom) rows)
  | _, _, _, _, _ => some []

end FineGuess

/-! ## Brightness as a whole -/

/-- A guess for a square of brightness: the levels of its means, and those of its blocks. -/
structure SquareGuess where
  direction : Direction
  means : Block
  /-- The first frequencies of the blocks that come out of the means. -/
  firsts : Block
  levels : Grid
  square : Grid
  cost : Cost

namespace SquareGuess

/-- Some block has levels. -/
def hasLevels (g : SquareGuess) : Bool := g.levels.any (·.any (·.hasAny))

/-- A guess whose errors count twice if neither the square nor the guess has detail. -/
def adjust (g : SquareGuess) (isFlat : Bool) : SquareGuess :=
  if isFlat && !g.hasLevels then
    { g with cost := { g.cost with samples := 2 * g.cost.samples, texture := 2 * g.cost.texture } }
  else g

/-- The guess for a square in a direction. -/
def make (s : Setting) (m : Model) (frame : Frame) (meansContext : Nat) (above left : List Rim)
    (patches : List (List Patch)) (direction : Direction) : SquareGuess :=
  let prediction := frame.predict lumaSide direction
  let frequencies := Grid.zipWith (fun p b => Block.frequencies p.block b) patches prediction
  let means := s.means.levels
    (Block.forwardMeans (.ofRows (frequencies.map (·.map Block.first))))
  let firsts := Block.backwardMeans (s.means.values means)
  let levels := frequencies.map (·.map fun b => s.luma.levels (b.setFirst 0))
  let values := Grid.zipWith (fun l v => Block.setFirst (s.luma.values l) v) levels firsts.rows
  let square := Grid.zipWith Block.restore prediction values
  let contexts := contexts (above.map (·.coded)) (left.map (·.coded))
    (levels.map (·.map Block.hasAny))
  let bits := Grid.zipWith (fun c l => m.cost .rest c (Block.restAmounts l)) contexts levels
  let changes := Grid.zipWith (fun p b => textureChange p.texture (Block.texture b)) patches square
  { direction, means, firsts, levels, square
    cost := {
      bits := direction.cost + m.cost .means meansContext means.amounts + Grid.total id bits
      samples := Grid.total id (Grid.zipWith (fun p b => Block.error p.block b) patches square)
      texture := s.textureError (Grid.total id changes) } }

/-- Guesses in some directions; as soon as one has detail, so does the square. -/
def inDirections (make : Direction → SquareGuess) (isFlat : Bool) :
    List Direction → List SquareGuess
  | [] => []
  | d :: ds =>
    let guess := make d
    guess.adjust isFlat :: inDirections make (isFlat && !guess.hasLevels) ds

/-- The best guess for a square, which may have no detail. -/
def best (s : Setting) (make : Direction → SquareGuess) (isFlat : Bool) : SquareGuess :=
  let mean := make .mean
  cheapest (·.cost.total s.squareWeight) (mean.adjust isFlat)
    (inDirections make (isFlat && !mean.hasLevels) Direction.others)

end SquareGuess

end Chip8.Webp
