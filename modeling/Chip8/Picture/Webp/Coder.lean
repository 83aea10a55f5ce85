import Chip8.Picture.Webp.Chroma

/-!
# What is kept of tiles

Tiles are kept one after the other, row by row. What is kept of a tile depends on what has been kept
of its neighbours, on the setting of its segment and on the model at that time. The model is renewed
whenever there were so many tiles.
-/

namespace Chip8.Webp

/-- What of a tile can be seen by the next one beside or below it. -/
structure Border where
  luma : List Rim
  means : Bool
  blue : ChromaRim
  red : ChromaRim

namespace Border

/-- A border outside of the image, of samples of a value. -/
def outside (v : Int) : Border :=
  let chroma : ChromaRim := ⟨List.replicate chromaSide (.replicate v),
    List.replicate chromaSide false, List.replicate chromaSide 0⟩
  ⟨List.replicate lumaSide ⟨.replicate v, .plain .mean, false⟩, false, chroma, chroma⟩

/-- The samples of brightness. -/
def samples (b : Border) : List (Quad Int) := b.luma.map (·.samples)

end Border

/-! ## Brightness -/

/-- The best guess for the brightness of a tile as a whole, and a better one block by block. -/
structure LumaGuess where
  square : SquareGuess
  fine? : Option (List (List FineGuess))

namespace LumaGuess

/-- The best guess between two borders, of which the upper one goes on with a rim. -/
def best (s : Setting) (m : Model) (frame : Frame) (above left : Border) (aboveRight : Rim)
    (square : Grid) : LumaGuess :=
  let patches := square.map (·.map Patch.ofBlock)
  let make := SquareGuess.make s m frame (above.means.toNat + left.means.toNat) above.luma left.luma
    patches
  let samples := square.flatMap (·.flatMap Block.toList)
  let whole := SquareGuess.best s make (samples.all (· == samples.headD 0))
  let budget := whole.cost.total s.choiceWeight - fineCost * s.choiceWeight
  ⟨whole, FineGuess.bestRows s m aboveRight budget frame.corner left.luma above.luma patches⟩

/-- The blocks that come out. -/
def blocks (g : LumaGuess) : Grid :=
  match g.fine? with
  | some fine => fine.map (·.map (·.block))
  | none => g.square.square

/-- The levels that are kept. -/
def levels (g : LumaGuess) : Grid :=
  match g.fine? with
  | some fine => fine.map (·.map (·.levels))
  | none => g.square.levels

/-- The rims of the blocks. -/
def rims (g : LumaGuess) (samples : Block → Quad Int) : List (List Rim) :=
  match g.fine? with
  | some fine => fine.map (·.map fun f => ⟨samples f.block, f.direction, f.levels.hasAny⟩)
  | none => Grid.zipWith (fun b l => ⟨samples b, .plain g.square.direction, l.hasAny⟩)
    g.square.square g.square.levels

/-- The means have levels, given whether those of the last tile that has means have any. -/
def hasMeans (g : LumaGuess) (last : Bool) : Bool :=
  if g.fine?.isSome then last else g.square.means.hasAny

/-- There is something to see inside of the square. -/
def hasDetail (g : LumaGuess) : Bool :=
  g.fine?.isSome || g.square.firsts.hasAny || g.square.hasLevels

/-- How strong the edges of a square are that comes from its means alone and has a great error. -/
def edge (s : Setting) (g : LumaGuess) : Nat :=
  let means := g.square.means
  if means.hasAny ∧ ¬g.square.hasLevels ∧ s.edgeError < g.square.cost.samples then
    max means.a.b.natAbs (max means.b.a.natAbs means.b.b.natAbs)
  else 0

/-- The decisions by which the levels are found. -/
def decisions (g : LumaGuess) (above left : Border) : List (Nat × Bool) :=
  let contexts := contexts (above.luma.map (·.coded)) (left.luma.map (·.coded))
    (g.levels.map (·.map Block.hasAny))
  let blocks (f : Nat → Block → List (Nat × Bool)) : List (Nat × Bool) :=
    (Grid.zipWith f contexts g.levels).flatMap (·.flatten)
  if g.fine?.isSome then blocks fun c l => Webp.decisions .whole c l.amounts
  else
    Webp.decisions .means (above.means.toNat + left.means.toNat) g.square.means.amounts ++
      blocks fun c l => Webp.decisions .rest c l.restAmounts

end LumaGuess

/-! ## Tiles -/

/-- What is kept of a tile: the tile that comes out, and what others can see of it. -/
structure KeptTile where
  tile : Tile
  bottom : Border
  right : Border
  segment : Nat
  hasDetail : Bool
  /-- The strength of edges inside of the tile. -/
  edge : Nat

/-- What is kept of a tile between its neighbours, and the decisions by which it is found. -/
def KeptTile.make (s : Setting) (m : Model) (n : Neighbours KeptTile) (segment : Nat) (t : Tile) :
    KeptTile × List (Nat × Bool) :=
  let above := (n.above?.map (·.bottom)).getD (.outside outsideAbove)
  let left := (n.left?.map (·.right)).getD (.outside outsideLeft)
  let frame (samples : Border → List (Quad Int)) : Frame :=
    n.frame (fun t => samples t.bottom) (fun t => samples t.right)
  let aboveRight : Rim :=
    match n.aboveRight?.bind (·.bottom.luma.head?) with
    | some rim => rim
    | none =>
      let last := (above.samples.getLast?.map (·.d)).getD outsideAbove
      ⟨.replicate last, .plain .mean, false⟩
  let luma := LumaGuess.best s m (frame Border.samples) above left aboveRight t.luma
  let chroma := ChromaGuess.best s
    (ChannelGuess.make s m (frame (·.blue.samples)) above.blue left.blue t.blue)
    (ChannelGuess.make s m (frame (·.red.samples)) above.red left.red t.red)
  let kept : KeptTile := {
    tile := ⟨luma.blocks, chroma.blue.square, chroma.red.square⟩
    bottom := ⟨(luma.rims (·.d)).getLastD [], luma.hasMeans above.means, chroma.blue.bottom,
      chroma.red.bottom⟩
    right := ⟨(luma.rims (·.map (·.d))).filterMap (·.getLast?), luma.hasMeans left.means,
      chroma.blue.right, chroma.red.right⟩
    segment
    hasDetail := luma.hasDetail || chroma.hasLevels
    edge := luma.edge s }
  (kept, luma.decisions above left ++ chroma.blue.decisions above.blue left.blue ++
    chroma.red.decisions above.red left.red)

/-! ## Images -/

/-- The model at some time, the counts of decisions, and the number of tiles so far. -/
structure Progress where
  model : Model
  tallies : Array Tally
  tiles : Nat

namespace Progress

/-- No tile has been kept. -/
def start : Progress where
  model := .ofProbabilities startingProbabilities
  tallies := Array.replicate startingProbabilities.size ⟨0, 0⟩
  tiles := 0

/-- The model is renewed before a tile if there were so many since the last time. -/
def renew (interval : Nat) (p : Progress) : Progress :=
  if (p.tiles + 1) % (interval + 1) = 0 then { p with model := p.model.renew p.tallies } else p

/-- One more tile with some decisions. -/
def add (decisions : List (Nat × Bool)) : Progress → Progress
  | ⟨model, tallies, tiles⟩ => ⟨model, count tallies decisions, tiles + 1⟩

end Progress

/-- What is kept of a row of tiles in their segments, given the row above. -/
def keepRow (settings : List Setting) (interval : Nat) :
    Progress → Option KeptTile → Option KeptTile → List KeptTile → List (Tile × Nat) →
      Progress × List KeptTile
  | progress, _, _, _, [] => (progress, [])
  | progress, aboveLeft?, left?, above, (tile, segment) :: tiles =>
    match settings[segment]? with
    | none => (progress, [])
    | some setting =>
      let progress := progress.renew interval
      let neighbours := ⟨above.head?, left?, aboveLeft?, above.tail.head?⟩
      let (kept, decisions) := KeptTile.make setting progress.model neighbours segment tile
      let (progress, rest) := keepRow settings interval (progress.add decisions) above.head?
        (some kept) above.tail tiles
      (progress, kept :: rest)

/-- What is kept of rows of tiles in their segments, given the row above them. -/
def keepRows (settings : List Setting) (interval : Nat) :
    Progress → List KeptTile → List (List (Tile × Nat)) → List (List KeptTile)
  | _, _, [] => []
  | progress, above, row :: rows =>
    let (progress, kept) := keepRow settings interval progress none none above row
    kept :: keepRows settings interval progress kept rows

/-- The number of tiles after which a model is renewed in an image of so many tiles. -/
def renewalInterval (tiles : Nat) : Nat := max 96 (tiles / 8)

/-- What is kept of some tiles by a plan. -/
def Plan.keep (plan : Plan) (tiles : List (List Tile)) : List (List KeptTile) :=
  keepRows plan.settings (renewalInterval tiles.flatten.length) .start []
    (tiles.zipWith List.zip plan.segments)

end Chip8.Webp
