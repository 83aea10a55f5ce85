import Chip8.Picture.Webp.Plane
import Chip8.Picture.Webp.Prediction

/-!
# Tiles

An image is kept in tiles of sixteen by sixteen pixels, with four by four blocks of brightness and
two by two of each difference of colour. Tiles come row by row, and what is around a tile is taken
from its neighbours.
-/

namespace Chip8.Webp

/-- The blocks of sixteen by sixteen pixels. -/
structure Tile where
  luma : Grid
  blue : Grid
  red : Grid

/-- The blocks of brightness on a side of a tile. -/
def lumaSide : Nat := 4

/-- The blocks of a difference of colour on a side of a tile. -/
def chromaSide : Nat := 2

/-- The pixels on a side of a tile. -/
def tileSide : Nat := 16

/-- The tiles of some planes, row by row; samples at the edges are repeated to fill them. -/
def Planes.tiles (p : Planes) : List (List Tile) :=
  let number (extent : Nat) := (extent + tileSide - 1) / tileSide
  (List.range (number p.luma.height)).map fun y => (List.range (number p.luma.width)).map fun x =>
    ⟨p.luma.square lumaSide x y, p.blue.square chromaSide x y, p.red.square chromaSide x y⟩

/-- The planes of some tiles. -/
def Planes.ofTiles (tiles : List (List Tile)) : Planes where
  luma := .ofSquares lumaSide (tiles.map (·.map (·.luma)))
  blue := .ofSquares chromaSide (tiles.map (·.map (·.blue)))
  red := .ofSquares chromaSide (tiles.map (·.map (·.red)))

/-- The neighbours of a tile, so far as they come before it. -/
structure Neighbours (α : Type) where
  above? : Option α
  left? : Option α
  aboveLeft? : Option α
  aboveRight? : Option α

/-- The frame of a tile in neighbours that have samples at their bottoms and on their right. -/
def Neighbours.frame {α : Type} (n : Neighbours α) (bottom right : α → List (Quad Int)) : Frame :=
  .around (n.above?.map bottom) (n.left?.map right) (n.aboveLeft?.map bottom)

end Chip8.Webp
