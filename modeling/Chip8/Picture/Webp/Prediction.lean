import Chip8.Picture.Webp.Transform

/-!
# Predictions

Samples are guessed from those above and on the left, which are already known, and only the
differences are kept. A square is guessed in one of four directions, and a single block in one of
ten. At the edges of the image, samples outside have values of their own.
-/

namespace Chip8.Webp

/-- How a square is guessed from the samples around it. -/
inductive Direction
  /-- All samples are the mean of those around the square. -/
  | mean
  /-- The slope from above and the slope from the left are added. -/
  | gradient
  /-- Samples go on from above. -/
  | vertical
  /-- Samples go on from the left. -/
  | horizontal
deriving DecidableEq, Repr

/-- How a block is guessed from the samples around it. -/
inductive FineDirection
  | plain (d : Direction)
  | downRight
  | verticalRight
  | downLeft
  | verticalLeft
  | horizontalDown
  | horizontalUp
deriving DecidableEq, Repr

namespace Direction

/-- The directions but the mean. -/
def others : List Direction := [gradient, vertical, horizontal]

end Direction

namespace FineDirection

/-- The directions but the mean. -/
def others : List FineDirection :=
  Direction.others.map plain ++
    [downRight, verticalRight, downLeft, verticalLeft, horizontalDown, horizontalUp]

/-- The place in the list of all directions. -/
def number : FineDirection → Nat
  | plain .mean => 0
  | plain .gradient => 1
  | plain .vertical => 2
  | plain .horizontal => 3
  | downRight => 4
  | verticalRight => 5
  | downLeft => 6
  | verticalLeft => 7
  | horizontalDown => 8
  | horizontalUp => 9

end FineDirection

/-! ## Squares -/

/-- The samples above the image. -/
def outsideAbove : Int := 127

/-- The samples on the left of the image. -/
def outsideLeft : Int := 129

/-- The samples around a square: those of the row above, of the column on the left, and of both. -/
structure Frame where
  above? : Option (List (Quad Int))
  left? : Option (List (Quad Int))
  corner : Int

namespace Frame

/-- The frame between what is above, on the left, and above on the left. -/
def around (above? left? aboveLeft? : Option (List (Quad Int))) : Frame where
  above? := above?
  left? := left?
  corner :=
    match above?, left? with
    | none, _ => outsideAbove
    | some _, none => outsideLeft
    | some _, some _ => ((aboveLeft?.bind (·.getLast?)).map (·.d)).getD outsideAbove

/-- The samples of the row above a square of so many blocks. -/
def above (f : Frame) (side : Nat) : List (Quad Int) :=
  f.above?.getD (List.replicate side (.replicate outsideAbove))

/-- The samples of the column on the left of a square of so many blocks. -/
def left (f : Frame) (side : Nat) : List (Quad Int) :=
  f.left?.getD (List.replicate side (.replicate outsideLeft))

/-- The mean of the samples around a square of so many blocks. -/
def mean (f : Frame) (side : Nat) : Int :=
  let sum (quads : List (Quad Int)) : Int := quads.foldl (fun n q => n + q.sum) 0
  let half (s : Int) : Int := (s + 4 * side) / (8 * side)
  match f.above?, f.left? with
  | none, none => 128
  | some one, none | none, some one => half (2 * sum one)
  | some above, some left => half (sum above + sum left)

/-- A square of so many by so many blocks as it is guessed in a direction. -/
def predict (f : Frame) (side : Nat) (d : Direction) : Grid :=
  let each (block : Quad Int → Quad Int → Block) : Grid :=
    (f.left side).map fun left => (f.above side).map fun above => block left above
  match d with
  | .mean => List.replicate side (List.replicate side (.uniform (f.mean side)))
  | .gradient =>
    each fun left above => left.map fun l => above.map fun a => clamp (l + a - f.corner)
  | .vertical => each fun _ above => Quad.replicate above
  | .horizontal => each fun left _ => left.map Quad.replicate

end Frame

/-! ## Blocks -/

/-- The rounded mean of two samples. -/
def meanOfTwo (a b : Int) : Int := (a + b + 1) / 2

/-- The rounded mean of three samples, of which the one in the middle counts twice. -/
def meanOfThree (a b c : Int) : Int := (a + 2 * b + c + 2) / 4

/-- Four numbers in a row out of seven. -/
def window (xs : Quad Int × Int × Int × Int) : Block :=
  let (⟨a, b, c, d⟩, e, f, g) := xs
  ⟨⟨a, b, c, d⟩, ⟨b, c, d, e⟩, ⟨c, d, e, f⟩, ⟨d, e, f, g⟩⟩

/-- The samples around a block, from the row above on to the right. -/
structure Edge where
  corner : Int
  left : Quad Int
  above : Quad Int
  aboveRight : Quad Int

/-- A block as it is guessed in a direction. -/
def Edge.predict (e : Edge) (direction : FineDirection) : Block :=
  let ⟨x, ⟨i, j, k, l⟩, ⟨a, b, c, d⟩, ⟨m, n, o, p⟩⟩ := e
  let two := meanOfTwo
  let three := meanOfThree
  match direction with
  | .plain .mean => .uniform ((a + b + c + d + i + j + k + l + 4) / 8)
  | .plain .gradient => e.left.map fun l => e.above.map fun a => clamp (l + a - x)
  | .plain .vertical => Quad.replicate ⟨three x a b, three a b c, three b c d, three c d m⟩
  | .plain .horizontal =>
    Quad.map Quad.replicate ⟨three x i j, three i j k, three j k l, three k l l⟩
  | .downRight =>
    let rows := window
      (⟨three j k l, three i j k, three x i j, three a x i⟩, three b a x, three c b a, three d c b)
    ⟨rows.d, rows.c, rows.b, rows.a⟩
  | .downLeft =>
    window
      (⟨three a b c, three b c d, three c d m, three d m n⟩, three m n o, three n o p, three o p p)
  | .verticalRight => ⟨
      ⟨two x a, two a b, two b c, two c d⟩,
      ⟨three i x a, three x a b, three a b c, three b c d⟩,
      ⟨three j i x, two x a, two a b, two b c⟩,
      ⟨three k j i, three i x a, three x a b, three a b c⟩⟩
  | .verticalLeft => ⟨
      ⟨two a b, two b c, two c d, two d m⟩,
      ⟨three a b c, three b c d, three c d m, three d m n⟩,
      ⟨two b c, two c d, two d m, three m n o⟩,
      ⟨three b c d, three c d m, three d m n, three n o p⟩⟩
  | .horizontalDown => ⟨
      ⟨two i x, three i x a, three x a b, three a b c⟩,
      ⟨two j i, three j i x, two i x, three i x a⟩,
      ⟨two k j, three k j i, two j i, three j i x⟩,
      ⟨two l k, three l k j, two k j, three k j i⟩⟩
  | .horizontalUp => ⟨
      ⟨two i j, three i j k, two j k, three j k l⟩,
      ⟨two j k, three j k l, two k l, three k l l⟩,
      ⟨two k l, three k l l, l, l⟩,
      ⟨l, l, l, l⟩⟩

end Chip8.Webp
