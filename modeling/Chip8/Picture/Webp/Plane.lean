import Chip8.Picture.Image
import Chip8.Picture.Webp.Transform

/-!
# Planes of samples

The colours of an image are split into a plane of brightness and two planes of differences of
colour, which have one sample for two by two pixels. The mean of such pixels is that of their light.
On the way back, each pixel takes most from the nearest sample.
-/

namespace Chip8.Webp

/-- Samples row by row. -/
structure Plane where
  width : Nat
  height : Nat
  samples : Array Int

namespace Plane

/-- The plane of a sample for each place. -/
def tabulate (width height : Nat) (f : Nat → Nat → Int) : Plane where
  width := width
  height := height
  samples := (Array.range height).flatMap fun y => (Array.range width).map fun x => f x y

/-- The sample at a place, or the nearest one to a place outside. -/
def get (p : Plane) (x y : Nat) : Int :=
  p.samples.getD (min y (p.height - 1) * p.width + min x (p.width - 1)) 0

/-- The block at so many blocks from the left and from above. -/
def block (p : Plane) (x y : Nat) : Block :=
  .tabulate fun j => .tabulate fun i => p.get (4 * x + i) (4 * y + j)

/-- The square of so many by so many blocks at so many squares from the left and from above. -/
def square (p : Plane) (side x y : Nat) : Grid :=
  Grid.tabulate side fun i j => p.block (side * x + i) (side * y + j)

/-- Squares of so many rows of blocks, next to each other. -/
def beside (side : Nat) (squares : List Grid) : Grid :=
  squares.foldr (List.zipWith List.append) (List.replicate side [])

/-- The plane of squares of so many by so many blocks. -/
def ofSquares (side : Nat) (rows : List (List Grid)) : Plane :=
  let lines := rows.flatMap fun squares => (beside side squares).flatMap fun row =>
    let line (f : Block → Quad Int) := row.flatMap fun block => (f block).toList
    [line (·.a), line (·.b), line (·.c), line (·.d)]
  ⟨(lines.headD []).length, lines.length, lines.flatten.toArray⟩

end Plane

/-! ## From colours -/

/-- The nearest whole number. -/
def rounded (x : Float) : Nat := (x + 0.5).toUInt64.toNat

/-- The light of each value of a colour part. -/
def light : Array Nat :=
  (Array.range 256).map fun v => rounded ((v.toFloat / 255.0).pow 0.8 * 4095.0)

/-- The values of colour parts for amounts of light with equal distances. -/
def values : Array Nat :=
  (Array.range 33).map fun v => rounded (255.0 * (128.0 / 4095.0 * v.toFloat).pow (1.0 / 0.8))

/-- Four times the value of a colour part whose light is a quarter of an amount. -/
def valueOfLight (light : Nat) : Int :=
  let (v, rest) := (light / 512, light % 512)
  (values.getD (v + 1) 0 * rest + values.getD v 0 * (512 - rest) + 64) / 128

/-- The brightness of a colour. -/
def brightness (c : Colour) : Int :=
  (16839 * c.red.toNat + 33059 * c.green.toNat + 6420 * c.blue.toNat + 1081344) / 65536

/-- The difference of colour of four pixels by the values of their parts. -/
def difference (red green blue : Int) (parts : Int × Int × Int) : Int :=
  clamp ((red * parts.1 + green * parts.2.1 + blue * parts.2.2 + 33685504) / 262144)

/-- How much bluer four pixels are than they are bright. -/
def blueDifference : Int × Int × Int → Int := difference (-9719) (-19081) 28800

/-- How much redder four pixels are than they are bright. -/
def redDifference : Int × Int × Int → Int := difference 28800 (-24116) (-4684)

/-- The brightness of all pixels, and the two differences of colour. -/
structure Planes where
  luma : Plane
  blue : Plane
  red : Plane

/-- Half of a number, rounded up. -/
def halved (n : Nat) : Nat := (n + 1) / 2

/-- The planes of an image. -/
def Planes.ofImage (i : Image) : Planes :=
  let squares := (i.squares.map List.toArray).toArray
  let pixel (x y : Nat) : Colour :=
    let row := squares.getD (min y (i.height - 1) / i.side) #[]
    row.getD (min x (i.width - 1) / i.side) (.grey 0)
  let parts (x y : Nat) : Int × Int × Int :=
    let four := [pixel x y, pixel (x + 1) y, pixel x (y + 1), pixel (x + 1) (y + 1)]
    let value (part : Colour → Byte) :=
      valueOfLight (four.foldl (fun n c => n + light.getD (part c).toNat 0) 0)
    (value (·.red), value (·.green), value (·.blue))
  let width := halved i.width
  let height := halved i.height
  let all := (Array.range height).flatMap fun y =>
    (Array.range width).map fun x => parts (2 * x) (2 * y)
  { luma := .tabulate i.width i.height fun x y => brightness (pixel x y)
    blue := ⟨width, height, all.map blueDifference⟩
    red := ⟨width, height, all.map redDifference⟩ }

/-! ## To colours -/

/-- The colour of a brightness and two differences. -/
def colour (y blue red : Int) : Colour :=
  let part (v : Int) : Byte := BitVec.ofInt 8 (clamp (v / 64))
  let base := y * 19077 / 256
  ⟨part (base + red * 26149 / 256 - 14234),
    part (base - blue * 6419 / 256 - red * 13320 / 256 + 8708),
    part (base + blue * 33050 / 256 - 17685)⟩

/--
The sample for a pixel of an image in a plane of half its size: most of it is from the nearest
sample, and the rest is from its neighbours in the directions in which the pixel lies.
-/
def Plane.spread (p : Plane) (width height x y : Nat) : Int :=
  let column := x / 2
  let row := y / 2
  let otherRow := if y % 2 = 0 then row - 1 else min (row + 1) (halved height - 1)
  let near := p.get column row
  let below := p.get column otherRow
  if x = 0 ∨ x + 1 = width ∧ x % 2 = 1 then (3 * near + below + 2) / 4
  else
    let otherColumn := if x % 2 = 0 then column - 1 else column + 1
    let beside := p.get otherColumn row
    let all := near + beside + below + p.get otherColumn otherRow + 8
    ((all + 2 * (beside + below)) / 8 + near) / 2

/-- The image of so many columns and rows in some planes. -/
def Planes.toImage (p : Planes) (width height : Nat) : Image where
  columns := width
  squares := (List.range height).map fun y => (List.range width).map fun x =>
    colour (p.luma.get x y) (p.blue.spread width height x y) (p.red.spread width height x y)
  side := 1

end Chip8.Webp
