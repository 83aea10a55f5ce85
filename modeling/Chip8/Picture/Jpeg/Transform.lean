/-!
# The cosine transform in whole numbers

Eight samples become eight frequencies and back, by products with constants that have thirteen bits
behind the point. Squares of eight by eight samples are transformed by rows and by columns. On the
way in, results keep two more bits between the two passes and three more at the end.
-/

namespace Chip8.Jpeg

/-- Numbers in rows. -/
abbrev Square := List (List Int)

/-- The bits behind the point of a constant. -/
def constantBits : Nat := 13

/-- The bits that are kept between the passes. -/
def passBits : Nat := 2

/-- The number without its lowest bits, rounded. -/
def descale (bits : Nat) (x : Int) : Int := (x + 1 <<< (bits - 1)) >>> bits

/-- The rows of a square of eight by eight as columns. -/
def transpose (s : Square) : Square :=
  (List.range 8).map fun x => s.map fun row => row.getD x 0

/-! ## The odd frequencies -/

/-- The four combinations of four numbers that both directions of the transform share. -/
def rotate (a b c d : Int) : Int × Int × Int × Int :=
  let z1 := (a + d) * -7373
  let z2 := (b + c) * -20995
  let z5 := (a + c + (b + d)) * 9633
  let z3 := (a + c) * -16069 + z5
  let z4 := (b + d) * -3196 + z5
  (a * 2446 + z1 + z3, b * 16819 + z2 + z4, c * 25172 + z2 + z3, d * 12299 + z1 + z4)

/-! ## Eight samples -/

/--
Eight frequencies, of which the first and the fifth have no bits behind the point, and the others
as many as a constant.
-/
def frequencies (whole scaled : Int → Int) : List Int → List Int
  | [a, b, c, d, e, f, g, h] =>
    let (s0, s1, s2, s3) := (a + h, b + g, c + f, d + e)
    let (p0, p1, p2, p3) := (s0 + s3, s1 + s2, s1 - s2, s0 - s3)
    let z := (p2 + p3) * 4433
    let (o7, o5, o3, o1) := rotate (d - e) (c - f) (b - g) (a - h)
    [whole (p0 + p1), scaled o1, scaled (z + p3 * 6270), scaled o3, whole (p0 - p1), scaled o5,
      scaled (z - p2 * 15137), scaled o7]
  | other => other

/-- Eight samples with as many more bits behind the point as a constant. -/
def samples (scaled : Int → Int) : List Int → List Int
  | [a, b, c, d, e, f, g, h] =>
    let z := (c + g) * 4433
    let (t2, t3) := (z - g * 15137, z + c * 6270)
    let (t0, t1) := ((a + e) <<< constantBits, (a - e) <<< constantBits)
    let (p0, p3, p1, p2) := (t0 + t3, t0 - t3, t1 + t2, t1 - t2)
    let (o0, o1, o2, o3) := rotate h f d b
    [scaled (p0 + o3), scaled (p1 + o2), scaled (p2 + o1), scaled (p3 + o0), scaled (p3 - o0),
      scaled (p2 - o1), scaled (p1 - o2), scaled (p0 - o3)]
  | other => other

/-! ## Squares -/

/-- The frequencies of a square, times eight. -/
def forward (s : Square) : Square :=
  let rows := s.map <| frequencies (· <<< passBits) (descale (constantBits - passBits))
  transpose <| (transpose rows).map <|
    frequencies (descale passBits) (descale (constantBits + passBits))

/-- The square of some frequencies. -/
def backward (s : Square) : Square :=
  let columns := (transpose s).map <| samples (descale (constantBits - passBits))
  (transpose columns).map <| samples (descale (constantBits + passBits + 3))

end Chip8.Jpeg
