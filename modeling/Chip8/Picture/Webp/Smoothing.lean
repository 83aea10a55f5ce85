import Chip8.Picture.Webp.Coder

/-!
# Smoothing

Edges between blocks are smoothed unless there is an edge in the image itself. On either side of an
edge, up to four samples are looked at and up to three are changed. Tiles are smoothed one after the
other: first across their left sides and the blocks within, and then across their upper sides.
-/

namespace Chip8.Webp

/-- How much is smoothed at an edge. -/
structure Smoothing where
  /-- The greatest step across the edge. -/
  step : Nat
  /-- The greatest difference between samples on one side. -/
  slope : Nat
  /-- The difference above which only the samples at the edge are changed. -/
  roughness : Nat
  /-- The edge is one of a tile. -/
  outer : Bool

namespace Smoothing

/-- How much is smoothed at edges of a degree. -/
def ofDegree (degree : Nat) (outer : Bool) : Smoothing where
  step := 2 * (3 * degree + if outer then 4 else 0) + 1
  slope := degree
  roughness := if 40 ≤ degree then 2 else if 15 ≤ degree then 1 else 0
  outer := outer

/-- A number within the range of a byte with a sign. -/
def narrow (v : Int) : Int := max (-128) (min 127 v)

/-- The eighth of a number, but not by far. -/
def eighth (v : Int) : Int := max (-16) (min 15 (v / 8))

/-- The samples across an edge are smooth enough on both sides. -/
def applies (s : Smoothing) (p q : Quad Int) : Bool :=
  let near (v w : Int) : Bool := (v - w).natAbs ≤ s.slope
  4 * (p.a - q.a).natAbs + (p.b - q.b).natAbs ≤ s.step &&
    near p.d p.c && near p.c p.b && near p.b p.a && near q.d q.c && near q.c q.b && near q.b q.a

/-- The samples before and behind an edge, from the edge on, when it has been smoothed. -/
def apply (s : Smoothing) (p q : Quad Int) : Quad Int × Quad Int :=
  if s.roughness < (p.b - p.a).natAbs ∨ s.roughness < (q.b - q.a).natAbs then
    let v := 3 * (q.a - p.a) + narrow (p.b - q.b)
    (⟨clamp (p.a + eighth (v + 3)), p.b, p.c, p.d⟩, ⟨clamp (q.a - eighth (v + 4)), q.b, q.c, q.d⟩)
  else if s.outer then
    let v := narrow (3 * (q.a - p.a) + narrow (p.b - q.b))
    let (x, y, z) := ((27 * v + 63) / 128, (18 * v + 63) / 128, (9 * v + 63) / 128)
    (⟨clamp (p.a + x), clamp (p.b + y), clamp (p.c + z), p.d⟩,
      ⟨clamp (q.a - x), clamp (q.b - y), clamp (q.c - z), q.d⟩)
  else
    let v := 3 * (q.a - p.a)
    let x := eighth (v + 4)
    let y := (x + 1) / 2
    (⟨clamp (p.a + eighth (v + 3)), clamp (p.b + y), p.c, p.d⟩,
      ⟨clamp (q.a - x), clamp (q.b - y), q.c, q.d⟩)

/-- Samples smoothed at a place; the next sample across the edge is so many places further. -/
def applyAt (s : Smoothing) (next : Nat) (samples : Array Int) (i : Nat) : Array Int :=
  let get (k : Nat) : Int := samples.getD k 0
  let p : Quad Int := ⟨get (i - next), get (i - 2 * next), get (i - 3 * next), get (i - 4 * next)⟩
  let q : Quad Int := ⟨get i, get (i + next), get (i + 2 * next), get (i + 3 * next)⟩
  if s.applies p q then
    let (p, q) := s.apply p q
    ((((((samples.setIfInBounds (i - next) p.a).setIfInBounds (i - 2 * next) p.b).setIfInBounds
      (i - 3 * next) p.c).setIfInBounds i q.a).setIfInBounds (i + next) q.b).setIfInBounds
      (i + 2 * next) q.c)
  else samples

end Smoothing

namespace Plane

/-- A plane smoothed at so many samples of an upright edge. -/
def smoothUpright (s : Smoothing) (x y length : Nat) (p : Plane) : Plane :=
  match p with
  | ⟨width, height, samples⟩ => ⟨width, height, (List.range length).foldl (fun samples k =>
      s.applyAt 1 samples ((y + k) * width + x)) samples⟩

/-- A plane smoothed at so many samples of a level edge. -/
def smoothLevel (s : Smoothing) (x y length : Nat) (p : Plane) : Plane :=
  match p with
  | ⟨width, height, samples⟩ => ⟨width, height, (List.range length).foldl (fun samples k =>
      s.applyAt width samples (y * width + x + k)) samples⟩

/-- The places of the edges within a square of so many blocks. -/
def innerEdges (side : Nat) : List Nat := (List.range (side - 1)).map fun k => 4 * (k + 1)

/-- A plane smoothed in a square of so many by so many blocks. -/
def smooth (degree : Nat) (hasDetail : Bool) (side x y : Nat) (p : Plane) : Plane :=
  let outer := Smoothing.ofDegree degree true
  let inner := Smoothing.ofDegree degree false
  let length := 4 * side
  let (x, y) := (length * x, length * y)
  let edges := if hasDetail then innerEdges side else []
  let p := if x = 0 then p else p.smoothUpright outer x y length
  let p := edges.foldl (fun p k => p.smoothUpright inner (x + k) y length) p
  let p := if y = 0 then p else p.smoothLevel outer x y length
  edges.foldl (fun p k => p.smoothLevel inner x (y + k) length) p

end Plane

/-- Planes smoothed in a tile. -/
def Planes.smooth (degree : Nat) (hasDetail : Bool) (x y : Nat) : Planes → Planes
  | ⟨luma, blue, red⟩ =>
    ⟨luma.smooth degree hasDetail lumaSide x y, blue.smooth degree hasDetail chromaSide x y,
      red.smooth degree hasDetail chromaSide x y⟩

/-- How much each segment is smoothed, which depends on the edges inside of its tiles. -/
def Plan.degrees (plan : Plan) (kept : List KeptTile) : List Nat :=
  plan.settings.zipIdx.map fun (setting, i) =>
    let edge := (kept.filter (·.segment == i)).foldl (fun edge t => max edge t.edge) 0
    max setting.smoothing (min (edge * setting.means.rest.size / 8) Degree.maxSmoothing)

/-- The planes of what is kept of tiles by a plan. -/
def Plan.planes (plan : Plan) (kept : List (List KeptTile)) : Planes :=
  let degrees := plan.degrees kept.flatten
  let smoothTile (planes : Planes) (x y : Nat) (t : KeptTile) : Planes :=
    let degree := degrees.getD t.segment 0
    if degree = 0 then planes else planes.smooth degree t.hasDetail x y
  kept.zipIdx.foldl (fun planes (row, y) =>
    row.zipIdx.foldl (fun planes (t, x) => smoothTile planes x y t) planes)
    (.ofTiles (kept.map (·.map (·.tile))))

end Chip8.Webp
