/-!
# Blocks of four by four numbers

The samples of an image and their frequencies come in blocks of four rows of four numbers. Blocks
make up the rows of a grid.
-/

namespace Chip8.Webp

/-- Four of a kind. -/
structure Quad (α : Type) where
  a : α
  b : α
  c : α
  d : α
deriving DecidableEq, Repr

namespace Quad

variable {α β γ : Type}

/-- The same four times. -/
def replicate (x : α) : Quad α := ⟨x, x, x, x⟩

/-- A function on each of the four. -/
@[inline] def map (f : α → β) (q : Quad α) : Quad β := ⟨f q.a, f q.b, f q.c, f q.d⟩

/-- A function on each of the four and its counterpart. -/
@[inline] def zipWith (f : α → β → γ) (p : Quad α) (q : Quad β) : Quad γ :=
  ⟨f p.a q.a, f p.b q.b, f p.c q.c, f p.d q.d⟩

/-- The four in order. -/
def toList (q : Quad α) : List α := [q.a, q.b, q.c, q.d]

/-- The first four of a list, with something for those that are missing. -/
def ofList (missing : α) (xs : List α) : Quad α :=
  ⟨xs.getD 0 missing, xs.getD 1 missing, xs.getD 2 missing, xs.getD 3 missing⟩

/-- What a function finds at four places in a row. -/
@[inline] def tabulate (f : Nat → α) : Quad α := ⟨f 0, f 1, f 2, f 3⟩

/-- The sum of a number for each of the four. -/
@[inline] def total (f : α → Nat) (q : Quad α) : Nat := f q.a + f q.b + f q.c + f q.d

/-- One of the four has a property. -/
@[inline] def any (f : α → Bool) (q : Quad α) : Bool := f q.a || f q.b || f q.c || f q.d

/-- The sum of the four. -/
def sum (q : Quad Int) : Int := q.a + q.b + q.c + q.d

end Quad

/-- Four rows of four numbers. -/
abbrev Block := Quad (Quad Int)

namespace Block

/-- The rows as columns. -/
def transpose (b : Block) : Block :=
  ⟨b.map (·.a), b.map (·.b), b.map (·.c), b.map (·.d)⟩

/-- The numbers in rows. -/
def rows (b : Block) : List (List Int) := (Quad.toList b).map Quad.toList

/-- The block of some rows, with zeros for what is missing. -/
def ofRows (rows : List (List Int)) : Block :=
  Quad.ofList (Quad.replicate 0) (rows.map (Quad.ofList 0))

/-- The numbers row by row. -/
def toList (b : Block) : List Int :=
  b.a.toList ++ b.b.toList ++ b.c.toList ++ b.d.toList

/-- The same number everywhere. -/
def uniform (v : Int) : Block := Quad.replicate (Quad.replicate v)

/-- A function on each number and its counterpart. -/
@[inline] def zipWith (f : Int → Int → Int) (b c : Block) : Block :=
  Quad.zipWith (Quad.zipWith f) b c

/-- The first number. -/
def first (b : Block) : Int := b.a.a

/-- The block with another first number. -/
def setFirst (b : Block) (v : Int) : Block := ⟨⟨v, b.a.b, b.a.c, b.a.d⟩, b.b, b.c, b.d⟩

/-- Some number is not zero. -/
def hasAny (b : Block) : Bool := b.any (Quad.any (· != 0))

/-- How many numbers but the first are not zero. -/
def restCount (b : Block) : Nat :=
  (b.setFirst 0).total (Quad.total fun v => if v = 0 then 0 else 1)

/-- The sum of the squared differences of two blocks. -/
def error (b c : Block) : Nat :=
  (b.zipWith (fun v w => (v - w) * (v - w)) c).total (Quad.total Int.toNat)

end Block

/-- Rows of blocks. -/
abbrev Grid := List (List Block)

namespace Grid

/-- The lowest samples, from left to right. -/
def bottom (g : Grid) : List (Quad Int) := (g.getLastD []).map (·.d)

/-- The rightmost samples, from top to bottom. -/
def right (g : Grid) : List (Quad Int) :=
  g.filterMap fun row => row.getLast?.map fun block => block.map (·.d)

/-- A function on each block and its counterpart. -/
@[inline] def zipWith {α β γ : Type} (f : α → β → γ) (g : List (List α)) (h : List (List β)) :
    List (List γ) :=
  List.zipWith (List.zipWith f) g h

/-- The sum of a number for each element. -/
@[inline] def total {α : Type} (f : α → Nat) (g : List (List α)) : Nat :=
  g.foldl (fun n row => row.foldl (fun n x => n + f x) n) 0

/-- A grid of so many rows of so many of something. -/
def tabulate {α : Type} (side : Nat) (f : Nat → Nat → α) : List (List α) :=
  (List.range side).map fun y => (List.range side).map fun x => f x y

end Grid

end Chip8.Webp
