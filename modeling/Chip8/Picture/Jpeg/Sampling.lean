/-!
# Sampling of colour parts

The parts of colours that matter less to the eye are kept for two by two pixels at a time. `halve`
takes the mean of such pixels, and `double` spreads the means out again: between two means it goes
from one to the other by quarters, unless there are hardly any.
-/

namespace Chip8.Jpeg

/-- A list filled up to a length with its last element. -/
def extend {α : Type} (n : Nat) (xs : List α) : List α :=
  match xs.getLast? with
  | some last => xs ++ List.replicate (n - xs.length) last
  | none => xs

/-- The least multiple of a number that is not less than another. -/
def roundUp (unit n : Nat) : Nat := (n + unit - 1) / unit * unit

/-- Consecutive elements in pairs; an element that is left over is paired with itself. -/
def pairs {α : Type} : List α → List (α × α)
  | [] => []
  | [a] => [(a, a)]
  | a :: b :: rest => (a, b) :: pairs rest

/-! ## Halving -/

/-- The means of pairs from two rows; halves are rounded down and up in turn. -/
def meansFrom (bias : Int) : List ((Int × Int) × (Int × Int)) → List Int
  | [] => []
  | ((a, b), (c, d)) :: rest => (a + b + c + d + bias) / 4 :: meansFrom (3 - bias) rest

/-- The means of two by two numbers. -/
def halve (rows : List (List Int)) : List (List Int) :=
  (pairs rows).map fun (upper, lower) => meansFrom 1 ((pairs upper).zip (pairs lower))

/-! ## Doubling -/

/-- Each number weighs three times as much as its neighbour: the neighbours on the left. -/
def spreadLeft : Int → List Int → List Int
  | _, [] => []
  | last, a :: as => (3 * a + last + 8) / 16 :: spreadLeft a as

/-- Each number weighs three times as much as its neighbour: the neighbours on the right. -/
def spreadRight : List Int → List Int
  | [] => []
  | [a] => [(4 * a + 7) / 16]
  | a :: b :: rest => (3 * a + b + 7) / 16 :: spreadRight (b :: rest)

/-- The elements of two lists in turn. -/
def interleave {α : Type} : List α → List α → List α
  | a :: as, b :: bs => a :: b :: interleave as bs
  | _, _ => []

/-- A row of double length between a row, which weighs three times as much, and its neighbour. -/
def spread (row neighbour : List Int) : List Int :=
  let sums := row.zipWith (fun a b => 3 * a + b) neighbour
  interleave (spreadLeft (sums.headD 0) sums) (spreadRight sums)

/-- The rows between each row and its neighbours above and below. -/
def spreadRows : List Int → List (List Int) → List (List Int)
  | _, [] => []
  | above, [row] => [spread row above, spread row row]
  | above, row :: below :: rest =>
    spread row above :: spread row below :: spreadRows row (below :: rest)

/-- The greatest length of a row that is doubled without looking at neighbours. -/
def plainLength : Nat := 2

/-- Two by two numbers for each one. -/
def double (rows : List (List Int)) : List (List Int) :=
  if (rows.headD []).length ≤ plainLength then
    rows.flatMap fun row => List.replicate 2 (row.flatMap (List.replicate 2))
  else spreadRows (rows.headD []) rows

end Chip8.Jpeg
