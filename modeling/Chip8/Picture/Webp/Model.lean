import Chip8.Picture.Webp.Prediction
import Chip8.Picture.Webp.Probability
import Chip8.Picture.Webp.Quantizer

/-!
# What levels and directions cost

A level is found by decisions, first whether there is a level at all. Their probabilities depend on
what the level is for, on its place, and on the levels before it. A model has them with the costs
of levels. While an image is kept, decisions are counted, and now and then the model is renewed.
-/

namespace Chip8.Webp

/-! ## Directions -/

/-- The cost of guessing the brightness of a square in a direction. -/
def Direction.cost : Direction → Nat
  | mean => 663
  | gradient => 919
  | vertical => 872
  | horizontal => 919

/-- The cost of guessing the differences of colour of a square in a direction. -/
def Direction.chromaCost : Direction → Nat
  | mean => 302
  | gradient => 984
  | vertical => 439
  | horizontal => 642

/-- The cost of guessing the blocks of a square on their own. -/
def fineCost : Nat := 211

/-- The decisions by which a direction is found. -/
def FineDirection.path : FineDirection → List (Nat × Bool)
  | plain .mean => [(0, false)]
  | plain .gradient => [(0, true), (1, false)]
  | plain .vertical => [(0, true), (1, true), (2, false)]
  | plain .horizontal => [(0, true), (1, true), (2, true), (3, false), (4, false)]
  | downRight => [(0, true), (1, true), (2, true), (3, false), (4, true), (5, false)]
  | verticalRight => [(0, true), (1, true), (2, true), (3, false), (4, true), (5, true)]
  | downLeft => [(0, true), (1, true), (2, true), (3, true), (6, false)]
  | verticalLeft => [(0, true), (1, true), (2, true), (3, true), (6, true), (7, false)]
  | horizontalDown =>
    [(0, true), (1, true), (2, true), (3, true), (6, true), (7, true), (8, false)]
  | horizontalUp =>
    [(0, true), (1, true), (2, true), (3, true), (6, true), (7, true), (8, true)]

/-- The cost of decisions with some probabilities. -/
def pathCost (probability : Nat → Nat) (path : List (Nat × Bool)) : Nat :=
  path.foldl (fun cost (node, yes) => cost + bitCost yes (probability node)) 0

/-- The cost of a direction between two others. -/
def FineDirection.cost (direction above left : FineDirection) : Nat :=
  let probabilities :=
    directionProbabilities.getD (directionCount * above.number + left.number) []
  pathCost (probabilities.getD · 0) direction.path

/-! ## Levels -/

/-- What levels are for. -/
inductive Kind
  /-- The brightness of a block without its mean. -/
  | rest
  /-- The means of sixteen blocks. -/
  | means
  /-- A difference of colour. -/
  | chroma
  /-- The brightness of a block. -/
  | whole
deriving DecidableEq, Repr

namespace Kind

/-- The place in the list of kinds. -/
def number : Kind → Nat
  | rest => 0
  | means => 1
  | chroma => 2
  | whole => 3

/-- The number of levels in a block. -/
def levelCount : Nat := 16

/-- Places in a block that have their probabilities in common. -/
def bands : Array Nat := #[0, 1, 2, 3, 6, 4, 5, 6, 6, 6, 6, 6, 6, 6, 6, 7]

/-- The number of the probabilities for a place; the context is about the level before. -/
def row (k : Kind) (place context : Nat) : Nat :=
  (k.number * 8 + bands.getD place 0) * 3 + context

/-- The place of the first level. -/
def start : Kind → Nat
  | rest => 1
  | _ => 0

end Kind

/-- The context of a level after another. -/
def contextAfter (level : Nat) : Nat := min level 2

/-- The decisions by which the amount of a level is found. -/
def levelPath (level : Nat) : List (Nat × Bool) :=
  if level = 0 then [(1, false)]
  else if level = 1 then [(1, true), (2, false)]
  else if level = 2 then [(1, true), (2, true), (3, false), (4, false)]
  else if level ≤ 4 then [(1, true), (2, true), (3, false), (4, true), (5, level == 4)]
  else if level ≤ 10 then [(1, true), (2, true), (3, true), (6, false), (7, 7 ≤ level)]
  else if level ≤ 34 then
    [(1, true), (2, true), (3, true), (6, true), (8, false), (9, 19 ≤ level)]
  else [(1, true), (2, true), (3, true), (6, true), (8, true), (10, 67 ≤ level)]

/-- The amount from which all levels are found in the same way. -/
def lastLevel : Nat := 67

/-- The first of the amounts that are found in the same way, and the probabilities of the rest. -/
def levelRest (level : Nat) : Nat × List Nat :=
  if level < 5 then (level, [])
  else if level < 7 then (5, [159])
  else if level < 11 then (7, [165, 145])
  else if level < 19 then (11, [173, 148, 140])
  else if level < 35 then (19, [176, 155, 140, 135])
  else if level < lastLevel then (35, [180, 157, 141, 134, 130])
  else (lastLevel, [254, 254, 243, 230, 196, 177, 153, 140, 133, 130, 129])

/-- The cost of the bits of a number. -/
def restCost (n : Nat) : List Nat → Nat
  | [] => 0
  | p :: ps => bitCost (n.testBit ps.length) p + restCost n ps

/-- The cost of the sign of a level. -/
def signCost : Nat := 256

/-- The cost of a level that does not depend on a model; two levels count less than they are. -/
def fixedCost (level : Nat) : Nat :=
  if level = 0 then 0
  else if level = 9 ∨ level = 10 then 640
  else
    let (base, probabilities) := levelRest level
    signCost + restCost (level - base) probabilities

/-! ## Models -/

/-- The probabilities of decisions, and the costs of the amounts of levels. -/
structure Model where
  probabilities : Array Nat
  costs : Array (Array Nat)

namespace Model

/-- The costs of the amounts of levels with a row of probabilities. -/
def rowCosts (probabilities : Array Nat) (row : Nat) : Array Nat :=
  let probability (node : Nat) := probabilities.getD (nodeCount * row + node) 0
  let goesOn := if row % 3 = 0 then 0 else bitCost true (probability 0)
  (Array.range (lastLevel + 1)).map fun level => goesOn + pathCost probability (levelPath level)

/-- The model of some probabilities. -/
def ofProbabilities (probabilities : Array Nat) : Model where
  probabilities := probabilities
  costs := (Array.range (probabilities.size / nodeCount)).map (rowCosts probabilities)

/-- The cost of the decision whether there are more levels. -/
def moreCost (m : Model) (row : Nat) (yes : Bool) : Nat :=
  bitCost yes (m.probabilities.getD (nodeCount * row) 0)

/-- The cost of levels from a place on. -/
def costFrom (m : Model) (k : Kind) : Nat → Nat → List Nat → Nat
  | place, context, [] =>
    if place < Kind.levelCount then m.moreCost (k.row place context) false else 0
  | place, context, level :: levels =>
    let costs := m.costs.getD (k.row place context) #[]
    fixedCost level + costs.getD (min level lastLevel) 0 +
      m.costFrom k (place + 1) (contextAfter level) levels

/-- The cost of the levels of a block. -/
def cost (m : Model) (k : Kind) (context : Nat) (levels : List Nat) : Nat :=
  let more :=
    if context = 0 ∧ levels ≠ [] then m.moreCost (k.row k.start context) true else 0
  more + m.costFrom k k.start context levels

end Model

/-! ## Counting -/

/-- How often there was a decision, and how often it was a yes. -/
structure Tally where
  yes : Nat
  all : Nat
deriving DecidableEq, Repr

namespace Tally

/-- The number of decisions at which both counts are halved. -/
def limit : Nat := 65534

/-- One more decision. -/
def add (t : Tally) (yes : Bool) : Tally :=
  let t := if limit ≤ t.all then ⟨(t.yes + 1) / 2, t.all / 2⟩ else t
  ⟨t.yes + yes.toNat, t.all + 1⟩

/-- The cost of the decisions with a probability. -/
def cost (t : Tally) (probability : Nat) : Nat :=
  t.yes * bitCost true probability + (t.all - t.yes) * bitCost false probability

/-- The probability that goes with the decisions. -/
def probability (t : Tally) : Nat := if t.yes = 0 then 255 else 255 - t.yes * 255 / t.all

/-- The cost of a new probability. -/
def newCost : Nat := 2048

/-- The better of a probability and the one that goes with the decisions. -/
def choose (t : Tally) (old keeping : Nat) : Nat :=
  let kept := t.cost old + bitCost false keeping
  let renewed := t.cost t.probability + bitCost true keeping + newCost
  if renewed < kept then t.probability else old

end Tally

/-- The decisions by which levels are found from a place on. -/
def decisionsFrom (k : Kind) : Nat → Nat → Bool → List Nat → List (Nat × Bool)
  | place, context, _, [] =>
    if place < Kind.levelCount then [(nodeCount * k.row place context, false)] else []
  | place, context, asked, level :: levels =>
    let base := nodeCount * k.row place context
    let more := if asked then [(base, true)] else []
    let amount := (levelPath level).map fun (node, yes) => (base + min node 9, yes)
    more ++ amount ++ decisionsFrom k (place + 1) (contextAfter level) (level != 0) levels

/-- The decisions by which the levels of a block are found, as they are counted. -/
def decisions (k : Kind) (context : Nat) (levels : List Nat) : List (Nat × Bool) :=
  decisionsFrom k k.start context true levels

/-- The counts of all decisions. -/
def count (tallies : Array Tally) (decisions : List (Nat × Bool)) : Array Tally :=
  decisions.foldl (fun tallies (node, yes) => tallies.modify node (·.add yes)) tallies

/-- The probabilities that go best with some counts. -/
def bestProbabilities (tallies : Array Tally) : Array Nat :=
  (Array.range tallies.size).map fun node =>
    (tallies.getD node ⟨0, 0⟩).choose (startingProbabilities.getD node 0)
      (keepingProbabilities.getD node 0)

/-- The model for some counts; costs are kept if no probability is new. -/
def Model.renew (m : Model) (tallies : Array Tally) : Model :=
  let probabilities := bestProbabilities tallies
  if probabilities = startingProbabilities then ⟨probabilities, m.costs⟩
  else .ofProbabilities probabilities

end Chip8.Webp
