/-!
# Runs of equal elements

Images of large squares have many equal rows, one after the other. What becomes of a row is found
once for a whole run of them. `mapRuns_eq_map` says that this makes no difference to the result.
-/

namespace Chip8.Runs

variable {α β : Type} [BEq α]

/-- A function on each element of a list, given its value at the element before the list. -/
def mapAfter (f : α → β) (last : α) (value : β) : List α → List β
  | [] => []
  | a :: as =>
    if a == last then value :: mapAfter f last value as
    else
      let value := f a
      value :: mapAfter f a value as

/-- A function on each element of a list, found once for equal elements that follow each other. -/
def mapRuns (f : α → β) : List α → List β
  | [] => []
  | a :: as =>
    let value := f a
    value :: mapAfter f a value as

theorem mapAfter_eq_map [LawfulBEq α] (f : α → β) (last : α) (as : List α) :
    mapAfter f last (f last) as = as.map f := by
  induction as generalizing last with
  | nil => rfl
  | cons a as ih =>
    by_cases h : a = last
    · subst h; simp [mapAfter, ih]
    · simp [mapAfter, h, ih]

theorem mapRuns_eq_map [LawfulBEq α] (f : α → β) (as : List α) : mapRuns f as = as.map f := by
  cases as with
  | nil => rfl
  | cons a as => simp [mapRuns, mapAfter_eq_map]

end Chip8.Runs
