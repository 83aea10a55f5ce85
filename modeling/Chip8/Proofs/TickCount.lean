import Chip8.TickClock
import Mathlib.Algebra.Ring.Int.Defs
import Mathlib.Data.List.Chain

/-!
# Every tick is accounted for

A clock counts the whole ticks from its start to each poll, and gives the ticks by which that count
exceeds the one before it. If the count is less than the one before it, the poll gives no ticks, but
the count is kept all the same. So each poll gives the difference of the two counts and, on top of
it, what the count has fallen (`max_sub_eq`), and over many polls the differences add up to the last
count (`sum_advances`).

**`TickClock.ticks_accounted`** says this of the polls of a clock that has started over. If the
counts never fall, the ticks of all polls are exactly the last count, however the time is cut into
polls.
-/

namespace Chip8

/-! ## Counts one after the other -/

section Counts

variable {last : Int} {counts : List Int}

/-- How much each count has risen above the one before it. -/
def advances (last : Int) (counts : List Int) : List Int :=
  (last :: counts).zipWith (fun before count => max (count - before) 0) counts

/-- How much each count has fallen behind the one before it. -/
def setbacks (last : Int) (counts : List Int) : List Int :=
  (last :: counts).zipWith (fun before count => max 0 (before - count)) counts

theorem advances_cons (last count : Int) (counts : List Int) :
    advances last (count :: counts) = max (count - last) 0 :: advances count counts := rfl

theorem setbacks_cons (last count : Int) (counts : List Int) :
    setbacks last (count :: counts) = max 0 (last - count) :: setbacks count counts := rfl

theorem nonneg_of_mem_advances {due : Int} (h : due ∈ advances last counts) : 0 ≤ due := by
  induction counts generalizing last with
  | nil => cases h
  | cons count counts ih =>
    rw [advances_cons] at h
    rcases List.mem_cons.1 h with rfl | h
    · exact Int.le_max_right _ _
    · exact ih h

/-- **One poll.** What a count has risen is its difference from the one before it and what it has
fallen. -/
theorem max_sub_eq (last count : Int) :
    max (count - last) 0 = count - last + max 0 (last - count) := by omega

/-- **Many polls.** The differences of the counts telescope. -/
theorem sum_advances (last : Int) (counts : List Int) :
    (advances last counts).sum = counts.getLastD last - last + (setbacks last counts).sum := by
  induction counts generalizing last with
  | nil => simp [advances, setbacks]
  | cons count counts ih =>
    rw [advances_cons, setbacks_cons, List.sum_cons, List.sum_cons, ih, max_sub_eq,
      List.getLastD_cons]
    omega

/-- Counts that never fall have no setbacks. -/
theorem sum_setbacks_of_rising (h : (last :: counts).IsChain (· ≤ ·)) :
    (setbacks last counts).sum = 0 := by
  induction counts generalizing last with
  | nil => rfl
  | cons count counts ih =>
    obtain ⟨hle, hrest⟩ := List.isChain_cons_cons.1 h
    rw [setbacks_cons, List.sum_cons, ih hrest]
    omega

end Counts

/-! ## Polls one after the other -/

/-- What came of it where something did. -/
def results {α : Type} (outcomes : List (Except Failure α)) : List α :=
  outcomes.filterMap Except.toOption

namespace TickClock

/-- What the polls of a clock at some times give. A poll that fails leaves the clock as it is. -/
def polls : TickClock → List Float → List (Except Failure Int)
  | _, [] => []
  | c, now :: times =>
    match c.due now with
    | .ok (due, c') => .ok due :: c'.polls times
    | .error f => .error f :: c.polls times

section Polls

variable {c : TickClock} {now : Float} {times : List Float} {count : Int} {f : Failure}

theorem polls_of_elapsed (h : c.elapsed now = .ok count) :
    c.polls (now :: times) =
      .ok (max (count - c.counted) 0) :: { c with counted := count }.polls times := by
  rw [polls, due_of_elapsed h]
  rfl

theorem polls_of_elapsed_error (h : c.elapsed now = .error f) :
    c.polls (now :: times) = .error f :: c.polls times := by
  rw [polls, due_of_elapsed_error h]

/-- A poll fails only if there is no count at its time. -/
theorem isOk_polls (c : TickClock) (times : List Float) :
    (c.polls times).map Except.isOk = (times.map c.elapsed).map Except.isOk := by
  induction times generalizing c with
  | nil => rfl
  | cons now times ih =>
    cases h : c.elapsed now with
    | ok count =>
      rw [polls_of_elapsed h, List.map_cons, List.map_cons, List.map_cons, h, ih]
      rfl
    | error f => rw [polls_of_elapsed_error h, List.map_cons, List.map_cons, List.map_cons, h, ih]

/-- The polls give as many ticks as the counts have risen. -/
theorem results_polls (c : TickClock) (times : List Float) :
    results (c.polls times) = advances c.counted (results (times.map c.elapsed)) := by
  induction times generalizing c with
  | nil => rfl
  | cons now times ih =>
    cases h : c.elapsed now with
    | ok count =>
      have hrest := ih { c with counted := count }
      rw [polls_of_elapsed h, List.map_cons, h]
      exact congrArg (max (count - c.counted) 0 :: ·) hrest
    | error f =>
      rw [polls_of_elapsed_error h, List.map_cons, h]
      exact ih c

end Polls

/-- **Every tick is accounted for.** Let a clock start over and be polled at some times, of which
`counts` are the whole ticks from the start, and let `dues` be what the polls give. A poll fails
only if there is no count at its time. None of the others gives less than no ticks, and together
they give the last count and all that the counts have fallen on the way; so if they never fall, the
ticks are the last count. -/
theorem ticks_accounted {c : TickClock} {start : Float} {times : List Float}
    {counts dues : List Int}
    (hcounts : results (times.map fun now => HostNumber.whole ((now - start) * c.frequency)) =
      counts)
    (hdues : results ((c.reset start).polls times) = dues) :
    ((c.reset start).polls times).map Except.isOk =
        (times.map fun now => HostNumber.whole ((now - start) * c.frequency)).map Except.isOk ∧
      (∀ due ∈ dues, 0 ≤ due) ∧
      dues.sum = counts.getLastD 0 + (setbacks 0 counts).sum ∧
      ((0 :: counts).IsChain (· ≤ ·) → dues.sum = counts.getLastD 0) := by
  have hadvances : dues = advances 0 counts := by
    rw [← hdues, ← hcounts]
    exact results_polls (c.reset start) times
  have hsum : dues.sum = counts.getLastD 0 + (setbacks 0 counts).sum := by
    rw [hadvances, sum_advances, Int.sub_zero]
  refine ⟨isOk_polls (c.reset start) times, fun due hdue => ?_, hsum, fun hrising => ?_⟩
  · rw [hadvances] at hdue
    exact nonneg_of_mem_advances hdue
  · rw [hsum, sum_setbacks_of_rising hrising, Int.add_zero]

/-- A clock that goes back before its third poll, and shows no number at the fourth. -/
theorem ticks_of_clock_back :
    results ([10.25, 10.5, 10.375, 1.0 / 0.0, 10.75].map fun now =>
        HostNumber.whole ((now - 10) * 60)) = [15, 30, 22, 45] ∧
      results (((startAt 60 0).reset 10).polls [10.25, 10.5, 10.375, 1.0 / 0.0, 10.75]) =
        [15, 15, 0, 23] ∧
      ([15, 15, 0, 23] : List Int).sum = 45 + 8 := by
  have hcounts : results ([10.25, 10.5, 10.375, 1.0 / 0.0, 10.75].map fun now =>
      HostNumber.whole ((now - 10) * (startAt 60 0).frequency)) = [15, 30, 22, 45] := rfl
  have hdues : results (((startAt 60 0).reset 10).polls
      [10.25, 10.5, 10.375, 1.0 / 0.0, 10.75]) = [15, 15, 0, 23] := rfl
  obtain ⟨-, -, hsum, -⟩ := ticks_accounted hcounts hdues
  exact ⟨hcounts, hdues, hsum⟩

end TickClock

end Chip8
