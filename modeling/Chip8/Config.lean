import Chip8.HostNumber
import Chip8.State
import Chip8.TickClock

/-!
# The settings of a machine

How fast a machine runs is given in instructions for a second, of which each frame gets its share.
`slotsPerFrame_int` says how many these are for a whole number, and `one_le_slotsPerFrame` that a
frame is never empty. A whole number is valid as a speed if it is positive (`validate_of_pos`).
-/

namespace Chip8

/-- How fast a machine runs, where programs are loaded, and what its random bytes come from. -/
structure Config where
  speed : HostNumber := .int 700
  loadAddress : HostValue := .int programStart
  seed : Int := 0
  throttle : Bool := true

namespace Config

/-- The share of the instructions of a second in a frame, at least one. -/
def frameShare (c : Config) : HostNumber :=
  let share := c.speed.share timerFrequency
  if share.above 1 then share else .int 1

/-- The number of instruction slots between two timer ticks, at least one. -/
def slotsPerFrame (c : Config) : Nat := max 1 c.frameShare.truncate.toNat

/-- The settings, if the speed is positive. -/
def validate (c : Config) : Except Failure Config :=
  if c.speed.atMost 0 then .error (.showing .speedNotPositive c.speed.toValue) else .ok c

theorem one_le_slotsPerFrame (c : Config) : 1 ≤ c.slotsPerFrame := Nat.le_max_left ..

theorem frameShare_int {c : Config} {v : Int} (h : c.speed = .int v) :
    c.frameShare = .int (max 1 (v / timerFrequency)) := by
  have hshare : c.speed.share timerFrequency = .int (v / timerFrequency) := by rw [h]; rfl
  have habove (n : Int) : (HostNumber.int n).above 1 = decide (1 < n) := rfl
  simp only [frameShare, hshare, habove, decide_eq_true_eq]
  split
  · rw [Int.max_eq_right (by omega)]
  · rw [Int.max_eq_left (by omega)]

theorem slotsPerFrame_int {c : Config} {v : Int} (h : c.speed = .int v) :
    c.slotsPerFrame = (max 1 (v / timerFrequency)).toNat := by
  rw [slotsPerFrame, frameShare_int h]
  exact Nat.max_eq_right (by simp only [HostNumber.truncate]; omega)

section

variable {c : Config} {v : Int} (h : c.speed = .int v)

include h

theorem atMost_speed_int : c.speed.atMost 0 = decide (v ≤ 0) := by rw [h]; rfl

theorem validate_of_pos (hv : 0 < v) : c.validate = .ok c := by
  have hnot : c.speed.atMost 0 = false := by
    rw [atMost_speed_int h, decide_eq_false (Int.not_le.2 hv)]
  simp [validate, hnot]

theorem validate_of_nonpos (hv : v ≤ 0) :
    c.validate = .error (.showing .speedNotPositive (.int v)) := by
  have hvalue : c.speed.toValue = .int v := by rw [h]; rfl
  rw [validate, if_pos (by rw [atMost_speed_int h, decide_eq_true hv]), hvalue]

end

end Config

end Chip8
