import Chip8.HostNumber

/-!
# Ticks that are due

Timer ticks follow a clock that is read from time to time. A `TickClock` remembers when it was
started and how many whole ticks had passed at the last reading, so a part of a tick is carried over
to the next reading. As long as the clock goes forward, no tick is lost or counted twice. Whole
ticks are counted toward zero. A reading before the last one yields no ticks and sets the count
back, so that the ticks in between come due a second time.
-/

namespace Chip8

/-- The number of timer ticks in a second. -/
abbrev timerFrequency : Nat := 60

/-- A count of the ticks since a start. -/
structure TickClock where
  frequency : Float
  start : Float
  counted : Int

namespace TickClock

/-- The count that starts at a time. -/
def startAt (frequency now : Float) : TickClock := ⟨frequency, now, 0⟩

/-- Start over at a time. -/
def reset (c : TickClock) (now : Float) : TickClock := startAt c.frequency now

/-- The whole ticks from the start to a time, if there is a number of them. -/
def elapsed (c : TickClock) (now : Float) : Except Failure Int :=
  HostNumber.whole ((now - c.start) * c.frequency)

/-- The ticks that come due when so many have passed since the start, and the count after that. -/
def advance (c : TickClock) (elapsed : Int) : Int × TickClock :=
  (max (elapsed - c.counted) 0, { c with counted := elapsed })

/-- The ticks that have come due since the last reading, and the count after this one. -/
def due (c : TickClock) (now : Float) : Except Failure (Int × TickClock) := do
  return c.advance (← c.elapsed now)

section Due

variable {c : TickClock} {now : Float} {count : Int} {f : Failure}

theorem due_of_elapsed (h : c.elapsed now = .ok count) : c.due now = .ok (c.advance count) := by
  rw [due, h]
  rfl

theorem due_of_elapsed_error (h : c.elapsed now = .error f) : c.due now = .error f := by
  rw [due, h]
  rfl

end Due

end TickClock

end Chip8
