import Chip8.Execute

/-!
# Instruction slots and timer ticks

A running machine fetches the word at its program counter and executes it. A halted machine does
nothing, and a machine that waits for a key polls the keypad instead. Each of these takes one
*slot*, and `State.run` goes through a number of slots.

The timers count down at their own pace; `State.tick` is one sixtieth of a second and touches
nothing but the two timers.
-/

namespace Chip8

namespace State

/-! ## Slots -/

/-- The word at the program counter, high byte first. -/
def fetch (s : State) : Word := s.memory.read s.pc.toNat ++ s.memory.read (s.pc + 1).toNat

/-- Both bytes of the word at the program counter are in memory. -/
def canFetch (s : State) : Bool := s.pc.toNat + 1 < memorySize

/-- Record that no word could be fetched. -/
def fetchFault (s : State) : State :=
  s.withStatus
    (.ofFault (.memoryOutOfBounds (BitVec.ofNat 16 (max s.pc.toNat memorySize))) s.pc 0)

/-- Go through one slot. -/
def step (s : State) : State :=
  if s.halted then s
  else if s.wait.pending then s.pollKey
  else if s.canFetch then s.execute s.fetch
  else s.fetchFault

/-- Go through a number of slots. -/
def run : Nat → State → State
  | 0, s => s
  | n + 1, s => run n s.step

/-- Go through a number of slots that has to fit 32 bits; a number below zero counts as zero. -/
def runInt (s : State) (n : Int) : Except Failure State :=
  if -0x80000000 ≤ n ∧ n < 0x80000000 then .ok (s.run n.toNat) else .error .outOfRange

/-! ## Timers -/

/-- One less, but not below zero. -/
def countDown (timer : Byte) : Byte := if timer = 0 then 0 else timer - 1

/-- Let both timers count down by one. -/
def tick (s : State) : State := { s with delay := countDown s.delay, sound := countDown s.sound }

/-- Let both timers count down a number of times. -/
def ticks : Nat → State → State
  | 0, s => s
  | n + 1, s => ticks n s.tick

/-! ## First facts -/

theorem step_of_halted {s : State} (h : s.halted = true) : s.step = s := by
  simp [step, h]

theorem run_of_halted {s : State} (h : s.halted = true) (n : Nat) : s.run n = s := by
  induction n with
  | zero => rfl
  | succ n ih => rw [run, step_of_halted h, ih]

theorem countDown_toNat (b : Byte) : (countDown b).toNat = b.toNat - 1 := by
  unfold countDown
  split
  · simp_all
  · have : b.toNat ≠ 0 := fun h => by simp_all [BitVec.toNat_eq]
    have one_le : 1 ≤ b := BitVec.le_def.2 (Nat.one_le_iff_ne_zero.2 this)
    rw [BitVec.toNat_sub_of_le one_le]
    rfl

end State

end Chip8
