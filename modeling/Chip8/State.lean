import Chip8.CallStack
import Chip8.Display
import Chip8.Fault
import Chip8.Font
import Chip8.Keypad
import Chip8.Random.Source
import Chip8.Registers

/-!
# The state of the virtual machine

Everything that an instruction can see or change. A state whose status has a code other than zero is
halted. A state that waits for a key keeps the number of the register that will receive it and the
keys that were already down when the wait began and have not been let up since.
-/

namespace Chip8

/-- The address at which programs are loaded unless another is given. -/
abbrev programStart : Int := 0x200

/-- A wait for a key, pending or not. -/
structure KeyWait where
  pending : Bool
  register : Byte
  held : Keypad
deriving DecidableEq

/-- The state of the virtual machine. -/
structure State where
  memory : Memory
  pc : Word
  index : Word
  registers : Registers
  stack : CallStack
  delay : Byte
  sound : Byte
  display : Display
  keypad : Keypad
  wait : KeyWait
  status : Status
  source : RandomSource
  key : WordPair

namespace State

/-- The state at power-on, with a source of random bytes and its key. -/
def powerOn (source : RandomSource) (key : WordPair) (pc : Word) : State where
  memory := .powerOn
  pc := pc
  index := 0
  registers := .zero
  stack := .empty
  delay := 0
  sound := 0
  display := .blank
  keypad := .none
  wait := ⟨false, 0, .none⟩
  status := .clear
  source := source
  key := key

/-- The state at power-on for a program counter from the host. -/
def create (source : RandomSource) (key : WordPair) (pc : Int) : Except Failure State :=
  match counterOfInt? pc with
  | some pc => .ok (powerOn source key pc)
  | none => .error .outOfRange

/-- A fault has been recorded; the machine does nothing more. -/
def halted (s : State) : Bool := s.status.code != 0

/-- The same state with a status in place of its own. -/
def withStatus (s : State) (status : Status) : State := { s with status }

/-- The failure that the state records, if any. -/
def failure (s : State) : Except Failure (Option Failure) := s.status.failure

/-- The beeper is sounding. -/
def soundActive (s : State) : Bool := s.sound != 0

end State

end Chip8
