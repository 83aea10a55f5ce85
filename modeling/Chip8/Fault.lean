import Chip8.Failure
import Chip8.Word

/-!
# Faults and the status record

A `Fault` is why an instruction could not be carried out. The state of the machine keeps a `Status`:
a fault's code and address together with the place and word of the instruction. Code zero means that
nothing has gone wrong; any other code halts the machine.

`Failure.ofStatus` reads a status back as the failure that it records.
-/

namespace Chip8

/-- Why an instruction could not be carried out. -/
inductive Fault
  | invalidOpcode
  | stackOverflow
  | stackUnderflow
  | memoryOutOfBounds (address : Word)
deriving DecidableEq, Repr

namespace Fault

/-- The number that a status records for a fault. -/
def code : Fault → Byte
  | invalidOpcode => 1
  | stackOverflow => 2
  | stackUnderflow => 3
  | memoryOutOfBounds _ => 4

/-- The address that a status records for a fault; zero unless the fault has one. -/
def address : Fault → Word
  | memoryOutOfBounds a => a
  | _ => 0

/-- The names of the fault codes from zero on. -/
def codeNames : List String :=
  ["NONE", "INVALID_OPCODE", "STACK_OVERFLOW", "STACK_UNDERFLOW", "MEMORY_OUT_OF_BOUNDS"]

theorem code_ne_zero (f : Fault) : f.code ≠ 0 := by
  cases f <;> simp [code]

end Fault

/-- What the machine remembers of the fault that halted it. -/
structure Status where
  code : Byte
  pc : Word
  word : Word
  address : Word
deriving DecidableEq, Repr

namespace Status

/-- Nothing has gone wrong. -/
def clear : Status := ⟨0, 0, 0, 0⟩

/-- The record of a fault of the instruction `word` at `pc`. -/
def ofFault (f : Fault) (pc word : Word) : Status := ⟨f.code, pc, word, f.address⟩

end Status

/-- The failure that a status stands for, none if its code is zero. -/
def Failure.ofStatus (code word pc address : Int) : Except Failure (Option Failure) :=
  if code = 0 then .ok none
  else if code = 1 then .ok (some (.invalidOpcode word pc))
  else if code = 2 then .ok (some (.stackOverflow pc))
  else if code = 3 then .ok (some (.stackUnderflow pc))
  else if code = 4 then .ok (some (.memoryOutOfBounds address (some pc)))
  else .error (.unknownFaultCode code)

/-- The failure that the status of a machine stands for. -/
def Status.failure (s : Status) : Except Failure (Option Failure) :=
  Failure.ofStatus s.code.toNat s.word.toNat s.pc.toNat s.address.toNat

end Chip8
