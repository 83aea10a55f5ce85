import Chip8.HostNumber
import Chip8.State

/-!
# Loading a program

A program is a list of bytes that is copied into memory at an address, where execution then starts.
It is refused if the address is outside memory, if it does not fit behind the address, or if one of
its bytes would fall on the font, in this order.

A host may give the address as any number. At an address that is a double only an empty program can
be loaded.
-/

namespace Chip8

/-- The bytes of a program. -/
abbrev Rom := List Byte

/-- Why a program cannot be loaded at an address. -/
def Rom.obstacle? (rom : Rom) (address : Int) : Option Failure :=
  if address < 0 ∨ memorySize ≤ address then some (.memoryOutOfBounds address none)
  else
    let start := address.toNat
    let capacity := memorySize - start
    if capacity < rom.length then some (.romTooLarge rom.length (.int capacity))
    else if touchesFont start rom.length then
      some (.memoryOutOfBounds (max start fontStart : Nat) none)
    else none

/-- Copy a program into memory and continue at its start. -/
def State.loadRom (s : State) (rom : Rom) (address : Int) : Except Failure State :=
  match rom.obstacle? address with
  | some failure => .error failure
  | none =>
    .ok { s with
      memory := s.memory.writeAll address.toNat rom
      pc := BitVec.ofInt 16 address }

/-- Why a program cannot be loaded at an address that is a double. -/
def Rom.obstacleAtDouble? (rom : Rom) (address : Float) : Option Failure :=
  let size := rom.length.toFloat
  let capacity := memorySize.toFloat - address
  if !(0.0 ≤ address && address < memorySize.toFloat) then some .malformed
  else if capacity < size then some (.romTooLarge rom.length (.float capacity))
  else if rom.isEmpty then none
  else if address < fontEnd.toFloat && fontStart.toFloat < address + size then
    some (if fontStart.toFloat ≤ address then .malformed else .memoryOutOfBounds fontStart none)
  else some .wrongType

/-- Copy a program into memory at an address from the host and continue there. -/
def State.loadRomAt (s : State) (rom : Rom) (address : HostValue) : Except Failure State :=
  match address with
  | .float x =>
    match rom.obstacleAtDouble? x with
    | some failure => .error failure
    | none => s.loadRom rom (HostNumber.float x).truncate
  | address =>
    match address.toInt? with
    | some address => s.loadRom rom address
    | none => .error .wrongType

theorem State.loadRomAt_int (s : State) (rom : Rom) (address : Int) :
    s.loadRomAt rom (.int address) = s.loadRom rom address := rfl

end Chip8
