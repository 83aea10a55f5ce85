import Chip8.Decimal.Binary
import Chip8.Fault
import Chip8.HostNumber

/-!
# Fatal errors from values

A host may make a fatal error of any kind from values of its own. The error keeps the values as its
attributes and shows them in its message, where some have to be whole numbers, and none of those
that are shown in decimal may be too long. `Report.ofStatus`
makes the error that a fault code stands for, if the host gives the code and the rest of a status as
values; such an error has the message of `Failure.ofStatus`.
-/

namespace Chip8

/-- The kinds of fatal errors. -/
inductive FatalKind
  | invalidOpcode
  | stackOverflow
  | stackUnderflow
  | memoryOutOfBounds
  | romTooLarge
  | invalidKey
deriving DecidableEq, Repr

/-- A fatal error with the values that it was made from. -/
structure Report where
  kind : FatalKind
  message : Text
  attributes : List (String × HostValue)

namespace Report

/-- The whole number that a message shows in hexadecimal if there is one. -/
def hexNumber? (v : HostValue) : Except Failure (Option Int) :=
  match v with
  | .null => .ok none
  | v => v.hexNumber.map some

/-- The error of a kind that is made from values. -/
def make (kind : FatalKind) (values : List HostValue) : Except Failure Report :=
  match kind, values with
  | .invalidOpcode, [word, address] => do
    let message := (Failure.invalidOpcode (← word.hexNumber) (← address.hexNumber)).message
    return ⟨kind, message, [("word", word), ("address", address)]⟩
  | .stackOverflow, [address] => do
    let message := (Failure.stackOverflow (← address.hexNumber)).message
    return ⟨kind, message, [("address", address)]⟩
  | .stackUnderflow, [address] => do
    let message := (Failure.stackUnderflow (← address.hexNumber)).message
    return ⟨kind, message, [("address", address)]⟩
  | .memoryOutOfBounds, address :: rest => do
    let pc := rest.headD .null
    if 1 < rest.length then .error .wrongType
    let message := (Failure.memoryOutOfBounds (← address.hexNumber) (← hexNumber? pc)).message
    return ⟨kind, message, [("address", address), ("pc", pc)]⟩
  | .romTooLarge, [size, capacity] =>
    if size.fitsMessage && capacity.fitsMessage then
      let message := Failure.romTooLargeMessage size.plain capacity.plain
      .ok ⟨kind, message, [("size", size), ("capacity", capacity)]⟩
    else .error .malformed
  | .invalidKey, [key] =>
    if key.fitsMessage then .ok ⟨kind, (Failure.invalidKey key).message, [("key", key)]⟩
    else .error .malformed
  | _, _ => .error .wrongType

/-- The code that a value is equal to. -/
def code (v : HostValue) : Except Failure Int :=
  match v with
  | .float x =>
    match Decimal.truncate? x with
    | some n => if x == Float.ofInt n then .ok n else .error .malformed
    | none => .error .malformed
  | v =>
    match v.toInt? with
    | some n => .ok n
    | none => .error .malformed

/-- The error that a status stands for whose parts are values, none if its code is zero. -/
def ofStatus (status word pc address : HostValue) : Except Failure (Option Report) := do
  match ← Failure.ofStatus (← code status) 0 0 0 with
  | none => return none
  | some (.invalidOpcode ..) => return some (← make .invalidOpcode [word, pc])
  | some (.stackOverflow _) => return some (← make .stackOverflow [pc])
  | some (.stackUnderflow _) => return some (← make .stackUnderflow [pc])
  | some _ => return some (← make .memoryOutOfBounds [address, pc])

end Report

end Chip8
