import Chip8.Instruction
import Chip8.State

/-!
# Executing one instruction

`Instruction.run` carries out an instruction on a state whose program counter already stands behind
it, or gives the fault that prevents it. `State.execute` moves the program counter, runs the word
and records a fault on the state as it was before: an instruction that faults changes nothing but
the status.

Flag-producing operations write their result first and the flag second, so the flag wins when the
result register is the flag register. The bitwise operations leave the flag alone, and the shifts
work on the first register in place.
-/

namespace Chip8

/-! ## Tests and arithmetic -/

/-- The test of a skip instruction holds. -/
def Condition.holds (s : State) : Condition → Bool
  | eqByte x k => s.registers.get x == k
  | neByte x k => s.registers.get x != k
  | eqReg x y => s.registers.get x == s.registers.get y
  | neReg x y => s.registers.get x != s.registers.get y
  | keyDown x => s.keypad.isDown ((s.registers.get x).setWidth 4)
  | keyUp x => !s.keypad.isDown ((s.registers.get x).setWidth 4)

/-- The byte that an operation puts in its first register. -/
def AluOp.result (a b : Byte) : AluOp → Byte
  | copy => b
  | or => a ||| b
  | and => a &&& b
  | xor => a ^^^ b
  | add => a + b
  | sub => a - b
  | shiftRight => a >>> 1
  | subFrom => b - a
  | shiftLeft => a <<< 1

/-- The flag that an operation sets, if it sets one: carry, no borrow, or the bit shifted out. -/
def AluOp.flag? (a b : Byte) : AluOp → Option Bool
  | copy | or | and | xor => none
  | add => some (255 < a.toNat + b.toNat)
  | sub => some (b ≤ a)
  | shiftRight => some (a.getLsbD 0)
  | subFrom => some (a ≤ b)
  | shiftLeft => some a.msb

/-- The registers after an operation on two of them. -/
def Registers.alu (v : Registers) (op : AluOp) (x y : Nibble) : Registers :=
  let written := v.set x (op.result (v.get x) (v.get y))
  match op.flag? (v.get x) (v.get y) with
  | some flag => written.setFlag flag
  | none => written

/-- The hundreds, tens and units of a byte. -/
def decimalDigits (b : Byte) : List Byte := [b / 100, b / 10 % 10, b % 10]

namespace State

/-! ## Memory access -/

/-- The range of `n` bytes from the index on leaves memory. -/
def leavesMemory (s : State) (n : Nat) : Bool := 0 < n && memorySize < s.index.toNat + n

/-- Go on if the `n` bytes from the index on may be read. -/
def guardRead (s : State) (n : Nat) (next : State) : Except Fault State :=
  if s.leavesMemory n then
    .error (.memoryOutOfBounds (BitVec.ofNat 16 (max s.index.toNat memorySize)))
  else .ok next

/-- Go on if the `n` bytes from the index on may be written: the font may not. -/
def guardWrite (s : State) (n : Nat) (next : State) : Except Fault State :=
  if touchesFont s.index.toNat n then
    .error (.memoryOutOfBounds (BitVec.ofNat 16 (max s.index.toNat fontStart)))
  else s.guardRead n next

/-- Sixteen bytes for the cells from the index on: registers up to `x`, then what is there. -/
def storeWindow (s : State) (x : Nibble) : List Byte :=
  (List.range registerCount).map fun i =>
    if i ≤ x.toNat then s.registers.get (BitVec.ofNat 4 i) else s.memory.read (s.index.toNat + i)

/-- The registers after loading those up to `x` from the cells from the index on. -/
def loadWindow (s : State) (x : Nibble) : Registers :=
  .ofFn fun i =>
    if i ≤ x then s.memory.read (s.index.toNat + i.toNat) else s.registers.get i

/-! ## Drawing -/

/-- The picture of the sprite at the index, placed where two registers say. -/
def spriteLayer (s : State) (x y height : Nibble) : Display :=
  .sprite (fun r => s.memory.read (s.index.toNat + r)) height.toNat (s.registers.get x).toNat
    (s.registers.get y).toNat

/-- Flip the pixels of the sprite; the flag tells whether one of them was lit. -/
def drawSprite (s : State) (x y height : Nibble) : State :=
  let layer := s.spriteLayer x y height
  { s with
    display := s.display.xor layer
    registers := s.registers.setFlag (s.display.overlaps layer) }

/-! ## Waiting for a key -/

/-- Put a byte in the register with a number; there is none beyond the sixteenth. -/
def setNumbered (v : Registers) (number : Byte) (b : Byte) : Registers :=
  if number.toNat < registerCount then v.set (number.setWidth 4) b else v

/--
Poll the keypad during a wait. A key counts if it is down and has been up at some poll since the
wait began; the lowest such key goes to the waiting register and ends the wait.
-/
def pollKey (s : State) : State :=
  let held := s.wait.held.inter s.keypad
  match (s.keypad.without held).lowest? with
  | some key =>
    { s with
      registers := setNumbered s.registers s.wait.register (key.setWidth 8)
      wait := { s.wait with pending := false, held } }
  | none => { s with wait := { s.wait with held } }

end State

/-! ## Instructions -/

/-- Carry out an instruction on a state whose program counter stands behind it. -/
def Instruction.run (s : State) : Instruction → Except Fault State
  | clearScreen => .ok { s with display := .blank }
  | ret =>
    if s.stack.isEmpty then .error .stackUnderflow
    else
      let (stack, address) := s.stack.pop
      .ok { s with stack, pc := address }
  | jump target => .ok { s with pc := target.setWidth 16 }
  | call target =>
    if s.stack.isFull then .error .stackOverflow
    else .ok { s with stack := s.stack.push s.pc, pc := target.setWidth 16 }
  | skipIf condition => .ok (if condition.holds s then { s with pc := s.pc + 2 } else s)
  | loadByte x k => .ok { s with registers := s.registers.set x k }
  | addByte x k => .ok { s with registers := s.registers.set x (s.registers.get x + k) }
  | alu op x y => .ok { s with registers := s.registers.alu op x y }
  | loadIndex address => .ok { s with index := address.setWidth 16 }
  | jumpOffset x base =>
    .ok { s with pc := base.setWidth 16 + (s.registers.get x).setWidth 16 }
  | random x mask =>
    let (byte, key) := s.source.next s.key
    .ok { s with registers := s.registers.set x (byte &&& mask), key }
  | draw x y height => s.guardRead height.toNat (s.drawSprite x y height)
  | readDelay x => .ok { s with registers := s.registers.set x s.delay }
  | waitKey x => .ok { s with wait := ⟨true, x.setWidth 8, s.keypad⟩ }
  | setDelay x => .ok { s with delay := s.registers.get x }
  | setSound x => .ok { s with sound := s.registers.get x }
  | addIndex x =>
    let sum := s.index.toNat + (s.registers.get x).toNat
    .ok { s with
      index := BitVec.ofNat 16 sum &&& addressMask
      registers := s.registers.setFlag (addressMask.toNat < sum) }
  | glyph x => .ok { s with index := glyphAddress ((s.registers.get x).setWidth 4) }
  | decimal x =>
    s.guardWrite 3
      { s with memory := s.memory.writeAll s.index.toNat (decimalDigits (s.registers.get x)) }
  | store x =>
    s.guardWrite (x.toNat + 1)
      { s with memory := s.memory.writeAll s.index.toNat (s.storeWindow x) }
  | load x => s.guardRead (x.toNat + 1) { s with registers := s.loadWindow x }

namespace State

/-- Move the program counter behind a word and carry the word out. -/
def runWord (s : State) (w : Word) : Except Fault State :=
  match decode? w with
  | some i => i.run { s with pc := s.pc + 2 }
  | none => .error .invalidOpcode

/--
Execute a word. If it faults, the state is as before but for the status. Executing a word on a
halted state keeps the fault's code and address and records the new place and word.
-/
def execute (s : State) (w : Word) : State :=
  match s.runWord w with
  | .ok next =>
    if next.halted then s.withStatus ⟨next.status.code, s.pc, w, next.status.address⟩ else next
  | .error f => s.withStatus (.ofFault f s.pc w)

/-- Execute a word from the host. -/
def executeInt (s : State) (word : Int) : Except Failure State :=
  match wordOfInt? word with
  | some w => .ok (s.execute w)
  | none => .error .outOfRange

end State

end Chip8
