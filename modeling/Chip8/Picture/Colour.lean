import Chip8.HostNumber

/-!
# Colours and colour schemes

A colour is three bytes. A host gives it as three numbers, or as one for a shade of grey, and may
give each pixel a colour of its own. A scheme pairs the colour of lit pixels with that of dark ones.
-/

namespace Chip8

/-- A colour by its red, green and blue parts. -/
structure Colour where
  red : Byte
  green : Byte
  blue : Byte
deriving DecidableEq, Repr

namespace Colour

/-- A shade of grey. -/
def grey (b : Byte) : Colour := ⟨b, b, b⟩

/-- The colours of which every three bytes are one. -/
def triples : List Byte → List Colour
  | r :: g :: b :: bytes => ⟨r, g, b⟩ :: triples bytes
  | _ => []

/-! ## Colours from a host -/

/-- The number of parts of each colour in a list of such extents, of which outer ones may be one. -/
def partCount? : List Nat → Option Nat
  | [count] | [_, count] => some count
  | 1 :: extents => partCount? extents
  | _ => none

/-- The colours with so many parts each in bytes. -/
def ofParts? (count : Nat) (bytes : List Byte) : Option (List Colour) :=
  if count = 1 then some (bytes.map grey) else if count = 3 then some (triples bytes) else none

/--
The colours of a number of pixels that a host gives: the parts of one colour for all of them, or a
list with those of each. The parts are looked at first, and then how many there are.
-/
def ofHost (pixels : Nat) (parts : List HostValue) : Except Failure (List Colour) := do
  match (HostValue.list parts).arrayShape? with
  | none => .error .malformed
  | some extents =>
    let bytes ← (HostValue.list parts).leaves.mapM HostValue.toByte
    match (partCount? extents).bind fun count => ofParts? count bytes with
    | some [c] => return List.replicate pixels c
    | some colours => if colours.length = pixels then return colours else .error .malformed
    | none => .error .malformed

/-- The red, green and blue parts as numbers. -/
def toList (c : Colour) : List Int := [c.red.toNat, c.green.toNat, c.blue.toNat]

/-- The parts of a colour as a host gives them. -/
def parts (c : Colour) : List HostValue := c.toList.map .int

theorem toByte_int_toNat (b : Byte) : (HostValue.int b.toNat).toByte = .ok b := by
  have hlt := b.isLt
  have hbyte : byteOfInt? b.toNat = some b := by
    simp only [byteOfInt?]
    rw [if_pos (by omega)]
    simp [BitVec.ofInt_natCast]
  have hnumber : (HostValue.int b.toNat).toNumber = .ok (b.toNat : Int) := rfl
  simp [HostValue.toByte, hnumber, hbyte, bind, Except.bind, pure, Except.pure]

theorem ofHost_parts (pixels : Nat) (c : Colour) :
    ofHost pixels c.parts = .ok (List.replicate pixels c) := by
  have hshape : (HostValue.list c.parts).arrayShape? = some [3] := by
    simp [HostValue.arrayShape?, HostValue.shape?, HostValue.commonShape?, parts, toList,
      HostValue.maxNesting]
  have hleaves : (HostValue.list c.parts).leaves = c.parts := rfl
  have hbytes : c.parts.mapM HostValue.toByte = .ok [c.red, c.green, c.blue] := by
    simp [parts, toList, toByte_int_toNat, bind, Except.bind, pure, Except.pure]
  unfold ofHost
  rw [hshape, hleaves]
  simp [hbytes, partCount?, ofParts?, triples, bind, Except.bind, pure, Except.pure]

end Colour

/-- Green. -/
def defaultOnColour : Colour := ⟨0, 255, 0⟩

/-- Black. -/
def defaultOffColour : Colour := ⟨0, 0, 0⟩

/-- A named pair of colours. -/
structure ColourScheme where
  name : String
  on : Colour
  off : Colour
deriving DecidableEq, Repr

namespace ColourScheme

/-- Green on black. -/
def classic : ColourScheme := ⟨"classic", ⟨0, 255, 0⟩, ⟨0, 0, 0⟩⟩

/-- The schemes in the order in which they are listed. -/
def all : List ColourScheme := [
  classic,
  ⟨"amber", ⟨255, 176, 0⟩, ⟨0, 0, 0⟩⟩,
  ⟨"white", ⟨255, 255, 255⟩, ⟨0, 0, 0⟩⟩,
  ⟨"blue", ⟨0, 255, 255⟩, ⟨0, 0, 64⟩⟩,
  ⟨"retro", ⟨255, 255, 0⟩, ⟨64, 0, 64⟩⟩]

/-- The names of the schemes. -/
def names : List String := all.map (·.name)

/-- The scheme with a name. -/
def find (name : Text) : Except Failure ColourScheme :=
  match all.find? fun scheme => Text.ofString scheme.name == name with
  | some scheme => .ok scheme
  | none => .error (.unknownScheme name names)

end ColourScheme

end Chip8
