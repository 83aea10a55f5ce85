import Chip8.Picture.Colour

/-!
# Colour models

What the numbers that an image file keeps for a pixel mean: a shade, a number in a table of colours,
parts of light or of ink, or a brightness and two differences of colour. `colour` is what such a
pixel looks like. Parts of a pixel that tell how much it covers are left out of account.
-/

namespace Chip8

/-- What the parts of a pixel mean. A model of any other name is known by its name only. -/
inductive ColourModel
  | bilevel
  | grey
  | greyAlpha
  | indexed
  | indexedAlpha
  | rgb
  | rgbx
  | rgba
  | cmyk
  | ycc
  | lab
  | whole
  | real
  | short
  | shortLittle
  | shortBig
  | other (name : String)
deriving DecidableEq, Repr

/-- The colours that numbers stand for: a list of their parts, or none if all are black. -/
abbrev ColourTable := Option (Array Byte)

namespace ColourModel

/-- The models with their names. -/
def names : List (ColourModel × String) := [
  (bilevel, "1"), (grey, "L"), (greyAlpha, "LA"), (indexed, "P"), (indexedAlpha, "PA"),
  (rgb, "RGB"), (rgbx, "RGBX"), (rgba, "RGBA"), (cmyk, "CMYK"), (ycc, "YCbCr"), (lab, "LAB"),
  (whole, "I"), (real, "F"), (short, "I;16"), (shortLittle, "I;16L"), (shortBig, "I;16B")]

/-- The name of a model. -/
def name : ColourModel → String
  | other name => name
  | model => ((names.find? (·.1 == model)).map (·.2)).getD ""

/-- The model with a name. -/
def ofName (name : String) : ColourModel :=
  ((names.find? (·.2 == name)).map (·.1)).getD (other name)

/-- The model is known by its name only. -/
def isOther : ColourModel → Bool
  | other _ => true
  | _ => false

/-- The number of parts of a pixel. -/
def partCount : ColourModel → Nat
  | greyAlpha | indexedAlpha => 2
  | rgb | ycc | lab => 3
  | rgbx | rgba | cmyk => 4
  | _ => 1

/-! ## Ink -/

/-- The product of two parts as a part, rounded. -/
def product (a b : Nat) : Nat :=
  let t := a * b + 128
  (t / 256 + t) / 256

/-- The light that is left by an ink and by black. -/
def light (ink black : Byte) : Byte :=
  let rest := 255 - black.toNat
  BitVec.ofNat 8 (rest - product ink.toNat rest)

/-! ## Brightness and differences of colour -/

/-- The bits behind the point of what a difference of colour adds. -/
def differenceBits : Nat := 6

/-- What a difference of colour adds, given a factor in parts of a hundred thousand. -/
def added (factor : Int) (difference : Byte) : Int :=
  (factor <<< differenceBits * (difference.toNat - 128) + 50000).tdiv 100000

/-- The nearest part to a number. -/
def part (v : Int) : Byte := BitVec.ofInt 8 (max 0 (min 255 v))

/-- The colour of a brightness and two differences. -/
def ofDifferences (y cb cr : Byte) : Colour :=
  let sum (v : Int) : Byte := part (y.toNat + v >>> differenceBits)
  ⟨sum (added 140200 cr), sum (added (-34414) cb + added (-71414) cr), sum (added 177200 cb)⟩

/-! ## Colours -/

/-- The colour of a number in a table, which holds all red parts, then all green and blue ones. -/
def lookUp (table : ColourTable) (index : Byte) : Colour :=
  match table with
  | none => ⟨0, 0, 0⟩
  | some parts =>
    let partAt (plane : Nat) : Byte := parts.getD (256 * plane + index.toNat) 0
    ⟨partAt 0, partAt 1, partAt 2⟩

/-- The colour of a pixel with the given parts. -/
def colour (model : ColourModel) (table : ColourTable) (parts : List Byte) : Colour :=
  match model, parts with
  | indexed, index :: _ | indexedAlpha, index :: _ => lookUp table index
  | rgb, [r, g, b] => ⟨r, g, b⟩
  | rgbx, [r, g, b, _] | rgba, [r, g, b, _] => ⟨r, g, b⟩
  | cmyk, [c, m, y, k] => ⟨light c k, light m k, light y k⟩
  | ycc, [y, cb, cr] => ofDifferences y cb cr
  | _, shade :: _ => .grey shade
  | _, [] => ⟨0, 0, 0⟩

theorem ofName_name_of_mem {model : ColourModel} {name : String} (h : (model, name) ∈ names) :
    ofName name = model := by
  simp only [names, List.mem_cons, Prod.mk.injEq, List.not_mem_nil, or_false] at h
  rcases h with ⟨rfl, rfl⟩ | ⟨rfl, rfl⟩ | ⟨rfl, rfl⟩ | ⟨rfl, rfl⟩ | ⟨rfl, rfl⟩ | ⟨rfl, rfl⟩ |
    ⟨rfl, rfl⟩ | ⟨rfl, rfl⟩ | ⟨rfl, rfl⟩ | ⟨rfl, rfl⟩ | ⟨rfl, rfl⟩ | ⟨rfl, rfl⟩ | ⟨rfl, rfl⟩ |
    ⟨rfl, rfl⟩ | ⟨rfl, rfl⟩ | ⟨rfl, rfl⟩ <;> rfl

end ColourModel

end Chip8
