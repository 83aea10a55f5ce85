import Chip8.Proofs.Decoding
import Chip8.Proofs.Run
import Chip8.Proofs.Sprite

/-!
# The glyphs are never overwritten

Three writers could reach the glyphs: a program that is loaded, the decimal digits of a register,
and the registers that are stored. Each refuses a range that touches them, and the store, which
puts back sixteen bytes however few registers it stores, puts back the bytes that it found.

A `Request` is whatever a host can ask of a machine: to load a program anywhere, to execute any
word, or one of the events of a run. A refused request leaves the machine as it was.

**`font_immutable`.** After any requests, whatever they were, the glyphs stand in memory as they did
at power-on. So on a machine that has not halted, pointing the index at the glyph of a register and
drawing it does not fault, and it flips the pixels of that glyph and no others.
-/

namespace Chip8

/-! ## Memories with the same glyphs -/

/-- Two memories have the same bytes where the glyphs stand. -/
def SameFont (m m' : Memory) : Prop := ∀ j, fontStart ≤ j → j < fontEnd → m'.read j = m.read j

namespace SameFont

variable {m m' m'' : Memory}

theorem refl (m : Memory) : SameFont m m := fun _ _ _ => rfl

theorem trans (h : SameFont m m') (h' : SameFont m' m'') : SameFont m m'' :=
  fun j hstart hend => (h' j hstart hend).trans (h j hstart hend)

theorem of_eq (h : m' = m) : SameFont m m' := h ▸ .refl m

theorem readAll (h : SameFont m m') :
    m'.readAll fontStart fontBytes.length = m.readAll fontStart fontBytes.length := by
  refine List.map_congr_left fun i hi => h _ (Nat.le_add_right ..) ?_
  rw [← fontStart_add_length]
  exact Nat.add_lt_add_left (List.mem_range.1 hi) _

theorem writeAll {a : Nat} {bs : List Byte} (h : touchesFont a bs.length = false) :
    SameFont m (m.writeAll a bs) := fun _ hstart hend =>
  Memory.read_writeAll_of_outside m (Nat.lt_trans hend (by decide))
    (outside_of_not_touchesFont h hstart hend)

end SameFont

/-! ## Requests -/

/-- What a host can ask of a machine. -/
inductive Request
  | load (rom : Rom) (address : HostValue)
  | execute (word : Int)
  | event (e : Event)

namespace State

variable {s t : State} {w : Word}

/-- The state after a request, which is the same if the request is refused. -/
def serve (s : State) : Request → State
  | .load rom address =>
    match s.loadRomAt rom address with
    | .ok t => t
    | .error _ => s
  | .execute word =>
    match s.executeInt word with
    | .ok t => t
    | .error _ => s
  | .event e => s.apply e

/-- The state after a sequence of requests. -/
def serveAll (s : State) (requests : List Request) : State := requests.foldl serve s

theorem sameFont_of_run {i : Instruction} (h : i.run s = .ok t) : SameFont s.memory t.memory :=
  fun _ hstart hend => Instruction.read_of_run h (Nat.lt_trans hend (by decide)) fun _ hn =>
    outside_of_not_touchesFont (Instruction.touchesFont_of_run h hn) hstart hend

theorem sameFont_execute (s : State) (w : Word) : SameFont s.memory (s.execute w).memory := by
  cases h : s.runWord w with
  | error f =>
    rw [execute_of_error h]
    exact .refl _
  | ok t =>
    obtain ⟨i, -, hi⟩ := runWord_eq_ok_iff.1 h
    have ht : SameFont s.advanced.memory t.memory := sameFont_of_run hi
    cases hs : s.halted with
    | false => rwa [execute_of_ok hs h]
    | true =>
      rw [execute_of_ok_of_halted hs h]
      exact .refl _

theorem sameFont_step (s : State) : SameFont s.memory s.step.memory := by
  generalize ht : s.step = t
  have hslot : Slot s t := ht ▸ slot_step s
  cases hslot with
  | stay | unfetched | fault => exact .refl _
  | poll => exact .of_eq (kept_pollKey s (p := .memory) (by decide))
  | run _ _ _ hi =>
    have hrun : SameFont s.advanced.memory t.memory := sameFont_of_run hi
    exact hrun

theorem sameFont_of_loadRomAt {rom : Rom} {address : HostValue}
    (h : s.loadRomAt rom address = .ok t) : SameFont s.memory t.memory := by
  obtain ⟨a, ha⟩ := loadRom_of_loadRomAt h
  obtain ⟨hnone, rfl⟩ := loadRom_eq_ok_iff.1 ha
  exact .writeAll (touchesFont_of_obstacle?_eq_none hnone)

theorem sameFont_of_executeInt {word : Int} (h : s.executeInt word = .ok t) :
    SameFont s.memory t.memory := by
  unfold executeInt at h
  split at h
  · cases h
    exact sameFont_execute s _
  · cases h

theorem sameFont_serve (s : State) (request : Request) :
    SameFont s.memory (s.serve request).memory := by
  cases request with
  | load rom address =>
    simp only [serve]
    split
    · exact sameFont_of_loadRomAt ‹_›
    · exact .refl _
  | execute word =>
    simp only [serve]
    split
    · exact sameFont_of_executeInt ‹_›
    · exact .refl _
  | event e =>
    cases e with
    | slot => exact sameFont_step s
    | tick | keys => exact .refl _

theorem sameFont_serveAll (s : State) (requests : List Request) :
    SameFont s.memory (s.serveAll requests).memory := by
  induction requests generalizing s with
  | nil => exact .refl _
  | cons request requests ih => exact (sameFont_serve s request).trans (ih (s.serve request))

end State

/-! ## Drawing a glyph -/

/-- The byte of a row of the glyph for a digit. -/
def glyphRow (digit : Nibble) (r : Nat) : Byte := fontBytes.getD (glyphHeight * digit.toNat + r) 0

/-- The glyph for a digit lights a pixel when its corner is in a column and a row of the screen. -/
def GlyphLights (digit : Nibble) (column row : Nat) (x : Fin screenWidth) (y : Fin screenHeight) :
    Prop :=
  ∃ r < glyphHeight, ∃ c < spriteWidth, (glyphRow digit r).getMsbD c = true ∧
    (column + c) % screenWidth = x ∧ (row + r) % screenHeight = y

namespace State

variable {s t : State} {w : Word}

/-- The state with its index at the glyph for a digit, behind the word that put it there. -/
def pointedAt (s : State) (digit : Nibble) : State :=
  { s.advanced with index := glyphAddress digit }

theorem execute_glyph (hs : s.halted = false) (hw : w &&& 0xF0FF = 0xF029) :
    s.execute w = s.pointedAt ((s.registers.get (wordX w)).setWidth 4) :=
  execute_of_ok hs (runWord_eq_ok_iff.2 ⟨_, decode?_eq_glyph_iff.2 ⟨hw, rfl⟩, rfl⟩)

theorem execute_draw (hs : s.halted = false) (hw : w &&& 0xF000 = 0xD000)
    (hmemory : s.leavesMemory (wordN w).toNat = false) :
    s.execute w = s.advanced.drawSprite (wordX w) (wordY w) (wordN w) :=
  execute_of_ok hs (runWord_eq_ok_iff.2 ⟨_, decode?_eq_draw_iff.2 ⟨hw, rfl, rfl, rfl⟩,
    guardRead_eq_ok_iff.2 ⟨hmemory, rfl⟩⟩)

theorem leavesMemory_pointedAt (s : State) (digit : Nibble) :
    (s.pointedAt digit).leavesMemory glyphHeight = false := by
  rw [Bool.eq_false_iff, Ne, leavesMemory_iff]
  have hdigit := digit.isLt
  show ¬ (0 < glyphHeight ∧ memorySize < (glyphAddress digit).toNat + glyphHeight)
  rw [toNat_glyphAddress]
  simp only [glyphHeight, fontStart, memorySize]
  omega

theorem read_glyph (hfont : s.memory.readAll fontStart fontBytes.length = fontBytes)
    (digit : Nibble) {r : Nat} (hr : r < glyphHeight) :
    s.memory.read ((glyphAddress digit).toNat + r) = glyphRow digit r := by
  have hdigit := digit.isLt
  have hlt : glyphHeight * digit.toNat + r < fontBytes.length := by
    show 5 * digit.toNat + r < 80
    simp only [glyphHeight] at hr
    omega
  have hcell := congrArg (fun bytes => bytes.getD (glyphHeight * digit.toNat + r) 0) hfont
  rw [toNat_glyphAddress, Nat.add_assoc, glyphRow, ← hcell]
  simp [Memory.readAll, hlt]

theorem pixel_drawSprite (s : State) (x y height : Nibble) (px : Fin screenWidth)
    (py : Fin screenHeight) :
    (s.drawSprite x y height).display.pixel px py ≠ s.display.pixel px py ↔
      (s.spriteLayer x y height).pixel px py = true := by
  show (s.display.xor (s.spriteLayer x y height)).pixel px py ≠ s.display.pixel px py ↔ _
  rw [Display.pixel_xor]
  cases s.display.pixel px py <;> cases (s.spriteLayer x y height).pixel px py <;> decide

/-- On a machine that has not halted and has the glyphs in memory, pointing the index at a glyph and
drawing it does not fault, and flips the pixels of the glyph. -/
theorem glyph_drawn (hfont : s.memory.readAll fontStart fontBytes.length = fontBytes)
    (hs : s.halted = false) {point draw : Word} (hpoint : point &&& 0xF0FF = 0xF029)
    (hdraw : draw &&& 0xF000 = 0xD000) (hheight : wordN draw = 5) :
    (s.execute point).halted = false ∧ ((s.execute point).execute draw).halted = false ∧
      ∀ px py, ((s.execute point).execute draw).display.pixel px py ≠ s.display.pixel px py ↔
        GlyphLights ((s.registers.get (wordX point)).setWidth 4)
          (s.registers.get (wordX draw)).toNat (s.registers.get (wordY draw)).toNat px py := by
  generalize hdigit : (s.registers.get (wordX point)).setWidth 4 = digit
  have hpointed : s.execute point = s.pointedAt digit := hdigit ▸ execute_glyph hs hpoint
  have hmemory : (s.pointedAt digit).leavesMemory (wordN draw).toNat = false :=
    hheight ▸ leavesMemory_pointedAt s digit
  have hdrawn : (s.pointedAt digit).execute draw =
      (s.pointedAt digit).advanced.drawSprite (wordX draw) (wordY draw) (wordN draw) :=
    execute_draw hs hdraw hmemory
  rw [hpointed, hdrawn]
  refine ⟨hs, hs, fun px py => (pixel_drawSprite ..).trans ?_⟩
  have hlayer : (s.pointedAt digit).advanced.spriteLayer (wordX draw) (wordY draw) (wordN draw) =
      .sprite (fun r => s.memory.read ((glyphAddress digit).toNat + r)) glyphHeight
        (s.registers.get (wordX draw)).toNat (s.registers.get (wordY draw)).toNat := by
    rw [hheight]
    rfl
  rw [hlayer, Display.pixel_sprite_iff (by decide), GlyphLights]
  refine exists_congr fun r => and_congr_right fun hr => ?_
  rw [read_glyph hfont digit hr]

end State

open State

/-- **The font is immutable**: no requests change it, and on whatever machine they leave, unless it
has halted, drawing the glyph of a register flips the pixels of the built-in glyph. -/
theorem font_immutable {source : RandomSource} {key : WordPair} {counter : Int}
    {fresh s : State} (hcreate : State.create source key counter = .ok fresh)
    {requests : List Request} (hs : fresh.serveAll requests = s) :
    s.memory.readAll fontStart fontBytes.length = fontBytes ∧
      (s.halted = false → ∀ point draw : Word, point &&& 0xF0FF = 0xF029 →
        draw &&& 0xF000 = 0xD000 → wordN draw = 5 →
          (s.execute point).halted = false ∧ ((s.execute point).execute draw).halted = false ∧
          ∀ px py, ((s.execute point).execute draw).display.pixel px py ≠ s.display.pixel px py ↔
            GlyphLights ((s.registers.get (wordX point)).setWidth 4)
              (s.registers.get (wordX draw)).toNat (s.registers.get (wordY draw)).toNat px py) := by
  have hfont : s.memory.readAll fontStart fontBytes.length = fontBytes := by
    obtain ⟨pc, -, rfl⟩ := create_eq_ok_iff.1 hcreate
    rw [← hs, (sameFont_serveAll _ requests).readAll]
    exact Memory.readAll_powerOn
  exact ⟨hfont, fun hrunning _ _ => glyph_drawn hfont hrunning⟩

/-- A machine just switched on. -/
def atPowerOn : State := .powerOn .keyed ⟨0, 0⟩ 0x200

/-- A program on the glyphs, which is refused, and a word that puts eleven in a register. -/
def refusedRequests : List Request := [.load [0xFF] (.int 0x50), .execute 0x6A0B, .event .tick]

theorem serveAll_refusedRequests : atPowerOn.serveAll refusedRequests =
    { atPowerOn with pc := 0x202, registers := atPowerOn.registers.set 0xA 0x0B } := by
  rfl

/-- The glyph for eleven still begins with a lit pixel, which appears where it is drawn. -/
theorem glyph_after_refusedRequests :
    (atPowerOn.serveAll refusedRequests).memory.readAll fontStart fontBytes.length = fontBytes ∧
      (((atPowerOn.serveAll refusedRequests).execute 0xFA29).execute 0xD005).halted = false ∧
      (((atPowerOn.serveAll refusedRequests).execute 0xFA29).execute 0xD005).display.pixel 0 0 ≠
        (atPowerOn.serveAll refusedRequests).display.pixel 0 0 := by
  have hcreate : State.create .keyed ⟨0, 0⟩ 0x200 = .ok atPowerOn := rfl
  obtain ⟨hfont, hdraw⟩ := font_immutable hcreate serveAll_refusedRequests
  obtain ⟨-, hrunning, hpixels⟩ := hdraw rfl 0xFA29 0xD005 (by decide) (by decide) (by decide)
  have hlights : GlyphLights 0xB 0 0 0 0 :=
    ⟨0, by decide, 0, by decide, by decide, by decide, by decide⟩
  rw [serveAll_refusedRequests]
  exact ⟨hfont, hrunning, (hpixels 0 0).2 hlights⟩

end Chip8
