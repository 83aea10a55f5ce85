import Chip8.Proofs.Drawing

/-!
# Sprites drawn one after another

A `Draw` says which bytes of memory are drawn and where. It is performed by carrying out a drawing
word on any state that has its index and has its place in the two registers that the word names; the
rest of the state does not matter, so between two draws a program may do what it likes as long as it
keeps the memory and the display (`Performed`).

On the display, a list of draws comes to the exclusive or with one picture, the overlay of its
sprites (`performed_iff`), and the overlay does not depend on the order (`overlay_perm`).

**`draws_commute`.** Every list of draws can be performed; all permutations of it lead from one
display to the same display; and performing a permutation of it afterwards brings the first display
back. Of a draw that is performed twice, the first flag tells whether the sprite meets a lit pixel
of the first display, and the second whether it meets a dark one.
-/

namespace Chip8

namespace Display

/-! ## Exclusive or of pictures -/

theorem xor_comm (d e : Display) : d.xor e = e.xor d :=
  ext_lit fun p => by rw [lit_xor, lit_xor, Bool.xor_comm]

theorem xor_assoc (d e f : Display) : (d.xor e).xor f = d.xor (e.xor f) :=
  ext_lit fun p => by simp only [lit_xor, Bool.xor_assoc]

theorem xor_left_comm (d e f : Display) : d.xor (e.xor f) = e.xor (d.xor f) := by
  rw [← xor_assoc, xor_comm d e, xor_assoc]

theorem xor_blank (d : Display) : d.xor blank = d :=
  ext_lit fun p => by rw [lit_xor, lit_blank, Bool.xor_false]

theorem xor_xor_self (d e : Display) : (d.xor e).xor e = d :=
  ext_lit fun p => by rw [lit_xor, lit_xor, Bool.xor_assoc, Bool.xor_self, Bool.xor_false]

end Display

/-! ## Draws -/

/-- A sprite in memory and where it is drawn: the address of its bytes, the column and the row of
its upper left corner, and the number of its rows, which are all in memory. -/
structure Draw where
  index : Word
  column : Byte
  row : Byte
  height : Nibble
  in_memory : height.toNat = 0 ∨ index.toNat + height.toNat ≤ memorySize

namespace Draw

/-- The sprite that is drawn when the memory is `m`. -/
def stamp (m : Memory) (a : Draw) : Stamp where
  bytes r := m.read (a.index.toNat + r)
  height := a.height
  column := a.column
  row := a.row

/-- A state with memory `m` is about to perform the draw by the word `w`. -/
structure Ready (a : Draw) (m : Memory) (s : State) (w : Word) : Prop where
  word : w &&& 0xF000 = 0xD000
  height : wordN w = a.height
  memory : s.memory = m
  index : s.index = a.index
  column : s.registers.get (wordX w) = a.column
  row : s.registers.get (wordY w) = a.row

variable {a : Draw} {m : Memory} {s t : State} {w : Word}

theorem Ready.stamp_eq (h : a.Ready m s w) :
    s.stamp (wordX w) (wordY w) (wordN w) = a.stamp m := by
  simp only [State.stamp, stamp, h.memory, h.index, h.height, h.column, h.row]

theorem Ready.drawn (h : a.Ready m s w) (ht : s.CarriesOut w t) : State.Drawn s (a.stamp m) t := by
  obtain ⟨-, rfl⟩ := (State.carriesOut_draw_iff h.word).1 ht
  rw [← h.stamp_eq]
  exact State.drawn_drawSprite ..

theorem Ready.exists_carriesOut (h : a.Ready m s w) : ∃ t, s.CarriesOut w t := by
  have hrange := a.in_memory
  rw [← h.height, ← h.index] at hrange
  exact ⟨_, (State.carriesOut_draw_iff h.word).2 ⟨State.leavesMemory_eq_false_iff.2 hrange, rfl⟩⟩

/-- A machine with any memory and display that is about to perform a draw. -/
def stage (a : Draw) (m : Memory) (d : Display) : State :=
  { State.powerOn .keyed ⟨0, 0⟩ 0x200 with
    memory := m
    display := d
    index := a.index
    registers := (Registers.zero.set 0 a.column).set 1 a.row }

theorem ready_stage (a : Draw) (m : Memory) (d : Display) :
    a.Ready m (a.stage m d) (0xD01#12 ++ a.height) := by
  -- The fields of the word are closed facts for each of the sixteen heights.
  obtain ⟨hw, hx, hy⟩ : (0xD01#12 ++ a.height : Word) &&& 0xF000 = 0xD000 ∧
      wordX (0xD01#12 ++ a.height) = 0 ∧ wordY (0xD01#12 ++ a.height) = 1 := by
    generalize a.height = n
    decide +revert
  refine ⟨hw, BitVec.extractLsb'_append_eq_right, rfl, rfl, ?_, ?_⟩
  · rw [hx]
    simp [stage, Registers.get_set]
  · rw [hy]
    simp [stage, Registers.get_set]

end Draw

/-! ## Lists of draws -/

/-- Performing a list of draws on a memory leads from one display to another. Each draw may begin on
any state that is ready for it and has the display that the one before it left. -/
inductive Performed (m : Memory) : List Draw → Display → Display → Prop
  | nil (d : Display) : Performed m [] d d
  | cons {a : Draw} {as : List Draw} {s t : State} {w : Word} {d e : Display} :
      a.Ready m s w → s.display = d → s.CarriesOut w t → Performed m as t.display e →
      Performed m (a :: as) d e

/-- The exclusive or of the sprites of a list of draws. -/
def overlay (m : Memory) (as : List Draw) : Display :=
  as.foldr (fun a d => (a.stamp m).picture.xor d) .blank

variable {m : Memory} {as bs : List Draw} {d e : Display}

theorem overlay_cons (m : Memory) (a : Draw) (as : List Draw) :
    overlay m (a :: as) = (a.stamp m).picture.xor (overlay m as) := rfl

theorem overlay_perm (h : as.Perm bs) : overlay m as = overlay m bs := by
  unfold overlay
  exact h.foldr_eq' (fun a _ b _ d => Display.xor_left_comm (b.stamp m).picture _ d) _

theorem Performed.eq_xor (h : Performed m as d e) : d.xor (overlay m as) = e := by
  induction h with
  | nil d => exact d.xor_blank
  | cons hready hd ht _ ih =>
    rw [overlay_cons, ← Display.xor_assoc, ← hd, ← (hready.drawn ht).display_eq]
    exact ih

theorem performed_xor (m : Memory) (as : List Draw) (d : Display) :
    Performed m as d (d.xor (overlay m as)) := by
  induction as generalizing d with
  | nil =>
    rw [overlay, List.foldr_nil, Display.xor_blank]
    exact .nil d
  | cons a as ih =>
    have hready := a.ready_stage m d
    obtain ⟨t, ht⟩ := hready.exists_carriesOut
    have hdisplay : t.display = d.xor (a.stamp m).picture := (hready.drawn ht).display_eq
    rw [overlay_cons, ← Display.xor_assoc, ← hdisplay]
    exact .cons hready rfl ht (ih t.display)

/-- **What a list of draws comes to**: whatever a program does between them, the exclusive or of the
display with the overlay. -/
theorem performed_iff : Performed m as d e ↔ d.xor (overlay m as) = e :=
  ⟨Performed.eq_xor, fun h => h ▸ performed_xor m as d⟩

/-! ## Flags -/

theorem State.Drawn.flag_eq_one_iff {a : Stamp} {s t : State} (h : s.Drawn a t) :
    t.registers.get flagRegister = 1 ↔ ∃ k p, a.FallsOn k p ∧ s.display.lit p = true := by
  have hstruck : (∃ p, t.display.lit p ≠ s.display.lit p ∧ s.display.lit p = true) ↔
      ∃ k p, a.FallsOn k p ∧ s.display.lit p = true := by
    simp only [h.flips]
    exact ⟨fun ⟨p, ⟨k, hk⟩, hp⟩ => ⟨k, p, hk, hp⟩, fun ⟨k, p, hk, hp⟩ => ⟨p, ⟨k, hk⟩, hp⟩⟩
  rw [← hstruck]
  rcases h.flag with ⟨hflag, hsome⟩ | ⟨hflag, hnone⟩
  · exact ⟨fun _ => hsome, fun _ => hflag⟩
  · rw [hflag]
    exact ⟨fun hone => absurd hone (by decide), fun hsome => absurd hsome hnone⟩

/-- Where a set bit falls, the drawing leaves a pixel lit that was dark. -/
theorem State.Drawn.lit_iff {a : Stamp} {s t : State} (h : s.Drawn a t) {k : Nat × Nat}
    {p : Display.Position} (hk : a.FallsOn k p) :
    t.display.lit p = true ↔ s.display.lit p = false := by
  have hne : t.display.lit p ≠ s.display.lit p := (h.flips p).2 ⟨k, hk⟩
  cases hs : s.display.lit p <;> simp_all

/-- **Drawing is an order-independent involution.** On a fixed memory every list of draws can be
performed, and none of them faults; two permutations of a list lead from one display to the same
display; a permutation of a list that is performed after it brings the first display back. When a
draw is performed twice, the first flag is one exactly if a set bit falls on a pixel that is lit at
the start, and the second exactly if one falls on a pixel that is dark at the start. -/
theorem draws_commute (m : Memory) :
    (∀ (a : Draw) (s : State) (w : Word), a.Ready m s w → ∃ t, s.CarriesOut w t) ∧
    (∀ (as : List Draw) (d : Display), ∃ e, Performed m as d e) ∧
    (∀ (as bs : List Draw) (d e f : Display), as.Perm bs →
      Performed m as d e → Performed m bs d f → e = f) ∧
    (∀ (as bs : List Draw) (d e f : Display), as.Perm bs →
      Performed m as d e → Performed m bs e f → f = d) ∧
    ∀ (a : Draw) (s t s' t' : State) (w w' : Word), a.Ready m s w → s.CarriesOut w t →
      a.Ready m s' w' → s'.display = t.display → s'.CarriesOut w' t' →
      (t.registers.get flagRegister = 1 ↔
        ∃ k p, (a.stamp m).FallsOn k p ∧ s.display.lit p = true) ∧
      (t'.registers.get flagRegister = 1 ↔
        ∃ k p, (a.stamp m).FallsOn k p ∧ s.display.lit p = false) := by
  refine ⟨fun a s w => Draw.Ready.exists_carriesOut, fun as d => ⟨_, performed_xor m as d⟩, ?_,
    ?_, ?_⟩
  · intro as bs d e f hperm he hf
    rw [← he.eq_xor, ← hf.eq_xor, overlay_perm hperm]
  · intro as bs d e f hperm he hf
    rw [← hf.eq_xor, ← he.eq_xor, overlay_perm hperm, Display.xor_xor_self]
  · intro a s t s' t' w w' hready ht hready' hdisplay ht'
    have hfirst := hready.drawn ht
    have hsecond := hready'.drawn ht'
    refine ⟨hfirst.flag_eq_one_iff, hsecond.flag_eq_one_iff.trans ?_⟩
    refine exists_congr fun k => exists_congr fun p => and_congr_right fun hk => ?_
    rw [hdisplay]
    exact hfirst.lit_iff hk

/-! ## Two sprites -/

/-- A memory with one byte of which the two highest bits are set. -/
def memoryOfPair : Memory := Memory.powerOn.writeAll 0x300 [0xC0]

/-- The pair of pixels at the right edge of the top row, so that the second one wraps around. -/
def drawAtEdge : Draw := ⟨0x300, 63, 0, 1, by decide⟩

/-- The pair of pixels in the upper left corner, which shares a pixel with the other. -/
def drawInCorner : Draw := ⟨0x300, 0, 0, 1, by decide⟩

/-- The two overlapping pairs in both orders, and one of them twice on a blank screen: only the
second time does it raise the flag. -/
theorem draws_overlapping :
    (∃ e, Performed memoryOfPair [drawAtEdge, drawInCorner] .blank e ∧
      Performed memoryOfPair [drawInCorner, drawAtEdge] .blank e ∧
      Performed memoryOfPair [drawInCorner, drawAtEdge] e .blank) ∧
    ∃ t t', (drawAtEdge.stage memoryOfPair .blank).CarriesOut 0xD011 t ∧
      (drawAtEdge.stage memoryOfPair t.display).CarriesOut 0xD011 t' ∧
      t.registers.get flagRegister ≠ 1 ∧ t'.registers.get flagRegister = 1 := by
  obtain ⟨hruns, hlists, horder, hrestores, hflags⟩ := draws_commute memoryOfPair
  have hperm : [drawAtEdge, drawInCorner].Perm [drawInCorner, drawAtEdge] := .swap ..
  constructor
  · obtain ⟨e, he⟩ := hlists [drawAtEdge, drawInCorner] .blank
    obtain ⟨f, hf⟩ := hlists [drawInCorner, drawAtEdge] .blank
    obtain ⟨g, hg⟩ := hlists [drawInCorner, drawAtEdge] e
    have hef := horder _ _ _ _ _ hperm he hf
    have hgd := hrestores _ _ _ _ _ hperm he hg
    subst hef hgd
    exact ⟨e, he, hf, hg⟩
  · have hready (d : Display) :
        drawAtEdge.Ready memoryOfPair (drawAtEdge.stage memoryOfPair d) 0xD011 :=
      drawAtEdge.ready_stage memoryOfPair d
    have hstage (d : Display) : (drawAtEdge.stage memoryOfPair d).display = d := rfl
    obtain ⟨t, ht⟩ := hruns _ _ _ (hready .blank)
    obtain ⟨t', ht'⟩ := hruns _ _ _ (hready t.display)
    obtain ⟨hfirst, hsecond⟩ := hflags _ _ _ _ _ _ _ (hready .blank) ht (hready t.display)
      (hstage _) ht'
    refine ⟨t, t', ht, ht', ?_, ?_⟩
    · rw [Ne, hfirst]
      rintro ⟨k, p, -, hlit⟩
      exact absurd hlit (by simp [hstage, Display.lit_blank])
    · refine hsecond.2 ⟨(0, 0), (63, 0), ⟨by decide, by decide, ?_, by decide⟩, ?_⟩
      · show (memoryOfPair.read 0x300).getLsbD 7 = true
        simp [memoryOfPair, Memory.read_writeAll, memorySize]
      · simp [hstage, Display.lit_blank]

end Chip8
