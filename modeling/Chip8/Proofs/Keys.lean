import Chip8.Proofs.Halt

/-!
# The last word on a key

A host puts keys down and lets them up, replaces all sixteen at once, or has the machine start over,
which lets all of them up. Each of these has something to say of some keys (`Operation.word?`),
unless it is refused, and all that is said of a key over many operations is `said`. Operations that
run the machine say nothing: instructions look at the keypad, and none writes to it.

**`last_word_holds`** says that a key is as the last word on it has it, whatever else a host and a
program do in between, and that input is refused exactly when it names no key or has not sixteen
states, in which case the whole session stays as it is. The failure shows the number that is no key,
if it has not too many digits for a message (`long_key_not_shown`).
-/

namespace Chip8

namespace HostValue

/-- The value names a key: a number names the key of this number, and true names all keys. -/
def names (key : Nibble) : HostValue → Bool
  | int v => v == key.toNat
  | bool b => b
  | _ => false

theorem arrayShape?_bools (states : List Bool) :
    (list (states.map bool)).arrayShape? = some [states.length] := by
  have hcommon : commonShape? (states.map bool) = some [] := by
    induction states with
    | nil => rfl
    | cons b states ih =>
      cases states with
      | nil => rfl
      | cons b' states => simp_all [commonShape?, shape?]
  simp [arrayShape?, shape?, hcommon, maxNesting]

theorem length_of_arrayShape? {values : List HostValue} {n : Nat}
    (h : (list values).arrayShape? = some [n]) : values.length = n := by
  obtain ⟨hshape, -⟩ := Option.filter_eq_some_iff.1 h
  obtain ⟨extents, -, hextents⟩ := Option.map_eq_some_iff.1 hshape
  exact (List.cons_eq_cons.1 hextents).1

end HostValue

namespace State

/-! ## Running the machine -/

theorem keypad_run (s : State) (n : Nat) : (s.run n).keypad = s.keypad := by
  induction n generalizing s with
  | zero => rfl
  | succ n ih => exact (ih s.step).trans (keypad_step s)

theorem keypad_ticks (s : State) (n : Nat) : (s.ticks n).keypad = s.keypad :=
  agreeBut_ticks s n .keypad (by decide)

end State

namespace Session

variable {σ : Type} {s : Session σ} {host : Host σ}

/-- Frames leave the keypad as it is. -/
theorem frameStable_keypad (k : Keypad) :
    FrameStable fun s : Session σ => s.machine.state.keypad = k where
  world _ hs := hs
  clock _ _ hs := hs
  count _ hs := hs
  frame _ hs := hs
  sleep _ hs := hs
  ticks n hs := by
    rw [machine_synced]
    exact (State.keypad_ticks _ n).trans hs
  slots n hs _ := by
    rw [machine_synced]
    exact (State.keypad_run _ n).trans hs
  fault n _ hs _ _ := (State.keypad_run _ n).trans hs

/-! ## Input -/

section Input

variable {v : HostValue} {down : Bool} {k k' : Keypad} {key : Nibble} {keys : HostValue}
  {states : List Bool}

/-- The key with a number is the one that the number names. -/
theorem ofInt_beq_eq_names {n : Int} (h : 0 ≤ n ∧ n < keyCount) (key : Nibble) :
    (BitVec.ofInt 4 n == key) = (HostValue.int n).names key := by
  rw [HostValue.names, Bool.eq_iff_iff, beq_iff_eq, beq_iff_eq]
  constructor
  · rintro rfl
    have hsize : ((2 ^ 4 : Nat) : Int) = keyCount := rfl
    rw [BitVec.toNat_ofInt, hsize, Int.emod_eq_of_lt h.1 h.2, Int.toNat_of_nonneg h.1]
  · rintro rfl
    rw [BitVec.ofInt_natCast, BitVec.ofNat_toNat, BitVec.setWidth_eq]

theorem isDown_of_setNamed (h : setNamed v down k = .ok k') (key : Nibble) :
    k'.isDown key = if v.names key then down else k.isDown key := by
  cases v with
  | bool b =>
    cases b with
    | true =>
      obtain rfl := Except.ok.inj h
      cases down
      · exact Keypad.isDown_none key
      · exact Keypad.isDown_all key
    | false =>
      obtain rfl := Except.ok.inj h
      rfl
  | int n =>
    simp only [setNamed] at h
    split at h
    · rename_i hn
      obtain rfl := Except.ok.inj h
      rw [← ofInt_beq_eq_names hn]
      cases down
      · simp only [Bool.false_eq_true, if_false, Keypad.isDown_release, bne]
        cases BitVec.ofInt 4 n == key <;> simp
      · simp only [if_true, Keypad.isDown_press]
        cases BitVec.ofInt 4 n == key <;> simp
    · cases h
  | null | float x | text t | list values | record fields => cases h

theorem setNamed_of_bounds {n : Int} (h : 0 ≤ n ∧ n < keyCount) (down : Bool) (k : Keypad) :
    ∃ k', setNamed (.int n) down k = .ok k' := ⟨_, if_pos h⟩

theorem showing_int (failure : HostValue → Failure) (n : Int) : Failure.showing failure (.int n) =
    if Text.digitCount n ≤ Text.maxDigits then failure (.int n) else .malformed := by
  rw [Failure.showing, HostValue.fitsMessage]
  simp only [decide_eq_true_eq]

theorem setNamed_of_not_bounds {n : Int} (h : ¬(0 ≤ n ∧ n < keyCount)) (down : Bool)
    (k : Keypad) : setNamed (.int n) down k =
      .error (if Text.digitCount n ≤ Text.maxDigits then .invalidKey (.int n) else .malformed) := by
  rw [← showing_int .invalidKey]
  exact if_neg h

theorem exists_setNamed_bool (b down : Bool) (k : Keypad) :
    ∃ k', setNamed (.bool b) down k = .ok k' := by
  cases b <;> exact ⟨_, rfl⟩

theorem of_keyStates_eq_ok (h : keyStates keys = .ok states) :
    ∃ values, keys.elements? = some values ∧ values.length = keyCount ∧
      values.map (·.isTruthy) = states := by
  unfold keyStates at h
  split at h
  · cases h
  · rename_i values hvalues
    split at h
    · cases h
    · rename_i extents hextents
      split at h
      · rename_i hcount
        subst hcount
        exact ⟨values, hvalues, HostValue.length_of_arrayShape? hextents, Except.ok.inj h⟩
      · cases h

theorem keyStates_bools (states : List Bool) :
    keyStates (.list (states.map .bool)) =
      if states.length = keyCount then .ok states else .error (.wrongKeyCount states.length) := by
  have hmap : (states.map HostValue.bool).map (·.isTruthy) = states := by
    simp [Function.comp_def, HostValue.isTruthy]
  simp [keyStates, HostValue.elements?, HostValue.arrayShape?_bools, hmap]

end Input

/-! ## What operations say of a key -/

/-- What an operation says of a key, if it says anything and is not refused. Starting over lets all
keys up, and of a list of states it is the one in the place of the key that counts. -/
def Operation.word? (key : Nibble) : Operation σ → Option Bool
  | .load _ | .loadFile _ _ | .reset => some false
  | .press v => if v.names key then some true else none
  | .release v => if v.names key then some false else none
  | .setKeys keys => (keys.elements?.bind (·[key.toNat]?)).map (·.isTruthy)
  | .cycle | .tick _ | .runFrame _ | .run _ _ => none

/-- The operation is not refused. A load counts once its program is in place, although it still
fails if the load address is of a kind that cannot be shown in the message about it. -/
def Operation.isAccepted (host : Host σ) (s : Session σ) : Operation σ → Bool
  | .load rom | .loadFile _ (.ok rom) => (initialState (s.withRom rom).machine).isOk
  | op => (failure? ((op.action host).run s)).isNone

/-- What an operation says of a key in a session. -/
def Operation.says? (host : Host σ) (s : Session σ) (key : Nibble) (op : Operation σ) :
    Option Bool := if op.isAccepted host s then op.word? key else none

/-- What was said of a key by operations one after the other. -/
def said (host : Host σ) (key : Nibble) : Session σ → List (Operation σ) → List Bool
  | _, [] => []
  | s, op :: ops =>
    (op.says? host s key).toList ++ said host key (left ((op.action host).run s)) ops

/-- Whether a key is down. -/
def isDown (s : Session σ) (key : Nibble) : Bool := s.machine.state.keypad.isDown key

/-! ## One operation -/

theorem isDown_reset (key : Nibble) : (left ((reset host).run s)).isDown key =
    if (initialState s.machine).isOk then false else s.isDown key := by
  cases h : initialState s.machine with
  | error f =>
    rw [run_reset_of_error h]
    rfl
  | ok state =>
    obtain ⟨_, _, _, _, rfl⟩ := eq_powerOn_of_initialState h
    rw [run_reset h, left, isDown, machine_restarted]
    exact Keypad.isDown_none key

theorem isDown_load (rom : Rom) (key : Nibble) : (left ((load host rom).run s)).isDown key =
    if (initialState (s.withRom rom).machine).isOk then false else s.isDown key := by
  rw [load, run_bind_of_ok (run_update _)]
  -- Behind the reset there is only the message.
  refine left_bind_of_keeps (P := fun t => t.isDown key = _) (isDown_reset key) fun _ => ?_
  exact Keeps.bind (fun _ ht => ht) fun _ => Keeps.lift.bind fun _ _ ht => ht

/-- The keypad that an operation hands over in place of another, or why it is refused, if it is one
that hands over keys. -/
def Operation.keypad? (k : Keypad) : Operation σ → Option (Except Failure Keypad)
  | .press v => some (setNamed v true k)
  | .release v => some (setNamed v false k)
  | .setKeys keys => some ((keyStates keys).map .ofList)
  | _ => none

/-- The session with another keypad in its machine. -/
def withKeypad (s : Session σ) (k : Keypad) : Session σ :=
  s.withState { s.machine.state with keypad := k }

section Input

variable {op : Operation σ} {k : Keypad} {f : Failure}

/-- Keys that are not refused are in place. -/
theorem run_input (h : op.keypad? s.machine.state.keypad = some (.ok k)) :
    (op.action host).run s = .ok () (s.withKeypad k) := by
  cases op with
  | press v =>
    have hk := Option.some.inj h
    simp [Operation.action, press, hk, setKeypad, withKeypad, withState]
  | release v =>
    have hk := Option.some.inj h
    simp [Operation.action, release, hk, setKeypad, withKeypad, withState]
  | setKeys keys =>
    cases hstates : keyStates keys with
    | error f => simp [Operation.keypad?, hstates, Except.map] at h
    | ok states =>
      obtain rfl : Keypad.ofList states = k := by
        simpa [Operation.keypad?, hstates, Except.map] using h
      simp [Operation.action, setKeys, hstates, setKeypad, withKeypad, withState]
  | _ => cases h

/-- Keys that are refused leave the whole session as it is. -/
theorem run_input_of_error (h : op.keypad? s.machine.state.keypad = some (.error f)) :
    (op.action host).run s = .error f s := by
  cases op with
  | press v =>
    have hk := Option.some.inj h
    simp [Operation.action, press, hk]
  | release v =>
    have hk := Option.some.inj h
    simp [Operation.action, release, hk]
  | setKeys keys =>
    cases hstates : keyStates keys with
    | ok states => simp [Operation.keypad?, hstates, Except.map] at h
    | error f' =>
      obtain rfl : f' = f := by simpa [Operation.keypad?, hstates, Except.map] using h
      simp [Operation.action, setKeys, hstates]
  | _ => cases h

/-- Keys that are handed over are as the operation says, and the others as they were. -/
theorem isDown_of_keypad? {l : Keypad} (h : op.keypad? l = some (.ok k)) (key : Nibble) :
    k.isDown key = (op.word? key).getD (l.isDown key) := by
  cases op with
  | press v | release v =>
    rw [isDown_of_setNamed (Option.some.inj h), Operation.word?]
    split <;> rfl
  | setKeys keys =>
    cases hstates : keyStates keys with
    | error f => simp [Operation.keypad?, hstates, Except.map] at h
    | ok states =>
      obtain rfl : Keypad.ofList states = k := by
        simpa [Operation.keypad?, hstates, Except.map] using h
      obtain ⟨values, hvalues, hlength, rfl⟩ := of_keyStates_eq_ok hstates
      have hkey : key.toNat < values.length := hlength ▸ key.isLt
      simp [Keypad.isDown_ofList, Operation.word?, hvalues, hkey]
  | _ => cases h

theorem isAccepted_of_keypad? {x : Except Failure Keypad}
    (h : op.keypad? s.machine.state.keypad = some x) : op.isAccepted host s = x.isOk := by
  have haccepted : op.isAccepted host s = (failure? ((op.action host).run s)).isNone := by
    cases op with
    | press | release | setKeys => rfl
    | _ => cases h
  cases x with
  | ok k =>
    rw [haccepted, run_input h]
    rfl
  | error f =>
    rw [haccepted, run_input_of_error h]
    rfl

theorem isDown_input {x : Except Failure Keypad}
    (h : op.keypad? s.machine.state.keypad = some x) (key : Nibble) :
    (left ((op.action host).run s)).isDown key = (op.says? host s key).getD (s.isDown key) := by
  rw [Operation.says?, isAccepted_of_keypad? h]
  cases x with
  | ok k =>
    rw [run_input h]
    exact isDown_of_keypad? h key
  | error f =>
    rw [run_input_of_error h]
    rfl

end Input

/-- An operation that runs the machine. -/
def Operation.IsRun : Operation σ → Prop
  | .cycle | .tick _ | .runFrame _ | .run _ _ => True
  | _ => False

/-- Running the machine leaves the keypad as it is. -/
theorem keypad_of_isRun {op : Operation σ} (hop : op.IsRun) :
    (left ((op.action host).run s)).machine.state.keypad = s.machine.state.keypad := by
  have hframe := frameStable_keypad (σ := σ) s.machine.state.keypad
  cases op with
  | cycle => exact hframe.keeps_cycle s rfl
  | tick count => exact hframe.keeps_tick count s rfl
  | runFrame ticks => exact hframe.keeps_runFrame ticks s rfl
  | run frames stop => exact (hframe.keeps_runUntil frames stop).bind (fun _ => .pure ()) s rfl
  | _ => exact hop.elim

/-- A machine is reset if and only if there is a state in which it can start over. -/
theorem isNone_failure?_reset :
    (failure? ((reset host).run s)).isNone = (initialState s.machine).isOk := by
  cases h : initialState s.machine with
  | error f =>
    rw [run_reset_of_error h]
    rfl
  | ok state =>
    rw [run_reset h]
    rfl

/-- A program is loaded if and only if there is a state in which the machine can start over with it,
as long as the load address can be shown. -/
theorem isNone_failure?_load {a : Int} (ha : s.machine.config.loadAddress = .int a) (rom : Rom) :
    (failure? ((load host rom).run s)).isNone =
      (initialState (s.withRom rom).machine).isOk := by
  have hshown : s.machine.config.loadAddress.hexNumber = .ok a := by
    rw [ha]
    rfl
  cases h : initialState (s.withRom rom).machine with
  | error f =>
    rw [run_load_of_error h]
    rfl
  | ok state =>
    rw [run_load h hshown]
    rfl

/-- An operation is accepted if and only if it does not fail. -/
theorem isAccepted_eq {a : Int} (ha : s.machine.config.loadAddress = .int a) (op : Operation σ) :
    op.isAccepted host s = (failure? ((op.action host).run s)).isNone := by
  cases op with
  | load rom => exact (isNone_failure?_load ha rom).symm
  | loadFile name content =>
    cases content with
    | ok rom =>
      show _ = (failure? ((loadFile host name (.ok rom)).run s)).isNone
      rw [run_loadFile]
      exact (isNone_failure?_load (s := s.noted _ _) ha rom).symm
    | error f => rfl
  | _ => rfl

/-- **One operation.** A key is as the operation says, or as it was. -/
theorem isDown_operation (op : Operation σ) (key : Nibble) :
    (left ((op.action host).run s)).isDown key = (op.says? host s key).getD (s.isDown key) := by
  have hstart {b : Bool} : (if b then some false else none).getD (s.isDown key) =
      if b then false else s.isDown key := by cases b <;> rfl
  have hsilent {b : Bool} : (if b then none else none).getD (s.isDown key) = s.isDown key := by
    cases b <;> rfl
  cases op with
  | load rom => exact (isDown_load rom key).trans hstart.symm
  | loadFile name content =>
    cases content with
    | ok rom =>
      show (left ((loadFile host name (.ok rom)).run s)).isDown key = _
      rw [run_loadFile]
      exact (isDown_load rom key).trans hstart.symm
    | error f => rfl
  | reset =>
    have hreset : (failure? ((reset host).run s)).isNone = (initialState s.machine).isOk :=
      isNone_failure?_reset
    refine (isDown_reset key).trans (hstart.symm.trans ?_)
    rw [← hreset]
    rfl
  | press v | release v | setKeys keys => exact isDown_input rfl key
  | cycle | tick count | runFrame ticks | run frames stop =>
    refine Eq.trans ?_ hsilent.symm
    exact congrArg (Keypad.isDown · key) (keypad_of_isRun trivial)

/-! ## Operations one after the other -/

theorem isDown_after (ops : List (Operation σ)) (key : Nibble) :
    (after host s ops).isDown key = (said host key s ops).getLastD (s.isDown key) := by
  induction ops generalizing s with
  | nil => rfl
  | cons op ops ih =>
    rw [after_cons, ih, isDown_operation, said]
    cases op.says? host s key with
    | none => rfl
    | some b => exact (List.getLastD_cons ..).symm

theorem exists_setNamed {v : HostValue} {op : Operation σ} (hop : op = .press v ∨ op = .release v)
    (k : Keypad) : ∃ down, op.keypad? k = some (setNamed v down k) := by
  obtain rfl | rfl := hop
  · exact ⟨true, rfl⟩
  · exact ⟨false, rfl⟩

/-- A truth value is never refused; true is a word on every key, and false on none. -/
theorem isAccepted_of_bool {b : Bool} {op : Operation σ}
    (hop : op = .press (.bool b) ∨ op = .release (.bool b)) :
    op.isAccepted host s = true ∧ ∀ key, (op.word? key).isSome = b := by
  obtain ⟨down, hkeypad⟩ := exists_setNamed hop s.machine.state.keypad
  obtain ⟨k, hk⟩ := exists_setNamed_bool b down s.machine.state.keypad
  refine ⟨isAccepted_of_keypad? (hkeypad.trans (congrArg some hk)), fun key => ?_⟩
  obtain rfl | rfl := hop <;> cases b <;> rfl

/-- **The last word holds.** Whatever a host does with a machine, a key is as the last operation has
it that was not refused and that has said something of it, or as it was at first. An operation is
refused if and only if it fails, on a machine whose load address is a whole number. A number is
refused as a key unless it is one of the sixteen, and a list of states unless there are sixteen of
them, which leaves the whole session as it is; a number of too many digits is refused without being
shown. True names all keys, and false none. No operation that runs the machine changes a key,
however it ends. -/
theorem last_word_holds (host : Host σ) (s : Session σ) (ops : List (Operation σ)) :
    (∀ key, (after host s ops).isDown key = (said host key s ops).getLastD (s.isDown key)) ∧
    (∀ a, s.machine.config.loadAddress = .int a → ∀ op : Operation σ,
      op.isAccepted host s = (failure? ((op.action host).run s)).isNone) ∧
    (∀ (n : Int) (op : Operation σ), op = .press (.int n) ∨ op = .release (.int n) →
      if 0 ≤ n ∧ n < keyCount then op.isAccepted host s = true
      else if Text.digitCount n ≤ Text.maxDigits then
        (op.action host).run s = .error (.invalidKey (.int n)) s
      else (op.action host).run s = .error .malformed s) ∧
    (∀ (b : Bool) (op : Operation σ), op = .press (.bool b) ∨ op = .release (.bool b) →
      op.isAccepted host s = true ∧ ∀ key, (op.word? key).isSome = b) ∧
    (∀ (states : List Bool) (op : Operation σ), op = .setKeys (.list (states.map .bool)) →
      if states.length = keyCount then
        op.isAccepted host s = true ∧ ∀ key, op.word? key = states[key.toNat]?
      else (op.action host).run s = .error (.wrongKeyCount states.length) s) ∧
    ∀ op : Operation σ, op.IsRun →
      (left ((op.action host).run s)).machine.state.keypad = s.machine.state.keypad := by
  refine ⟨isDown_after ops, fun a ha op => isAccepted_eq ha op, fun n op hop => ?_,
    fun b op hop => isAccepted_of_bool hop, fun states op hop => ?_,
    fun op hop => keypad_of_isRun hop⟩
  · obtain ⟨down, hkeypad⟩ := exists_setNamed hop s.machine.state.keypad
    split
    · rename_i hn
      obtain ⟨k, hk⟩ := setNamed_of_bounds hn down s.machine.state.keypad
      exact isAccepted_of_keypad? (hkeypad.trans (congrArg some hk))
    · rename_i hn
      have hk := setNamed_of_not_bounds hn down s.machine.state.keypad
      have hrefused : (op.action host).run s = _ :=
        run_input_of_error (hkeypad.trans (congrArg some hk))
      split <;> rename_i hdigits
      · rwa [if_pos hdigits] at hrefused
      · rwa [if_neg hdigits] at hrefused
  · subst hop
    have hkeypad : (Operation.setKeys (.list (states.map .bool)) : Operation σ).keypad?
        s.machine.state.keypad = some ((keyStates (.list (states.map .bool))).map .ofList) := rfl
    rw [keyStates_bools] at hkeypad
    split
    · rename_i hlength
      rw [if_pos hlength] at hkeypad
      refine ⟨isAccepted_of_keypad? hkeypad, fun key => ?_⟩
      simp [Operation.word?, HostValue.elements?, Function.comp_def, HostValue.isTruthy]
    · rename_i hlength
      rw [if_neg hlength] at hkeypad
      exact run_input_of_error hkeypad

/-- A host puts two keys down, loads a program, and puts one of the keys down again; the program
meets a fault in its first frame, and then the host names a seventeenth key and gives the states of
fifteen keys. -/
def keyOperations : List (Operation Unit) := [
  .press (.int 5), .press (.int 3), .load beepRom, .press (.int 3), .runFrame 1, .press (.int 16),
  .setKeys (.list ((List.replicate 15 true).map .bool))]

/-- The load has let up the key that was not put down again, and what was refused says nothing. -/
theorem last_word_after_fault :
    said Console.stillHost 3 newSession keyOperations = [true, false, true] ∧
      said Console.stillHost 5 newSession keyOperations = [true, false] ∧
      (after Console.stillHost newSession keyOperations).isDown 3 = true ∧
      (after Console.stillHost newSession keyOperations).isDown 5 = false ∧
      ((Operation.press (.int 16)).action Console.stillHost).run newSession =
        .error (.invalidKey (.int 16)) newSession := by
  have hthree : said Console.stillHost 3 newSession keyOperations = [true, false, true] := by
    decide +kernel
  have hfive : said Console.stillHost 5 newSession keyOperations = [true, false] := by
    decide +kernel
  obtain ⟨hlast, -, hnumber, -⟩ := last_word_holds Console.stillHost newSession keyOperations
  refine ⟨hthree, hfive, ?_, ?_, hnumber 16 _ (.inl rfl)⟩
  · rw [hlast, hthree]
    rfl
  · rw [hlast, hfive]
    rfl

/-- The numbers of keys have two digits at most. -/
theorem digitCount_le_two {n : Int} (h : 0 ≤ n ∧ n < keyCount) : Text.digitCount n ≤ 2 := by
  refine (Nat.length_toDigits_le_iff (by decide) (by decide)).2 ?_
  show n.natAbs < 100
  have hn : n < 16 := h.2
  omega

/-- A number of too many digits is no key, and it cannot be shown that it is none. -/
theorem press_of_long {n : Int} (h : Text.maxDigits < Text.digitCount n) :
    ¬(0 ≤ n ∧ n < keyCount) ∧
      ((Operation.press (.int n)).action host).run s = .error .malformed s := by
  have hmax : 2 < Text.maxDigits := by decide
  have hnot : ¬(0 ≤ n ∧ n < keyCount) := fun hn => absurd (digitCount_le_two hn) (by omega)
  have hk := setNamed_of_not_bounds hnot true s.machine.state.keypad
  rw [if_neg (Nat.not_le.2 h)] at hk
  exact ⟨hnot, run_input_of_error (congrArg some hk)⟩

/-- The least number with more than so many digits. -/
def longKey (count : Nat) : Nat := Nat.pow 10 count

theorem lt_digitCount_longKey {count : Nat} (h : 0 < count) :
    count < Text.digitCount (longKey count) := by
  rw [Text.digitCount, Int.natAbs_natCast, ← Nat.not_le, Nat.length_toDigits_le_iff (by decide) h]
  exact Nat.lt_irrefl (longKey count)

/-- A number that is no key may be refused for its length instead, since the message about it cannot
be made; and true, which counts as one, puts down the other keys as well. -/
theorem long_key_not_shown :
    ¬(0 ≤ (longKey Text.maxDigits : Int) ∧ (longKey Text.maxDigits : Int) < keyCount) ∧
    ((Operation.press (.int (longKey Text.maxDigits))).action Console.stillHost).run newSession =
      .error .malformed newSession ∧
    (HostValue.bool true).toInt? = some 1 ∧
    (left (((Operation.press (.bool true)).action Console.stillHost).run newSession)).isDown 5 =
      true := by
  have hpos : 0 < Text.maxDigits := by decide
  obtain ⟨hnot, hlong⟩ := press_of_long (lt_digitCount_longKey hpos)
  exact ⟨hnot, hlong, rfl, by decide +kernel⟩

end Session

end Chip8
