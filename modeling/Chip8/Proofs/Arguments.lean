import Mathlib.Data.List.TakeWhile
import Chip8.Console

/-!
# Arguments and what they are read as

The numbers among the arguments of the console program are read back as they were written
(`readNumber_toString`), negative ones included, which the command line does not take for flags
(`token_toString`); those with too many digits are refused (`readNumber_toString_of_long`).
`read_printArgs` and `read_printArgs_of_long` put this together for the arguments of a run that
prints its last picture and logs nothing.
-/

namespace Chip8

namespace Text

/-! ## Numerals -/

theorem toNat_of_isDigit {c : Char} (h : c.isDigit = true) : 48 ≤ c.toNat ∧ c.toNat ≤ 57 := by
  simp only [Char.isDigit, Bool.and_eq_true, decide_eq_true_eq, UInt32.le_iff_toNat_le] at h
  exact h

theorem digit?_of_isDigit {c : Char} (h : c.isDigit = true) : digit? c = some (c.toNat - 48) := by
  have hbounds : 48 ≤ c.toNat ∧ c.toNat < 48 + 10 :=
    ⟨(toNat_of_isDigit h).1, Nat.lt_succ_of_le (toNat_of_isDigit h).2⟩
  rw [digit?, zeroDigits, List.find?_cons_of_pos (by simpa using hbounds)]
  rfl

theorem digits?_of_isDigit {cs : List Char} (hne : cs ≠ []) (h : ∀ c ∈ cs, c.isDigit = true) :
    digits? cs = some (cs.map fun c => c.toNat - 48) := by
  induction cs with
  | nil => exact absurd rfl hne
  | cons c cs ih =>
    have hc : digit? c = some (c.toNat - 48) := digit?_of_isDigit (h c List.mem_cons_self)
    cases cs with
    | nil => simp [digits?, hc]
    | cons d cs =>
      have hd : d ≠ '_' := by
        rintro rfl
        exact absurd (h '_' (by simp)) (by decide)
      have htail := ih (by simp) fun c hmem => h c (List.mem_cons_of_mem _ hmem)
      -- Of the rules for two characters and more, the one for an underscore is out.
      rw [digits?]
      · simp [hc, htail]
      · simp
      · intro e cs' heq
        exact hd (List.cons.inj heq).1

theorem isDigit_toDigits {n : Nat} {c : Char} (h : c ∈ Nat.toDigits 10 n) : c.isDigit = true :=
  Nat.isDigit_of_mem_toDigits (by decide) (by decide) h

theorem unsigned?_toDigits (n : Nat) : unsigned? (Nat.toDigits 10 n) =
    if (Nat.toDigits 10 n).length ≤ maxDigits then some n else none := by
  have hvalue : ofDigits ((Nat.toDigits 10 n).map fun c => c.toNat - 48) = n := by
    rw [ofDigits, List.foldl_map]
    exact Nat.ofDigitChars_ten_toDigits
  simp [unsigned?, digits?_of_isDigit Nat.toDigits_ne_nil fun _ => isDigit_toDigits, hvalue]

/-- A number is written as its digits, behind a dash if it is below zero. -/
theorem toList_toString (v : Int) : (toString v).toList =
    if v < 0 then '-' :: Nat.toDigits 10 v.natAbs else Nat.toDigits 10 v.natAbs := by
  cases v with
  | ofNat n =>
    rw [if_neg (by simp), Int.toString_eq_repr]
    exact Nat.toList_repr
  | negSucc n =>
    rw [if_pos (Int.negSucc_lt_zero n), Int.toString_eq_repr]
    show ("-" ++ n.succ.repr).toList = _
    rw [String.toList_append, Nat.toList_repr]
    rfl

theorem isBlank_of_isDigit {c : Char} (h : c.isDigit = true) : isBlank c = false := by
  have hblanks : ∀ b ∈ blanks, ¬(48 ≤ b ∧ b ≤ 57) := by decide
  refine Bool.eq_false_iff.2 fun hblank => ?_
  exact hblanks _ (List.contains_iff_mem.1 hblank) (toNat_of_isDigit h)

theorem ne_of_isDigit {c d : Char} (h : c.isDigit = true) (hd : d.isDigit = false) : c ≠ d := by
  rintro rfl
  rw [h] at hd
  cases hd

theorem trimBlanks_of_forall {cs : List Char} (h : ∀ c ∈ cs, isBlank c = false) :
    trimBlanks cs = cs := by
  have hdrop {ds : List Char} (hds : ∀ c ∈ ds, isBlank c = false) : ds.dropWhile isBlank = ds := by
    cases ds with
    | nil => rfl
    | cons c ds => exact List.dropWhile_cons_of_neg (by simp [hds c List.mem_cons_self])
  rw [trimBlanks, hdrop h, hdrop fun c hc => h c (List.mem_reverse.1 hc), List.reverse_reverse]

/-- **Numbers are read back as they were written** if they do not have too many digits, and are not
read at all otherwise. -/
theorem int?_toString (v : Int) :
    int? (toString v).toList = if digitCount v ≤ maxDigits then some v else none := by
  have hunsigned : unsigned? (Nat.toDigits 10 v.natAbs) =
      if digitCount v ≤ maxDigits then some v.natAbs else none := unsigned?_toDigits v.natAbs
  have hplain : ∀ c ∈ Nat.toDigits 10 v.natAbs, isBlank c = false :=
    fun c hc => isBlank_of_isDigit (isDigit_toDigits hc)
  rw [toList_toString]
  split
  · rename_i hneg
    have hvalue : -(v.natAbs : Int) = v := by
      rw [Int.ofNat_natAbs_of_nonpos (Int.le_of_lt hneg), Int.neg_neg]
    rw [int?, trimBlanks_of_forall (by simpa using ⟨by decide, hplain⟩)]
    simp only [hunsigned]
    split
    · exact congrArg some hvalue
    · rfl
  · rename_i hnonneg
    have hvalue : (v.natAbs : Int) = v := Int.natAbs_of_nonneg (Int.not_lt.1 hnonneg)
    have hsign {d : Char} {cs : List Char} (hd : d.isDigit = false) :
        Nat.toDigits 10 v.natAbs ≠ d :: cs := by
      intro heq
      exact ne_of_isDigit (isDigit_toDigits (heq ▸ List.mem_cons_self)) hd rfl
    rw [int?, trimBlanks_of_forall hplain]
    split
    · exact absurd ‹_› (hsign (by decide))
    · exact absurd ‹_› (hsign (by decide))
    · rw [hunsigned]
      split
      · exact congrArg some hvalue
      · rfl

end Text

namespace Options

open CommandLine

/-! ## Numerals as arguments -/

theorem int?_chars?_toString (v : Int) : (Text.ofString (toString v)).chars?.bind Text.int? =
    if Text.digitCount v ≤ Text.maxDigits then some v else none := by
  rw [Text.ofString, Text.chars?_map_char, Option.bind_some, Text.int?_toString]

theorem readNumber_toString {v : Int} (h : Text.digitCount v ≤ Text.maxDigits) :
    readNumber (toString v) = .ok v := by
  rw [readNumber, int?_chars?_toString, if_pos h]

/-- Longer numerals are refused. -/
theorem readNumber_toString_of_long {v : Int} (h : Text.maxDigits < Text.digitCount v) :
    readNumber (toString v) = .error ("invalid int value: " ++ Text.quoted (toString v)) := by
  rw [readNumber, int?_chars?_toString, if_neg (Nat.not_le.2 h)]

/-- The second symbol of a name is no digit. -/
theorem second_of_named {name : Text} {f : Flag Options} (h : (name, f) ∈ grammar.named) {d : Char}
    (hd : d.isDigit = true) : name[1]? ≠ some (.char d) := by
  have hnames : ∀ name ∈ grammar.named.map (·.1),
      name[1]? = some (.char 'h') ∨ name[1]? = some (.char '-') := by decide
  rcases hnames name (List.mem_map_of_mem h) with hh | hh <;> rw [hh] <;> intro heq
  · exact Text.ne_of_isDigit hd (by decide) (Symbol.char.inj (Option.some.inj heq)).symm
  · exact Text.ne_of_isDigit hd (by decide) (Symbol.char.inj (Option.some.inj heq)).symm

section

variable {arg : Text} {d : Char} (hd : d.isDigit = true) (hsecond : arg[1]? = some (.char d))

include hd hsecond

theorem find?_of_digit : grammar.find? arg = none := by
  rw [Grammar.find?, Option.map_eq_none_iff, List.find?_eq_none]
  rintro ⟨name, f⟩ hmem heq
  obtain rfl : name = arg := by simpa using heq
  exact second_of_named hmem hd hsecond

theorem candidates_of_digit : grammar.candidates arg = [] := by
  have hdashes : arg.take 2 ≠ [dash, dash] := by
    intro heq
    have htake : (arg.take 2)[1]? = some (.char d) := by simpa using hsecond
    rw [heq] at htake
    exact Text.ne_of_isDigit hd (by decide) (Symbol.char.inj (Option.some.inj htake)).symm
  refine List.filterMap_eq_nil_iff.2 ?_
  rintro ⟨name, f⟩ hmem
  have hother := second_of_named hmem hd
  have htake : name ≠ arg.take 2 := by
    rintro rfl
    exact hother (by simpa using hsecond)
  have hprefix : arg.isPrefixOf name = false := by
    refine Bool.eq_false_iff.2 fun h => ?_
    obtain ⟨hlt, hget⟩ := List.getElem?_eq_some_iff.1 hsecond
    have hnext := List.prefix_iff_getElem?.1 (List.isPrefixOf_iff_prefix.1 h) 1 hlt
    exact hother (hget ▸ hnext)
  simp [hdashes, Grammar.attaches, htake, hprefix]

end

theorem isNegativeNumber_of_digits {cs : List Char} (hne : cs ≠ [])
    (h : ∀ c ∈ cs, c.isDigit = true) : isNegativeNumber ('-' :: cs) = true := by
  have hlast : cs.getLast? ≠ some '\n' := by
    intro heq
    exact Text.ne_of_isDigit (h _ (List.mem_of_getLast? heq)) (by decide) rfl
  have hpoint : cs.dropWhile (· != '.') = [] := by
    refine List.dropWhile_eq_nil_iff.2 fun c hc => ?_
    simpa using Text.ne_of_isDigit (h c hc) (by decide)
  have hdigits : allDigits cs = true := by
    refine List.all_eq_true.2 fun c hc => ?_
    simp [Text.digit?_of_isDigit (h c hc)]
  simp [isNegativeNumber, hlast, hpoint, hdigits, hne]

/-- A dash with digits behind it is no flag. -/
theorem token_of_digits {cs : List Char} (hne : cs ≠ []) (h : ∀ c ∈ cs, c.isDigit = true) :
    grammar.token (dash :: cs.map .char) = .ok (.plain (dash :: cs.map .char)) := by
  obtain ⟨d, ds, rfl⟩ := List.exists_cons_of_ne_nil hne
  generalize harg : dash :: (d :: ds).map Symbol.char = arg
  have hd : d.isDigit = true := h d List.mem_cons_self
  have hsecond : arg[1]? = some (.char d) := by rw [← harg]; rfl
  have hequals : splitEquals arg = none := by
    have hdrop : arg.dropWhile (· != equalsSign) = [] := by
      rw [List.dropWhile_eq_nil_iff, ← harg]
      intro s hmem
      rcases List.mem_cons.1 hmem with rfl | hmem
      · decide
      · obtain ⟨c, hc, rfl⟩ := List.mem_map.1 hmem
        simpa [equalsSign] using Text.ne_of_isDigit (h c hc) (by decide)
    rw [splitEquals, hdrop]
  have hfull : grammar.fullName? arg = none := by
    rw [Grammar.fullName?, find?_of_digit hd hsecond, hequals]
    rfl
  have hplain : isPlain arg = true := by
    have hchars : Text.chars? arg = some ('-' :: d :: ds) := by
      rw [← harg]
      exact Text.chars?_map_char ('-' :: d :: ds)
    simp [isPlain, hchars, isNegativeNumber_of_digits hne h]
  have hhead : arg.head? = some dash := by rw [← harg]; rfl
  have hlength : arg.length ≠ 1 := by rw [← harg]; simp
  simp [Grammar.token, hhead, hfull, hlength, candidates_of_digit hd hsecond, hplain]

/-- No number is taken for a flag. -/
theorem token_toString (v : Int) : grammar.token (toString v) = .ok (.plain (toString v)) := by
  have hdigits : ∀ c ∈ Nat.toDigits 10 v.natAbs, c.isDigit = true := fun _ => Text.isDigit_toDigits
  rw [Text.ofString, Text.toList_toString]
  split
  · exact token_of_digits Nat.toDigits_ne_nil hdigits
  · obtain ⟨d, ds, hds⟩ : ∃ d ds, Nat.toDigits 10 v.natAbs = d :: ds :=
      List.exists_cons_of_ne_nil Nat.toDigits_ne_nil
    have hd : Symbol.char d ≠ dash := by
      intro heq
      exact Text.ne_of_isDigit (hdigits d (hds ▸ List.mem_cons_self)) (by decide)
        (Symbol.char.inj heq)
    rw [hds, Grammar.token, if_pos (by simpa using hd)]

/-! ## The arguments of a run that prints its last picture -/

/-- The command line of a run that prints its last picture and logs nothing. -/
def printArgs (rom : Text) (frames speed seed : Int) : List Text :=
  [rom, "--frames", toString frames, "--ips", toString speed, "--seed", toString seed,
    "--print-frame", "--log-level", "CRITICAL"]

/-- The options of a run that prints its last picture and logs nothing. -/
def printing (rom : Text) (frames speed seed : Int) : Options where
  rom := rom
  frames := .value frames
  speed := .value speed
  seed := .value seed
  printFrame := true
  logLevel := .value .critical

theorem tokens_cons {arg : Text} {t : Token Options} (h : grammar.token arg = .ok t)
    (args : List Text) :
    grammar.tokens (arg :: args) = (do let ts ← grammar.tokens args; return t :: ts) := by
  have hseparator : arg ≠ separator := by
    rintro rfl
    have herror : ∃ message, grammar.token separator = .error message := ⟨_, rfl⟩
    obtain ⟨message, hmessage⟩ := herror
    rw [hmessage] at h
    cases h
  rw [Grammar.tokens, if_neg hseparator, h]
  rfl

/-- The full name of a flag is that flag. -/
theorem token_of_find? {name : Text} {f : Flag Options} (hdash : name.head? = some dash)
    (h : grammar.find? name = some f) : grammar.token name = .ok (.known f name none) := by
  simp [Grammar.token, hdash, Grammar.fullName?, h]

theorem readTokens_value {β : Type} {name : String} {read : Text → Except Text β}
    {set : Setting β → Options → Options} {text : Text} {b : β} (h : read text = .ok b)
    (rest : List (Token Options)) (r : Reading Options) :
    grammar.readTokens (.known (valueFlag name read set) name none :: .plain text :: rest) r =
      grammar.readTokens rest { r with values := set (.value b) r.values } := by
  simp [Grammar.readTokens, valueFlag, Grammar.setValue, h, Except.map]

theorem readTokens_of_error {β : Type} {name : String} {read : Text → Except Text β}
    {set : Setting β → Options → Options} {text message : Text} (h : read text = .error message)
    (rest : List (Token Options)) (r : Reading Options) :
    grammar.readTokens (.known (valueFlag name read set) name none :: .plain text :: rest) r =
      .error (.usage ("argument " ++ (valueFlag name read set).title ++ ": " ++ message)) := by
  simp [Grammar.readTokens, valueFlag, Grammar.setValue, h, Except.map]

theorem readTokens_switch {name : String} {set : Options → Options} (rest : List (Token Options))
    (r : Reading Options) : grammar.readTokens (.known (switch name set) name none :: rest) r =
      grammar.readTokens rest { r with values := set r.values } := by
  simp [Grammar.readTokens, switch]

/-- The tokens of the flags in the command line, and their values. -/
def printTokens (frames speed seed : Int) : List (Token Options) := [
  .known (valueFlag "--frames" readNumber fun frames o => { o with frames }) "--frames" none,
  .plain (toString frames),
  .known (valueFlag "--ips" readNumber fun speed o => { o with speed }) "--ips" none,
  .plain (toString speed),
  .known (valueFlag "--seed" readNumber fun seed o => { o with seed }) "--seed" none,
  .plain (toString seed),
  .known (switch "--print-frame" fun o => { o with printFrame := true }) "--print-frame" none,
  .known (valueFlag "--log-level" readLogLevel fun logLevel o => { o with logLevel })
    "--log-level" none,
  .plain "CRITICAL"]

theorem tokens_printArgs {rom : Text} (h : grammar.token rom = .ok (.plain rom))
    (frames speed seed : Int) : grammar.tokens (printArgs rom frames speed seed) =
      .ok (.plain rom :: printTokens frames speed seed) := by
  have hlevel : grammar.token "CRITICAL" = .ok (.plain "CRITICAL") := rfl
  rw [printArgs, tokens_cons h, tokens_cons (token_of_find? rfl rfl),
    tokens_cons (token_toString frames), tokens_cons (token_of_find? rfl rfl),
    tokens_cons (token_toString speed), tokens_cons (token_of_find? rfl rfl),
    tokens_cons (token_toString seed), tokens_cons (token_of_find? rfl rfl),
    tokens_cons (token_of_find? rfl rfl), tokens_cons hlevel]
  rfl

/-- **The arguments are read as the options that they were written for**, whatever the name of the
file unless it looks like a flag. -/
theorem read_printArgs {rom : Text} {frames speed seed : Int}
    (hrom : grammar.token rom = .ok (.plain rom))
    (hframes : Text.digitCount frames ≤ Text.maxDigits)
    (hspeed : Text.digitCount speed ≤ Text.maxDigits)
    (hseed : Text.digitCount seed ≤ Text.maxDigits) :
    read (printArgs rom frames speed seed) = .ok (printing rom frames speed seed) := by
  have hlevel : readLogLevel "CRITICAL" = .ok .critical := rfl
  have hflags : grammar.readTokens (printTokens frames speed seed) ⟨{ rom }, true, []⟩ =
      .ok ⟨printing rom frames speed seed, true, []⟩ := by
    rw [printTokens, readTokens_value (readNumber_toString hframes),
      readTokens_value (readNumber_toString hspeed), readTokens_value (readNumber_toString hseed),
      readTokens_switch, readTokens_value hlevel]
    rfl
  have hreading : grammar.readTokens (.plain rom :: printTokens frames speed seed) ⟨{}, false, []⟩ =
      .ok ⟨printing rom frames speed seed, true, []⟩ := hflags
  rw [read, Grammar.read, tokens_printArgs hrom]
  show (grammar.readTokens (.plain rom :: printTokens frames speed seed) ⟨{}, false, []⟩ >>= _) = _
  rw [hreading]
  rfl

/-- Arguments with a number of frames or a speed that has too many digits are refused. -/
theorem read_printArgs_of_long {rom : Text} {frames speed seed : Int}
    (hrom : grammar.token rom = .ok (.plain rom))
    (h : Text.maxDigits < Text.digitCount frames ∨ Text.maxDigits < Text.digitCount speed) :
    ∃ message, read (printArgs rom frames speed seed) = .error (.usage message) := by
  have hflags : ∃ message, grammar.readTokens (printTokens frames speed seed) ⟨{ rom }, true, []⟩ =
      .error (.usage message) := by
    by_cases hframes : Text.maxDigits < Text.digitCount frames
    · exact ⟨_, readTokens_of_error (readNumber_toString_of_long hframes) _ _⟩
    · have hspeed := h.resolve_left hframes
      rw [printTokens, readTokens_value (readNumber_toString (Nat.not_lt.1 hframes))]
      exact ⟨_, readTokens_of_error (readNumber_toString_of_long hspeed) _ _⟩
  obtain ⟨message, hflags⟩ := hflags
  have hreading : grammar.readTokens (.plain rom :: printTokens frames speed seed) ⟨{}, false, []⟩ =
      .error (.usage message) := hflags
  refine ⟨message, ?_⟩
  rw [read, Grammar.read, tokens_printArgs hrom]
  show (grammar.readTokens (.plain rom :: printTokens frames speed seed) ⟨{}, false, []⟩ >>= _) = _
  rw [hreading]
  rfl

end Options

end Chip8
