import Clausal.Proofs.Clause.Operands
import Clausal.Proofs.Rule.Parts

/-!
# What a clause is read as

Reading a clause accepts exactly its grammar.  A text denotes at most one kind
(`Clause.Denotes.unique`), so the kind that is read is the one that the text denotes, operands
included, whatever the order in which the patterns are tried (`Clause.classify_eq_ok_iff`).  A text
that denotes none is plain, unless it has a regular expression that cannot be read
(`Clause.classify_eq_error_iff`).  The main statement, `Clause.parse_iff_grammar`, spells this out
form by form.

## Main definitions

- `saturated`: the number that digits denote, up to the greatest that 64 bits can hold
- `Grammar.ignoresCase`: the letters of the flag under which case does not count
-/

namespace Clausal

/-- The number that digits denote in decimal, or the greatest number that 64 bits can hold if that
is less. -/
def saturated (cs : List Char) : Nat :=
  min (decimal cs) (2 ^ 64 - 1)

theorem Clause.boundOfDigits_ofList (cs : List Char) :
    boundOfDigits (String.ofList cs) = saturated cs := by
  rw [boundOfDigits, String.toList_ofList, Digit.number_eq_decimal]
  rfl

namespace Pattern

theorem of_compile_eq_ok {source : String} {ignoreCase : Bool} {p : Pattern}
    (h : compile source ignoreCase = .ok p) : p.source = source ∧ p.ignoreCase = ignoreCase := by
  rw [compile] at h
  split at h
  · cases h
    exact ⟨rfl, rfl⟩
  · cases h

end Pattern

namespace Grammar

/-- Whether case does not count under the flag with a certain letter. -/
def ignoresCase (letter : Char) : Bool :=
  letter = 'i' || letter = 'I'

variable {u source : List Char} {letter : Char}

theorem InlineText.flag_eq (h : InlineText u source letter) :
    (Clause.flagOfLetter (String.ofList [letter])).letter = letter.toLower ∧
      decide (Clause.flagOfLetter (String.ofList [letter]) = .ignoreCase) = ignoresCase letter := by
  obtain ⟨a, w, -, -, -, -, hletter, -⟩ := h
  rcases hletter with rfl | rfl | rfl | rfl <;> decide

end Grammar

namespace Clause

open Grammar

variable {u : List Char} {text : String} {kind kind' : ClauseKind} {e : ClauseError}

theorem Denotes.unique (h : Denotes u kind) (h' : Denotes u kind') : kind = kind' := by
  obtain ⟨s, hs, htext⟩ := h.exists_shape
  obtain ⟨s', hs', htext'⟩ := h'.exists_shape
  obtain rfl := Shape.eq_of_isText htext htext'
  -- Both kinds are of one shape, and within a shape the operands are determined.
  cases h with
  | range text =>
    cases h' with
    | range text' =>
      obtain ⟨rfl, rfl⟩ := text.unique text'
      rfl
    | _ => cases hs.trans hs'.symm
  | atLeast text =>
    cases h' with
    | atLeast text' =>
      obtain rfl := text.unique rfl text'
      rfl
    | _ => cases hs.trans hs'.symm
  | upTo text =>
    cases h' with
    | upTo text' =>
      obtain rfl := text.unique rfl text'
      rfl
    | _ => cases hs.trans hs'.symm
  | comparison text =>
    cases h' with
    | comparison text' =>
      cases hs.trans hs'.symm
      rfl
    | _ => cases hs.trans hs'.symm
  | inline text compiles =>
    cases h' with
    | inline text' compiles' =>
      obtain ⟨rfl, rfl⟩ := text.unique text'
      cases compiles.symm.trans compiles'
      rfl
    | _ => cases hs.trans hs'.symm

/-- The only text that cannot be read is a regular expression that cannot. -/
theorem inline_of_classify_eq_error (h : classify text = .error e) :
    e.clause = text ∧ ∃ source letter, InlineText text.toList source letter ∧
      Pattern.compile (String.ofList source)
        (flagOfLetter (String.ofList [letter]) = .ignoreCase) = .error e.cause := by
  rw [classify] at h
  rcases bound?_cases text with ⟨k, hk, -⟩ | ⟨hk, -⟩
  · rw [hk] at h
    cases h
  rw [hk] at h
  rcases comparison?_cases text with ⟨k, hk, -⟩ | ⟨hk, -⟩
  · rw [hk] at h
    cases h
  rw [hk] at h
  rcases captures?_inlinePattern text with ⟨source, letter, a, htext, hcaptures⟩ | ⟨hnone, -⟩
  · rw [hcaptures] at h
    dsimp only at h
    split at h
    · cases h
    · next cause hcause =>
      cases h
      exact ⟨rfl, source, letter, htext, hcause⟩
  · rw [hnone] at h
    cases h

/-- A text with a regular expression that cannot be read denotes nothing. -/
theorem not_denotes_of_inline_error {source : List Char} {letter : Char} {cause : RegexError}
    (h : InlineText u source letter)
    (herror : Pattern.compile (String.ofList source)
      (flagOfLetter (String.ofList [letter]) = .ignoreCase) = .error cause) : ¬ Denotes u kind := by
  intro hdenotes
  obtain ⟨s, hs, htext⟩ := hdenotes.exists_shape
  obtain rfl : s = .inline := Shape.eq_of_isText htext ⟨source, letter, h⟩
  cases hdenotes with
  | inline text compiles =>
    obtain ⟨rfl, rfl⟩ := text.unique h
    rw [compiles] at herror
    cases herror
  | _ => cases hs

/-- A text is read as a kind exactly if it denotes it; it is plain if it has no shape. -/
theorem classify_eq_ok_iff : classify text = .ok kind ↔
    Denotes text.toList kind ∨ (kind = .plain ∧ ∀ s : Shape, ¬ s.IsText text.toList) := by
  constructor
  · exact denotes_of_classify
  · intro h
    cases hclassify : classify text with
    | error e =>
      obtain ⟨-, source, letter, htext, herror⟩ := inline_of_classify_eq_error hclassify
      rcases h with hdenotes | ⟨-, hnone⟩
      · exact absurd hdenotes (not_denotes_of_inline_error htext herror)
      · exact absurd ⟨source, letter, htext⟩ (hnone .inline)
    | ok kind' =>
      rcases h, denotes_of_classify hclassify with
        ⟨hdenotes | ⟨rfl, hnone⟩, hdenotes' | ⟨rfl, hnone'⟩⟩
      · rw [hdenotes.unique hdenotes']
      · obtain ⟨s, -, htext⟩ := hdenotes.exists_shape
        exact absurd htext (hnone' s)
      · obtain ⟨s, -, htext⟩ := hdenotes'.exists_shape
        exact absurd htext (hnone s)
      · rfl

/-- A text cannot be read exactly if it has a regular expression that cannot. -/
theorem classify_eq_error_iff : classify text = .error e ↔
    e.clause = text ∧ ∃ source letter, InlineText text.toList source letter ∧
      Pattern.compile (String.ofList source)
        (flagOfLetter (String.ofList [letter]) = .ignoreCase) = .error e.cause := by
  constructor
  · exact inline_of_classify_eq_error
  · rintro ⟨hclause, source, letter, htext, herror⟩
    cases hclassify : classify text with
    | ok kind =>
      rcases denotes_of_classify hclassify with hdenotes | ⟨-, hnone⟩
      · exact absurd hdenotes (not_denotes_of_inline_error htext herror)
      · exact absurd ⟨source, letter, htext⟩ (hnone .inline)
    | error e' =>
      obtain ⟨hclause', source', letter', htext', herror'⟩ :=
        inline_of_classify_eq_error hclassify
      obtain ⟨rfl, rfl⟩ := htext.unique htext'
      rw [herror] at herror'
      obtain ⟨clause, cause⟩ := e
      obtain ⟨clause', cause'⟩ := e'
      obtain rfl : clause = text := hclause
      obtain rfl : clause' = clause := hclause'
      cases herror'
      rfl

/-- A clause is read as a kind exactly if its text denotes it; it is plain if its text has no
shape. -/
theorem parse_eq_ok_iff : parse text = .ok ⟨trim text, kind⟩ ↔
    Denotes (trim text).toList kind ∨
      (kind = .plain ∧ ∀ s : Shape, ¬ s.IsText (trim text).toList) := by
  rw [← classify_eq_ok_iff, parse]
  cases classify (trim text) with
  | error e =>
    constructor
    · intro h
      cases h
    · intro h
      cases h
  | ok k =>
    constructor
    · intro h
      cases h
      rfl
    · rintro ⟨⟩
      rfl

theorem parse_eq_error_iff : parse text = .error e ↔ classify (trim text) = .error e := by
  rw [parse]
  cases classify (trim text) with
  | error e' =>
    constructor
    · rintro ⟨⟩
      rfl
    · rintro ⟨⟩
      rfl
  | ok k =>
    constructor
    · intro h
      cases h
    · intro h
      cases h

theorem text_of_parse {c : Clause} (h : parse text = .ok c) : c.text = trim text := by
  rw [← text_ofText text, ofText, h]
  rfl

theorem denotes_range_iff {n m : Nat} : Denotes u (.bound (some n) (some m)) ↔
    ∃ low high, RangeText u low high ∧ n = saturated low ∧ m = saturated high := by
  constructor
  · intro h
    cases h with
    | range text => exact ⟨_, _, text, boundOfDigits_ofList _, boundOfDigits_ofList _⟩
  · rintro ⟨low, high, htext, rfl, rfl⟩
    rw [← boundOfDigits_ofList, ← boundOfDigits_ofList]
    exact .range htext

theorem denotes_atLeast_iff {n : Nat} : Denotes u (.bound (some n) none) ↔
    ∃ low, NumberText "with " " or more characters" u low ∧ n = saturated low := by
  constructor
  · intro h
    cases h with
    | atLeast text => exact ⟨_, text, boundOfDigits_ofList _⟩
  · rintro ⟨low, htext, rfl⟩
    rw [← boundOfDigits_ofList]
    exact .atLeast htext

theorem denotes_upTo_iff {n : Nat} : Denotes u (.bound none (some n)) ↔
    ∃ high, NumberText "with up to " " characters" u high ∧ n = saturated high := by
  constructor
  · intro h
    cases h with
    | upTo text => exact ⟨_, text, boundOfDigits_ofList _⟩
  · rintro ⟨high, htext, rfl⟩
    rw [← boundOfDigits_ofList]
    exact .upTo htext

/-- The operand of a relation is what comes after the last space, if the text has no blanks at its
ends. -/
theorem denotes_comparison_iff {op : ComparisonOp} {operand : String} (hu : Blank.Trimmed u) :
    Denotes u (.comparison op operand) ↔
      ComparisonText op.keyword u ∧ FollowsLastSpace u operand.toList := by
  have hspace : ' ' ∈ op.keyword.toList := by cases op <;> decide
  constructor
  · intro h
    cases h with
    | comparison text => exact ⟨text, (followsLastSpace_iff hspace text hu).mpr rfl⟩
  · rintro ⟨htext, hoperand⟩
    rw [← (followsLastSpace_iff hspace htext hu).mp hoperand]
    exact .comparison htext

theorem denotes_pattern_iff {regex : Pattern} {flag : MatchFlag} :
    Denotes u (.pattern regex flag) ↔ ∃ source letter, InlineText u source letter ∧
      flag.letter = letter.toLower ∧
      Pattern.compile (String.ofList source) (ignoresCase letter) = .ok regex := by
  have hflag {a b : MatchFlag} : a.letter = b.letter ↔ a = b := by
    cases a <;> cases b <;> decide
  constructor
  · intro h
    cases h with
    | inline text compiles =>
      obtain ⟨hletter, hcase⟩ := text.flag_eq
      exact ⟨_, _, text, hletter, hcase ▸ compiles⟩
  · rintro ⟨source, letter, htext, hletter, hcompile⟩
    obtain ⟨hflagLetter, hcase⟩ := htext.flag_eq
    obtain rfl := hflag.mp (hletter.trans hflagLetter.symm)
    exact .inline htext (hcase ▸ hcompile)

/-- Reading a clause accepts exactly its grammar, and extracts exactly its operands.  The clause has
the text without the blanks at its ends.  It is a bound exactly if the text is one of the three
forms of bounds, with the numbers that their numerals denote; a relation exactly if the text begins
with the words of one and a digit, with what comes after the last space as its operand.  A text with
a regular expression between slashes is read as that expression under its flag, or fails as the
expression does, and nothing else fails.  All other texts are plain. -/
theorem parse_iff_grammar (text : String) :
    (∀ c, parse text = .ok c → c.text = trim text) ∧
    (∀ n m, parse text = .ok ⟨trim text, .bound (some n) (some m)⟩ ↔
      ∃ low high, RangeText (trim text).toList low high ∧
        n = saturated low ∧ m = saturated high) ∧
    (∀ n, parse text = .ok ⟨trim text, .bound (some n) none⟩ ↔
      ∃ low, NumberText "with " " or more characters" (trim text).toList low ∧
        n = saturated low) ∧
    (∀ n, parse text = .ok ⟨trim text, .bound none (some n)⟩ ↔
      ∃ high, NumberText "with up to " " characters" (trim text).toList high ∧
        n = saturated high) ∧
    (∀ op operand, parse text = .ok ⟨trim text, .comparison op operand⟩ ↔
      ComparisonText op.keyword (trim text).toList ∧
        FollowsLastSpace (trim text).toList operand.toList) ∧
    (∀ source letter, InlineText (trim text).toList source letter →
      (∀ regex, Pattern.compile (String.ofList source) (ignoresCase letter) = .ok regex →
        ∃ flag, parse text = .ok ⟨trim text, .pattern regex flag⟩ ∧
          regex.source = String.ofList source ∧ regex.ignoreCase = ignoresCase letter ∧
          flag.letter = letter.toLower) ∧
      ∀ cause, Pattern.compile (String.ofList source) (ignoresCase letter) = .error cause →
        parse text = .error ⟨trim text, cause⟩) ∧
    (∀ regex flag, parse text = .ok ⟨trim text, .pattern regex flag⟩ →
      ∃ source letter, InlineText (trim text).toList source letter ∧
        regex.source = String.ofList source) ∧
    (∀ e, parse text = .error e → ∃ source letter,
      InlineText (trim text).toList source letter) ∧
    (parse text = .ok ⟨trim text, .plain⟩ ↔ ∀ s : Shape, ¬ s.IsText (trim text).toList) ∧
    parse text ≠ .ok ⟨trim text, .type⟩ ∧ parse text ≠ .ok ⟨trim text, .bound none none⟩ := by
  have htrimmed : Blank.Trimmed (trim text).toList := by
    rw [toList_trim]
    exact Blank.trimmed_trimChars _
  have hnone : ¬ Denotes (trim text).toList .plain ∧ ¬ Denotes (trim text).toList .type ∧
      ¬ Denotes (trim text).toList (.bound none none) := ⟨nofun, nofun, nofun⟩
  -- A kind that is not plain is read exactly if it is denoted.
  simp only [parse_eq_ok_iff, reduceCtorEq, false_and, or_false, true_and, false_or, hnone,
    denotes_range_iff, denotes_atLeast_iff, denotes_upTo_iff, denotes_comparison_iff htrimmed,
    implies_true, not_false_eq_true, ne_eq, and_true]
  refine ⟨fun c => text_of_parse, fun source letter htext => ⟨fun regex hcompile => ?_,
    fun cause hcause => ?_⟩, fun regex flag h => ?_, fun e he => ?_⟩
  · obtain ⟨hsource, hcase⟩ := Pattern.of_compile_eq_ok hcompile
    exact ⟨flagOfLetter (String.ofList [letter]),
      denotes_pattern_iff.mpr ⟨source, letter, htext, htext.flag_eq.1, hcompile⟩, hsource, hcase,
      htext.flag_eq.1⟩
  · rw [parse_eq_error_iff, classify_eq_error_iff]
    exact ⟨rfl, source, letter, htext, htext.flag_eq.2 ▸ hcause⟩
  · obtain ⟨source, letter, htext, -, hcompile⟩ := denotes_pattern_iff.mp h
    exact ⟨source, letter, htext, (Pattern.of_compile_eq_ok hcompile).1⟩
  · rw [parse_eq_error_iff, classify_eq_error_iff] at he
    obtain ⟨-, source, letter, htext, -⟩ := he
    exact ⟨source, letter, htext⟩

/-- The last slash ends an expression, and a long s counts as one in a keyword; an expression that
cannot be read makes reading fail. -/
theorem parse_iff_grammar_slash :
    (∃ regex flag, parse " AND matcheſ /a/b/I " =
        .ok ⟨trim " AND matcheſ /a/b/I ", .pattern regex flag⟩ ∧
      regex.source = "a/b" ∧ regex.ignoreCase = true ∧ flag.letter = 'i') ∧
    ∃ cause, parse "matches /(/g" = .error ⟨trim "matches /(/g", cause⟩ := by
  have hread : InlineText (trim " AND matcheſ /a/b/I ").toList "a/b".toList 'I' :=
    ⟨"AND ".toList, "matcheſ /".toList, .inr (by decide), by decide, by decide, by simp,
      by decide, by decide⟩
  have hfail : InlineText (trim "matches /(/g").toList ['('] 'g' :=
    ⟨[], "matches /".toList, .inl rfl, by decide, by decide, by simp, by decide, by decide⟩
  obtain ⟨-, -, -, -, -, hslash, -⟩ := parse_iff_grammar " AND matcheſ /a/b/I "
  obtain ⟨-, -, -, -, -, hopen, -⟩ := parse_iff_grammar "matches /(/g"
  constructor
  · cases hcompile : Pattern.compile (String.ofList "a/b".toList) (ignoresCase 'I') with
    | error cause =>
      have hok : (Pattern.compile (String.ofList "a/b".toList) (ignoresCase 'I')).isOk = true := by
        decide +kernel
      rw [hcompile] at hok
      cases hok
    | ok regex =>
      obtain ⟨flag, hparse, hsource, hcase, hletter⟩ := (hslash _ _ hread).1 regex hcompile
      exact ⟨regex, flag, hparse, hsource, hcase, hletter⟩
  · cases hcompile : Pattern.compile (String.ofList ['(']) (ignoresCase 'g') with
    | error cause => exact ⟨cause, (hopen _ _ hfail).2 cause hcompile⟩
    | ok regex =>
      have hok : (Pattern.compile (String.ofList ['(']) (ignoresCase 'g')).isOk = false := by
        decide +kernel
      rw [hcompile] at hok
      cases hok

end Clause

end Clausal
