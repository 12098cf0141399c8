import Clausal.Proofs.Clause.Grammar

/-!
# The shapes of clauses

Reading a clause tries eight patterns in turn, so what comes out could depend on their order.  It
does not: a text has at most one of the eight shapes (`Shape.eq_of_isText`), because the letters of
its keywords tell which one it could be.  So the kind that is read off a text is of some shape
exactly if the pattern of that shape matches (`Clause.isMatch_pattern_iff_of_parse`).

## Main definitions

- `Shape`: the shapes of clauses with operands
- `Shape.IsText`: the texts that have a shape
- `Shape.hint`: the only shape that a text can have
- `ClauseKind.shape?`: the shape of the clauses of a kind
- `Clause.Denotes`: the kind that a text denotes, operands included
-/

namespace Clausal

/-- The shapes of clauses with operands. -/
inductive Shape where
  /-- A number of characters between two bounds. -/
  | range
  /-- A least number of characters. -/
  | atLeast
  /-- A number of characters after "up to". -/
  | upTo
  /-- A relation to an operand. -/
  | comparison (op : ComparisonOp)
  /-- A regular expression between slashes. -/
  | inline
deriving DecidableEq

/-- The shape of the clauses of a kind, if they have operands. -/
def ClauseKind.shape? : ClauseKind → Option Shape
  | bound (some _) (some _) => some .range
  | bound (some _) none => some .atLeast
  | bound none (some _) => some .upTo
  | comparison op _ => some (.comparison op)
  | pattern _ _ => some .inline
  | bound none none | type | plain => none

/-- The words of a relation, and the space after them. -/
def ComparisonOp.keyword : ComparisonOp → String
  | greater => "greater than "
  | greaterOrEqual => "greater than or equal to "
  | less => "less than "
  | lessOrEqual => "less than or equal to "

namespace Shape

open Grammar Regex

variable {s s' : Shape} {u : List Char} {text : String}

def all : List Shape :=
  [range, atLeast, upTo] ++ ComparisonOp.all.map comparison ++ [inline]

def pattern : Shape → Pattern
  | range => lengthRange
  | atLeast => lengthAtLeast
  | upTo => lengthUpTo
  | comparison op => op.pattern
  | inline => inlinePattern

/-- The texts that have a shape. -/
def IsText : Shape → List Char → Prop
  | range, u => ∃ low high, RangeText u low high
  | atLeast, u => ∃ low, NumberText "with " " or more characters" u low
  | upTo, u => ∃ high, NumberText "with up to " " characters" u high
  | comparison op, u => ComparisonText op.keyword u
  | inline, u => ∃ source letter, InlineText u source letter

theorem isMatch_pattern_iff : s.pattern.isMatch text = true ↔ s.IsText text.toList := by
  rw [Pattern.isMatch, isMatch_iff]
  cases s with
  | range => exact lengthRange_matchesIn_iff
  | atLeast =>
    simp only [pattern, lengthAtLeast, List.append_assoc, List.cons_append]
    exact number_matchesIn_iff (by decide) (by decide)
  | upTo =>
    simp only [pattern, lengthUpTo, List.append_assoc, List.cons_append]
    exact number_matchesIn_iff (by decide) (by decide)
  | comparison op =>
    cases op with
    | greater => exact comparison_matchesIn_iff (by decide)
    | greaterOrEqual => exact comparison_matchesIn_iff (by decide)
    | less => exact comparison_matchesIn_iff (by decide)
    | lessOrEqual => exact comparison_matchesIn_iff (by decide)
  | inline => exact inlinePattern_matchesIn_iff

/-- The only shape that a text can have, given the letters that its characters count as: what comes
after the keyword that it has to begin with, and after a numeral there, tells. -/
def hint (u : List Char) : Shape :=
  match u with
  | 'w' :: rest =>
    match ((rest.drop 4).dropWhile Char.isDigit).drop 1 with
    | 't' :: _ => range
    | 'o' :: _ => atLeast
    | _ => upTo
  | 'g' :: rest =>
    comparison (if (rest.drop 12).head? = some 'o' then .greaterOrEqual else .greater)
  | 'l' :: rest =>
    comparison (if (rest.drop 9).head? = some 'o' then .lessOrEqual else .less)
  | _ => inline

theorem fold_of_isDigit {c : Char} (h : c.isDigit = true) : fold c = c := by
  have hlimit : c.toNat ≤ 0x39 := (Char.isDigit_iff_toNat.mp h).2
  rw [← Char.toNat_inj, toNat_fold, if_neg (by omega), if_neg (by omega)]

theorem map_fold_of_isNumeral {d : List Char} (h : IsNumeral d) : d.map fold = d := by
  rw [List.map_congr_left fun c hc => fold_of_isDigit (h.2 c hc), List.map_id']

theorem dropWhile_numeral {d rest : List Char} {c : Char} (h : IsNumeral d)
    (hc : c.isDigit = false) : (d ++ c :: rest).dropWhile Char.isDigit = c :: rest := by
  rw [List.dropWhile_append_of_pos h.2, List.dropWhile_cons_of_neg (by simp [hc])]

/-- After a numeral the second character tells what a text is that begins with "with". -/
theorem hint_with {d rest : List Char} {c : Char} (hd : IsNumeral d) (hc : c.isDigit = false) :
    hint ("with ".toList ++ (d ++ c :: rest)) =
      match rest with
      | 't' :: _ => range
      | 'o' :: _ => atLeast
      | _ => upTo := by
  change (match ((d ++ c :: rest).dropWhile Char.isDigit).drop 1 with
    | 't' :: _ => range
    | 'o' :: _ => atLeast
    | _ => upTo) = _
  rw [dropWhile_numeral hd hc]
  rfl

/-- A text that has a shape has the one that its letters hint at. -/
theorem hint_eq_of_isText (h : s.IsText u) : hint (u.map fold) = s := by
  cases s with
  | range =>
    obtain ⟨low, high, w, t, c, hw, hlow, ht, hhigh, hc, rfl⟩ := h
    rw [List.map_append, List.map_append, List.map_append, map_fold_of_isNumeral hlow, hw, ht]
    exact hint_with hlow rfl
  | atLeast =>
    obtain ⟨low, w, c, hw, hlow, hc, rfl⟩ := h
    rw [List.map_append, List.map_append, map_fold_of_isNumeral hlow, hw, hc]
    exact hint_with hlow rfl
  | upTo =>
    obtain ⟨high, w, c, hw, hhigh, hc, rfl⟩ := h
    rw [List.map_append, hw]
    rfl
  | comparison op =>
    obtain ⟨w, d, rest, hw, hd, rfl⟩ := h
    -- A digit comes where the longer relation goes on with `or`.
    have hne : d ≠ 'o' := by
      rintro rfl
      cases hd
    rw [List.map_append, List.map_cons, hw, fold_of_isDigit hd]
    cases op with
    | greater => exact congrArg comparison (if_neg fun h => hne (Option.some.inj h))
    | greaterOrEqual => rfl
    | less => exact congrArg comparison (if_neg fun h => hne (Option.some.inj h))
    | lessOrEqual => rfl
  | inline =>
    obtain ⟨source, letter, a, w, rfl | ha, hw, -, -, -, rfl⟩ := h
    · rw [List.nil_append, List.map_append, hw]
      rfl
    · rw [List.map_append, ha]
      rfl

theorem eq_of_isText (h : s.IsText u) (h' : s'.IsText u) : s = s' := by
  rw [← hint_eq_of_isText h, hint_eq_of_isText h']

end Shape

namespace Clause

open Grammar

variable {u : List Char} {text : String} {kind : ClauseKind} {c : Clause} {s : Shape}

/-- A text of a clause with operands, and the kind that it denotes. -/
inductive Denotes : List Char → ClauseKind → Prop where
  | range {u low high : List Char} (text : RangeText u low high) :
      Denotes u (.bound (boundOfDigits (String.ofList low)) (boundOfDigits (String.ofList high)))
  | atLeast {u low : List Char} (text : NumberText "with " " or more characters" u low) :
      Denotes u (.bound (boundOfDigits (String.ofList low)) none)
  | upTo {u high : List Char} (text : NumberText "with up to " " characters" u high) :
      Denotes u (.bound none (boundOfDigits (String.ofList high)))
  /-- A relation; its operand comes after the last space. -/
  | comparison {u : List Char} {op : ComparisonOp} (text : ComparisonText op.keyword u) :
      Denotes u (.comparison op (afterLastSpace (String.ofList u)))
  /-- A regular expression that can be read under its flag. -/
  | inline {u source : List Char} {letter : Char} {regex : Pattern}
      (text : InlineText u source letter)
      (compiles : Pattern.compile (String.ofList source)
        (flagOfLetter (String.ofList [letter]) = .ignoreCase) = .ok regex) :
      Denotes u (.pattern regex (flagOfLetter (String.ofList [letter])))

theorem Denotes.exists_shape (h : Denotes u kind) : ∃ s, kind.shape? = some s ∧ s.IsText u := by
  cases h with
  | range text => exact ⟨.range, rfl, _, _, text⟩
  | atLeast text => exact ⟨.atLeast, rfl, _, text⟩
  | upTo text => exact ⟨.upTo, rfl, _, text⟩
  | comparison text => exact ⟨.comparison _, rfl, text⟩
  | inline text _ => exact ⟨.inline, rfl, _, _, text⟩

/-- A text is read as a bound if it denotes one, and only if it has none of the shapes of bounds is
it not. -/
theorem bound?_cases (text : String) :
    (∃ kind, bound? text = some kind ∧ Denotes text.toList kind) ∨
      (bound? text = none ∧ ∀ s ∈ [Shape.range, .atLeast, .upTo], ¬ s.IsText text.toList) := by
  have hlow : lengthAtLeast.regex = anchored (keyword "with " ++ digits 1 ::
      (keyword " or more characters" ++ [.assert .textEnd])) := by
    simp only [lengthAtLeast, List.append_assoc, List.cons_append]
  have hhigh : lengthUpTo.regex = anchored (keyword "with up to " ++ digits 1 ::
      (keyword " characters" ++ [.assert .textEnd])) := by
    simp only [lengthUpTo, List.append_assoc, List.cons_append]
  rw [bound?]
  rcases captures?_lengthRange text with ⟨low, high, htext, hcaptures⟩ | ⟨hnone, hrange⟩
  · rw [hcaptures]
    exact .inl ⟨_, rfl, .range htext⟩
  rw [hnone]
  rcases captures?_number (by decide) (by decide) hlow text with
    ⟨low, htext, hcaptures⟩ | ⟨hnone, hatLeast⟩
  · rw [hcaptures]
    exact .inl ⟨_, rfl, .atLeast htext⟩
  rw [hnone]
  rcases captures?_number (by decide) (by decide) hhigh text with
    ⟨high, htext, hcaptures⟩ | ⟨hnone, hupTo⟩
  · rw [hcaptures]
    exact .inl ⟨_, rfl, .upTo htext⟩
  rw [hnone]
  refine .inr ⟨rfl, fun s hs => ?_⟩
  simp only [List.mem_cons, List.not_mem_nil, or_false] at hs
  rcases hs with rfl | rfl | rfl
  · exact hrange
  · exact hatLeast
  · exact hupTo

/-- A text is read as a relation if it denotes one, and only if it has none of the shapes of
relations is it not. -/
theorem comparison?_cases (text : String) :
    (∃ kind, comparison? text = some kind ∧ Denotes text.toList kind) ∨
      (comparison? text = none ∧ ∀ op, ¬ (Shape.comparison op).IsText text.toList) := by
  rw [comparison?]
  cases hfind : ComparisonOp.all.find? fun op => op.pattern.isMatch text with
  | some op =>
    have hmatch : op.pattern.isMatch text = true := by
      simpa using List.find?_some hfind
    have htext : (Shape.comparison op).IsText text.toList := Shape.isMatch_pattern_iff.mp hmatch
    refine .inl ⟨_, rfl, ?_⟩
    have hdenotes := Denotes.comparison htext
    rwa [String.ofList_toList] at hdenotes
  | none =>
    refine .inr ⟨rfl, fun op htext => ?_⟩
    have hmem : op ∈ ComparisonOp.all := by cases op <;> decide
    exact List.find?_eq_none.mp hfind op hmem (Shape.isMatch_pattern_iff.mpr htext)

/-- What a text is read as it denotes, but for texts without a shape, which are read as plain. -/
theorem denotes_of_classify (h : classify text = .ok kind) :
    Denotes text.toList kind ∨ (kind = .plain ∧ ∀ s : Shape, ¬ s.IsText text.toList) := by
  rw [classify] at h
  rcases bound?_cases text with ⟨k, hk, hdenotes⟩ | ⟨hk, hbound⟩
  · rw [hk] at h
    cases h
    exact .inl hdenotes
  rw [hk] at h
  rcases comparison?_cases text with ⟨k, hk, hdenotes⟩ | ⟨hk, hcomparison⟩
  · rw [hk] at h
    cases h
    exact .inl hdenotes
  rw [hk] at h
  rcases captures?_inlinePattern text with ⟨source, letter, a, htext, hcaptures⟩ | ⟨hnone, hinline⟩
  · rw [hcaptures] at h
    dsimp only at h
    split at h
    · next regex hregex =>
      cases h
      exact .inl (.inline htext hregex)
    · cases h
  · rw [hnone] at h
    cases h
    refine .inr ⟨rfl, fun s hs => ?_⟩
    cases s with
    | range => exact hbound .range (by simp) hs
    | atLeast => exact hbound .atLeast (by simp) hs
    | upTo => exact hbound .upTo (by simp) hs
    | comparison op => exact hcomparison op hs
    | inline => exact hinline hs

theorem shape?_eq_some_iff_of_classify (h : classify text = .ok kind) :
    kind.shape? = some s ↔ s.IsText text.toList := by
  rcases denotes_of_classify h with hdenotes | ⟨rfl, hnone⟩
  · obtain ⟨s', hs', htext⟩ := hdenotes.exists_shape
    rw [hs']
    -- The kind has a shape that the text has, and the text has no other.
    constructor
    · rintro ⟨⟩
      exact htext
    · exact fun hs => congrArg some (Shape.eq_of_isText htext hs)
  · exact ⟨nofun, fun hs => absurd hs (hnone s)⟩

theorem shape?_eq_none_iff_of_classify (h : classify text = .ok kind) :
    kind.shape? = none ↔ kind = .plain := by
  constructor
  · intro hnone
    rcases denotes_of_classify h with hdenotes | ⟨hplain, -⟩
    · obtain ⟨s, hs, -⟩ := hdenotes.exists_shape
      cases hs.symm.trans hnone
    · exact hplain
  · rintro rfl
    rfl

theorem classify_of_parse (h : parse text = .ok c) : classify c.text = .ok c.kind := by
  rw [parse] at h
  cases hkind : classify (trim text) with
  | error e =>
    rw [hkind] at h
    cases h
  | ok kind =>
    rw [hkind] at h
    cases h
    exact hkind

theorem isMatch_pattern_iff_of_parse (h : parse text = .ok c) :
    s.pattern.isMatch c.text = true ↔ c.kind.shape? = some s := by
  rw [Shape.isMatch_pattern_iff, shape?_eq_some_iff_of_classify (classify_of_parse h)]

end Clause

end Clausal
