import Clausal.Clause.Basic
import Clausal.Proofs.Regex.Compound

/-!
# The texts of clauses with operands

What the eight patterns of `Clausal.Grammar` match, said without regular expressions: keywords in
either letter case, numerals, and what lies between them.  For the patterns with groups it is also
said what the groups capture.

## Main definitions

- `Grammar.Spells`: a text is a keyword in either letter case
- `Grammar.IsNumeral`: a text is a run of decimal digits
- `Grammar.RangeText`, `Grammar.NumberText`, `Grammar.ComparisonText`, `Grammar.InlineText`: the
  forms of clauses with operands
-/

namespace Clausal

namespace Grammar

/-- The letter that a character counts as in a keyword: its lower-case form, and `s` for the long
s. -/
def fold (c : Char) : Char :=
  if c = 'ſ' then 's' else c.toLower

/-- The characters that keywords may have: a space, a slash, and the lower-case letters but for `k`,
which a character outside ASCII counts as. -/
def keywordChars : List Char :=
  "abcdefghijlmnopqrstuvwxyz /".toList

/-- The code points of the characters that count as a character of a keyword. -/
def codes (k : Nat) : List Nat :=
  if k = 0x73 then [0x53, 0x73, 0x17F] else if 0x61 ≤ k then [k - 0x20, k] else [k]

/-- Whether a text can be a keyword. -/
def isKeyword (text : String) : Bool :=
  text.toList.all fun c => keywordChars.contains c

/-- The code points of the characters that keywords may have, and the sets of the characters that
differ from them in case only. -/
theorem closeUnderCase_of_mem_keywordChars {k : Char} (hk : k ∈ keywordChars) :
    (k.toNat = 0x20 ∨ k.toNat = 0x2F ∨ (0x61 ≤ k.toNat ∧ k.toNat ≤ 0x7A)) ∧
      (CharSet.singleton k).closeUnderCase = ⟨(codes k.toNat).map Span.single⟩ := by
  -- There are 27 of them, so the table of cases can be consulted for each.
  have hall : keywordChars.all (fun k =>
      decide ((k.toNat = 0x20 ∨ k.toNat = 0x2F ∨ (0x61 ≤ k.toNat ∧ k.toNat ≤ 0x7A)) ∧
        (CharSet.singleton k).closeUnderCase = ⟨(codes k.toNat).map Span.single⟩)) = true := by
    decide +kernel
  exact of_decide_eq_true (List.all_eq_true.mp hall k hk)

theorem toNat_fold (c : Char) : (fold c).toNat =
    if c.toNat = 0x17F then 0x73
    else if 0x41 ≤ c.toNat ∧ c.toNat ≤ 0x5A then c.toNat + 0x20 else c.toNat := by
  rw [fold]
  by_cases hs : c = 'ſ'
  · subst hs
    rfl
  · have hcode : c.toNat ≠ 0x17F := fun h => hs (Char.toNat_inj.mp h)
    rw [if_neg hs, if_neg hcode]
    delta Char.toLower
    simp only [ge_iff_le, UInt32.le_iff_toNat_le, Char.toNat_val]
    split
    · next h =>
      have hlimit : c.val.toNat + 0x20 < 2 ^ 32 := by
        rw [Char.toNat_val]
        exact Nat.lt_of_le_of_lt (Nat.add_le_add_right h.2 _) (by decide)
      exact (if_pos h).symm ▸ (UInt32.toNat_add ..).trans (Nat.mod_eq_of_lt hlimit)
    · next h => exact (if_neg h).symm

/-- A character counts as one of a keyword if its code point is among those listed. -/
theorem fold_eq_iff {k c : Char} (hk : k ∈ keywordChars) :
    fold c = k ↔ c.toNat ∈ codes k.toNat := by
  obtain ⟨hrange, -⟩ := closeUnderCase_of_mem_keywordChars hk
  rw [← Char.toNat_inj, toNat_fold]
  by_cases hs : k.toNat = 0x73
  · simp only [codes, hs, if_true, List.mem_cons, List.not_mem_nil, or_false]
    repeat' split
    all_goals omega
  · by_cases hletter : 0x61 ≤ k.toNat
    · simp only [codes, hs, hletter, if_true, if_false, List.mem_cons, List.not_mem_nil, or_false]
      repeat' split
      all_goals omega
    · simp only [codes, hs, hletter, if_false, List.mem_singleton]
      repeat' split
      all_goals omega

theorem contains_closeUnderCase_iff {k c : Char} (hk : k ∈ keywordChars) :
    (CharSet.singleton k).closeUnderCase.contains c = true ↔ fold c = k := by
  rw [(closeUnderCase_of_mem_keywordChars hk).2, fold_eq_iff hk, CharSet.contains,
    CharSet.containsCode]
  simp [Span.single, Span.contains, List.any_map, ← Bool.decide_and, ← Nat.le_antisymm_iff]

/-- A text is a keyword, each letter in either case. -/
def Spells (keyword : String) (cs : List Char) : Prop :=
  cs.map fold = keyword.toList

instance (keyword : String) (cs : List Char) : Decidable (Spells keyword cs) :=
  inferInstanceAs (Decidable (cs.map fold = keyword.toList))

/-- A text is a number in decimal digits. -/
def IsNumeral (cs : List Char) : Prop :=
  cs ≠ [] ∧ ∀ c ∈ cs, c.isDigit = true

theorem contains_digit_iff {c : Char} :
    (CharSet.ofText "30-39").contains c = true ↔ c.isDigit = true := by
  have hset : CharSet.ofText "30-39" = ⟨[Span.between 0x30 0x39]⟩ := by decide +kernel
  rw [hset, Char.isDigit_iff_toNat]
  simp [CharSet.contains, CharSet.containsCode, Span.contains, Span.between]

open Regex

variable {rs : List Regex} {p q : Place} {m n : Marks} {u : List Char}

theorem matches_keyword_iff {k : String} (hk : isKeyword k = true) :
    Matches (seqs (keyword k ++ rs)) p m q n ↔
      ∃ w t, Spells k w ∧ p.Reads w t ∧ Matches (seqs rs) t m q n := by
  rw [isKeyword] at hk
  simp only [keyword, Spells]
  -- The induction is on the letters, each of which is a set of its own.
  generalize k.toList = ks at hk
  induction ks generalizing p with
  | nil =>
    constructor
    · exact fun h => ⟨[], p, rfl, .refl p, h⟩
    · rintro ⟨w, t, hw, hread, h⟩
      obtain rfl := List.map_eq_nil_iff.mp hw
      obtain rfl := hread.eq_of_nil
      exact h
  | cons k ks ih =>
    rw [List.all_cons, Bool.and_eq_true_iff, List.contains_iff_mem] at hk
    obtain ⟨hk, hks⟩ := hk
    rw [List.map_cons, List.cons_append, matches_seqs_cons_iff]
    constructor
    · rintro ⟨t, m', hfirst, hothers⟩
      obtain ⟨c, hc, hread, rfl⟩ := matches_chars_iff.mp hfirst
      obtain ⟨w, t', hw, hreads, h⟩ := (ih hks).mp hothers
      refine ⟨c :: w, t', ?_, hread.trans hreads, h⟩
      rw [List.map_cons, hw, (contains_closeUnderCase_iff hk).mp hc]
    · rintro ⟨w, t, hw, hread, h⟩
      obtain ⟨c, w, rfl, hc, hw⟩ := List.map_eq_cons_iff.mp hw
      obtain ⟨t', hc', hw'⟩ := hread.split_cons
      exact ⟨t', m, matches_chars_iff.mpr ⟨c, (contains_closeUnderCase_iff hk).mpr hc, hc', rfl⟩,
        (ih hks).mpr ⟨w, t, hw, hw', h⟩⟩

theorem matches_digits_iff {index : Nat} : Matches (seqs (digits index :: rs)) p m q n ↔
    ∃ d t, IsNumeral d ∧ p.Reads d t ∧
      Matches (seqs rs) t ((closeSlot index, t.offset) :: (openSlot index, p.offset) :: m) q n := by
  simp only [digits, digit, matches_run_iff, contains_digit_iff, IsNumeral]

theorem matches_textEnd_iff :
    Matches (seqs [.assert .textEnd]) p m q n ↔ p.after = [] ∧ q = p ∧ n = m := by
  rw [seqs, matches_assert_iff]
  simp [Assertion.holdsAt, Assertion.holds]

/-- An anchored expression matches from the start of a text only. -/
theorem matches_anchored_iff :
    Matches (anchored rs) p m q n ↔ p.before = [] ∧ Matches (seqs rs) p m q n := by
  rw [anchored, matches_seqs_cons_iff]
  constructor
  · rintro ⟨t, k, hstart, h⟩
    obtain ⟨hholds, rfl, rfl⟩ := matches_assert_iff.mp hstart
    exact ⟨by simpa [Assertion.holdsAt, Assertion.holds] using hholds, h⟩
  · rintro ⟨hstart, h⟩
    exact ⟨p, m, .assert (by simp [Assertion.holdsAt, Assertion.holds, hstart]), h⟩

theorem matchesIn_anchored_iff :
    (anchored rs).MatchesIn u ↔ ∃ q n, Matches (seqs rs) (.start u) [] q n := by
  constructor
  · rintro ⟨p, q, n, htext, h⟩
    obtain ⟨hstart, h⟩ := matches_anchored_iff.mp h
    obtain ⟨before, after⟩ := p
    obtain rfl : before = [] := hstart
    obtain rfl : after = u := htext
    exact ⟨q, n, h⟩
  · rintro ⟨q, n, h⟩
    exact ⟨_, q, n, rfl, matches_anchored_iff.mpr ⟨rfl, h⟩⟩

theorem matches_of_find?_anchored (h : (anchored rs).find? u = some n) :
    ∃ q, Matches (seqs rs) (.start u) [] q n := by
  obtain ⟨p, q, htext, hmatch⟩ := exists_matches_of_find? h
  obtain ⟨hstart, hparts⟩ := matches_anchored_iff.mp hmatch
  obtain ⟨before, after⟩ := p
  obtain rfl : before = [] := hstart
  obtain rfl : after = u := htext
  exact ⟨q, hparts⟩

/-- A text with two numerals, after three keywords in turn. -/
def RangeText (u low high : List Char) : Prop :=
  ∃ w t c, Spells "with " w ∧ IsNumeral low ∧ Spells " to " t ∧ IsNumeral high ∧
    Spells " characters" c ∧ u = w ++ (low ++ (t ++ (high ++ c)))

/-- A text with one numeral, between two keywords. -/
def NumberText (front back : String) (u number : List Char) : Prop :=
  ∃ w c, Spells front w ∧ IsNumeral number ∧ Spells back c ∧ u = w ++ (number ++ c)

/-- A text with something that begins with a digit after a keyword. -/
def ComparisonText (front : String) (u : List Char) : Prop :=
  ∃ w d rest, Spells front w ∧ d.isDigit = true ∧ u = w ++ d :: rest

/-- A text with a regular expression between slashes, and the letter of its flag. -/
def InlineText (u source : List Char) (letter : Char) : Prop :=
  ∃ a w, (a = [] ∨ Spells "and " a) ∧ Spells "matches /" w ∧
    source ≠ [] ∧ (∀ c ∈ source, c ≠ '\n') ∧
    (letter = 'i' ∨ letter = 'I' ∨ letter = 'g' ∨ letter = 'G') ∧
    u = a ++ (w ++ (source ++ ['/', letter]))

/-- What the parts of the pattern for ranges match, and the marks that they record. -/
theorem matches_lengthRange_iff :
    Matches (seqs (keyword "with " ++ digits 1 :: (keyword " to " ++ digits 2 ::
      (keyword " characters" ++ [.assert .textEnd])))) p [] q n ↔
    ∃ w t₁, Spells "with " w ∧ p.Reads w t₁ ∧ ∃ low t₂, IsNumeral low ∧ t₁.Reads low t₂ ∧
      ∃ t t₃, Spells " to " t ∧ t₂.Reads t t₃ ∧ ∃ high t₄, IsNumeral high ∧ t₃.Reads high t₄ ∧
      ∃ c t₅, Spells " characters" c ∧ t₄.Reads c t₅ ∧ t₅.after = [] ∧ q = t₅ ∧
        n = [(closeSlot 2, t₄.offset), (openSlot 2, t₃.offset), (closeSlot 1, t₂.offset),
          (openSlot 1, t₁.offset)] := by
  simp only [matches_keyword_iff (k := "with ") (by decide), matches_digits_iff,
    matches_keyword_iff (k := " to ") (by decide),
    matches_keyword_iff (k := " characters") (by decide), matches_textEnd_iff]

theorem lengthRange_matchesIn_iff :
    lengthRange.regex.MatchesIn u ↔ ∃ low high, RangeText u low high := by
  simp only [lengthRange, List.append_assoc, List.cons_append, matchesIn_anchored_iff,
    matches_lengthRange_iff]
  constructor
  · rintro ⟨q, n, w, t₁, hw, r₁, low, t₂, hlow, r₂, t, t₃, ht, r₃, high, t₄, hhigh, r₄, c, t₅, hc,
      r₅, hend, -, -⟩
    refine ⟨low, high, w, t, c, hw, hlow, ht, hhigh, hc, ?_⟩
    rw [r₁.of_start.1, r₂.1, r₃.1, r₄.1, r₅.1, hend, List.append_nil]
  · rintro ⟨low, high, w, t, c, hw, hlow, ht, hhigh, hc, rfl⟩
    exact ⟨_, _, w, _, hw, .of_append .., low, _, hlow, .of_append .., t, _, ht, .of_append ..,
      high, _, hhigh, .of_append .., c, _, hc, .to_end .., rfl, rfl, rfl⟩

theorem captured_of_find?_lengthRange (h : lengthRange.regex.find? u = some n) :
    ∃ low high, RangeText u low high ∧ captured u n 1 = some low ∧ captured u n 2 = some high := by
  simp only [lengthRange, List.append_assoc, List.cons_append] at h
  obtain ⟨q, h⟩ := matches_of_find?_anchored h
  obtain ⟨w, t₁, hw, r₁, low, t₂, hlow, r₂, t, t₃, ht, r₃, high, t₄, hhigh, r₄, c, t₅, hc, r₅,
    hend, -, rfl⟩ := matches_lengthRange_iff.mp h
  refine ⟨low, high, ⟨w, t, c, hw, hlow, ht, hhigh, hc, ?_⟩, ?_, ?_⟩
  · rw [r₁.of_start.1, r₂.1, r₃.1, r₄.1, r₅.1, hend, List.append_nil]
  · exact captured_of_reads r₁ r₂ rfl rfl
  · exact captured_of_reads ((r₁.trans r₂).trans r₃) r₄ rfl rfl

section Number

variable {front back : String} (hfront : isKeyword front = true)
  (hback : isKeyword back = true)

include hfront hback

theorem matches_number_iff :
    Matches (seqs (keyword front ++ digits 1 :: (keyword back ++ [.assert .textEnd]))) p [] q n ↔
    ∃ w t₁, Spells front w ∧ p.Reads w t₁ ∧ ∃ d t₂, IsNumeral d ∧ t₁.Reads d t₂ ∧
      ∃ c t₃, Spells back c ∧ t₂.Reads c t₃ ∧ t₃.after = [] ∧ q = t₃ ∧
        n = [(closeSlot 1, t₂.offset), (openSlot 1, t₁.offset)] := by
  simp only [matches_keyword_iff hfront, matches_digits_iff, matches_keyword_iff hback,
    matches_textEnd_iff]

theorem number_matchesIn_iff :
    (anchored (keyword front ++ digits 1 :: (keyword back ++ [.assert .textEnd]))).MatchesIn u ↔
      ∃ d, NumberText front back u d := by
  simp only [matchesIn_anchored_iff, matches_number_iff hfront hback]
  constructor
  · rintro ⟨q, n, w, t₁, hw, r₁, d, t₂, hd, r₂, c, t₃, hc, r₃, hend, -, -⟩
    refine ⟨d, w, c, hw, hd, hc, ?_⟩
    rw [r₁.of_start.1, r₂.1, r₃.1, hend, List.append_nil]
  · rintro ⟨d, w, c, hw, hd, hc, rfl⟩
    exact ⟨_, _, w, _, hw, .of_append .., d, _, hd, .of_append .., c, _, hc, .to_end .., rfl, rfl,
      rfl⟩

theorem captured_of_find?_number
    (h : (anchored (keyword front ++ digits 1 :: (keyword back ++ [.assert .textEnd]))).find? u =
      some n) : ∃ d, NumberText front back u d ∧ captured u n 1 = some d := by
  obtain ⟨q, h⟩ := matches_of_find?_anchored h
  obtain ⟨w, t₁, hw, r₁, d, t₂, hd, r₂, c, t₃, hc, r₃, hend, -, rfl⟩ :=
    (matches_number_iff hfront hback).mp h
  refine ⟨d, ⟨w, c, hw, hd, hc, ?_⟩, captured_of_reads r₁ r₂ rfl rfl⟩
  rw [r₁.of_start.1, r₂.1, r₃.1, hend, List.append_nil]

end Number

theorem comparison_matchesIn_iff {front : String} (hfront : isKeyword front = true) :
    (anchored (keyword front ++ [digit])).MatchesIn u ↔ ComparisonText front u := by
  simp only [matchesIn_anchored_iff, matches_keyword_iff hfront, seqs, digit, matches_chars_iff,
    contains_digit_iff]
  constructor
  · rintro ⟨q, n, w, t, hw, r, d, hd, r', -⟩
    refine ⟨w, d, q.after, hw, hd, ?_⟩
    rw [r.of_start.1, r'.1]
    rfl
  · rintro ⟨w, d, rest, hw, hd, rfl⟩
    exact ⟨_, _, w, _, hw, .of_append .., d, hd, .single .., rfl⟩

theorem contains_notLineFeed_iff {c : Char} :
    (CharSet.singleton '\n').complement.contains c = true ↔ c ≠ '\n' := by
  have hset : (CharSet.singleton '\n').complement =
      ⟨[Span.between 0 0x9, Span.between 0xB CharSet.maxCode]⟩ := by decide +kernel
  have hlimit : c.toNat ≤ 0x10FFFF := by
    rcases c.valid with h | ⟨-, h⟩
    · exact Nat.le_of_lt (Nat.lt_trans h (by decide))
    · exact Nat.le_of_lt_succ h
  rw [hset, ne_eq, ← Char.toNat_inj]
  simp [CharSet.contains, CharSet.containsCode, Span.contains, Span.between, CharSet.maxCode]
  omega

theorem contains_flags_iff {c : Char} : (CharSet.ofText "67 69").closeUnderCase.contains c = true ↔
    (c = 'i' ∨ c = 'I' ∨ c = 'g' ∨ c = 'G') := by
  have hset : (CharSet.ofText "67 69").closeUnderCase =
      ⟨['G', 'I', 'g', 'i'].map fun c => Span.single c.toNat⟩ := by decide +kernel
  rw [hset, CharSet.contains, CharSet.containsCode]
  simp only [← Char.toNat_inj]
  simp [Span.single, Span.contains]
  omega

theorem spells_slash_iff {w : List Char} : Spells "/" w ↔ w = ['/'] := by
  have hslash {c : Char} : fold c = '/' ↔ c = '/' := by
    rw [fold_eq_iff (by decide), ← Char.toNat_inj]
    exact List.mem_singleton
  constructor
  · intro h
    obtain ⟨c, rfl, hc⟩ := List.map_eq_singleton_iff.mp h
    rw [hslash.mp hc]
  · rintro rfl
    rfl

/-- The word that may come first matches the texts that spell it, and none. -/
theorem exists_matches_and_iff : (∃ n, Matches (.repeated 0 (some 1) true
      (group 1 (seqs (keyword "and ")))) p m q n) ↔
    ∃ a, (a = [] ∨ Spells "and " a) ∧ p.Reads a q := by
  rw [← List.append_nil (keyword "and ")]
  simp only [matches_optional_iff, matches_group_iff, matches_keyword_iff (k := "and ") (by decide),
    seqs, matches_empty_iff]
  constructor
  · rintro ⟨n, ⟨rfl, rfl⟩ | ⟨k, ⟨a, t, ha, hread, rfl, rfl⟩, rfl⟩⟩
    · exact ⟨[], .inl rfl, .refl _⟩
    · exact ⟨a, .inr ha, hread⟩
  · rintro ⟨a, rfl | ha, hread⟩
    · exact ⟨m, .inl ⟨hread.eq_of_nil, rfl⟩⟩
    · exact ⟨_, .inr ⟨_, ⟨a, q, ha, hread, rfl, rfl⟩, rfl⟩⟩

/-- What the other parts of the pattern for expressions match, and the marks that they record. -/
theorem matches_inline_iff : Matches (seqs (keyword "matches /" ++
      group 2 (.repeated 1 none true (.chars (CharSet.singleton '\n').complement)) ::
      (keyword "/" ++ [group 3 (.chars (CharSet.ofText "67 69").closeUnderCase),
        .assert .textEnd]))) p m q n ↔
    ∃ w t₁, Spells "matches /" w ∧ p.Reads w t₁ ∧ ∃ s t₂, (s ≠ [] ∧ ∀ c ∈ s, c ≠ '\n') ∧
      t₁.Reads s t₂ ∧ ∃ x t₃, x = ['/'] ∧ t₂.Reads x t₃ ∧
      ∃ c t₄, (c = 'i' ∨ c = 'I' ∨ c = 'g' ∨ c = 'G') ∧ t₃.Reads [c] t₄ ∧ t₄.after = [] ∧ q = t₄ ∧
        n = (closeSlot 3, t₄.offset) :: (openSlot 3, t₃.offset) :: (closeSlot 2, t₂.offset) ::
          (openSlot 2, t₁.offset) :: m := by
  simp only [matches_keyword_iff (k := "matches /") (by decide), matches_run_iff,
    contains_notLineFeed_iff, matches_keyword_iff (k := "/") (by decide), spells_slash_iff,
    matches_group_chars_iff, contains_flags_iff, matches_textEnd_iff]

theorem inlinePattern_matchesIn_iff :
    inlinePattern.regex.MatchesIn u ↔ ∃ source letter, InlineText u source letter := by
  simp only [inlinePattern, List.append_assoc, List.cons_append, matchesIn_anchored_iff]
  constructor
  · rintro ⟨q, n, h⟩
    obtain ⟨t, k, hand, hrest⟩ := matches_seqs_cons_iff.mp h
    obtain ⟨a, ha, r⟩ := exists_matches_and_iff.mp ⟨k, hand⟩
    obtain ⟨w, t₁, hw, r₁, s, t₂, ⟨hne, hs⟩, r₂, _, t₃, rfl, r₃, c, t₄, hc, r₄, hend, -, -⟩ :=
      matches_inline_iff.mp hrest
    refine ⟨s, c, a, w, ha, hw, hne, hs, hc, ?_⟩
    rw [r.of_start.1, r₁.1, r₂.1, r₃.1, r₄.1, hend]
    rfl
  · rintro ⟨s, c, a, w, ha, hw, hne, hs, hc, rfl⟩
    obtain ⟨k, hand⟩ := exists_matches_and_iff (m := []).mpr
      ⟨a, ha, Place.Reads.of_append [] a (w ++ (s ++ ['/', c]))⟩
    exact ⟨_, _, matches_seqs_cons_iff.mpr ⟨_, k, hand, matches_inline_iff.mpr
      ⟨w, _, hw, .of_append .., s, _, ⟨hne, hs⟩, .of_append .., _, _, rfl, .single .., c, _, hc,
        .to_end .., rfl, rfl, rfl⟩⟩⟩

theorem captured_of_find?_inlinePattern (h : inlinePattern.regex.find? u = some n) :
    ∃ source letter, InlineText u source letter ∧ captured u n 2 = some source ∧
      captured u n 3 = some [letter] := by
  simp only [inlinePattern, List.append_assoc, List.cons_append] at h
  obtain ⟨q, h⟩ := matches_of_find?_anchored h
  obtain ⟨t, k, hand, hrest⟩ := matches_seqs_cons_iff.mp h
  obtain ⟨a, ha, r⟩ := exists_matches_and_iff.mp ⟨k, hand⟩
  obtain ⟨w, t₁, hw, r₁, s, t₂, ⟨hne, hs⟩, r₂, _, t₃, rfl, r₃, c, t₄, hc, r₄, hend, -, rfl⟩ :=
    matches_inline_iff.mp hrest
  refine ⟨s, c, ⟨a, w, ha, hw, hne, hs, hc, ?_⟩, ?_, ?_⟩
  · rw [r.of_start.1, r₁.1, r₂.1, r₃.1, r₄.1, hend]
    rfl
  · exact captured_of_reads (r.trans r₁) r₂ rfl rfl
  · exact captured_of_reads (((r.trans r₁).trans r₂).trans r₃) r₄ rfl rfl

end Grammar

namespace Pattern

open Regex

/-- A pattern matches no part of a text and captures nothing, or captures what the marks of the
match that is found say. -/
theorem captures?_cases (p : Pattern) (k : Nat) (text : String) :
    (¬ p.regex.MatchesIn text.toList ∧ p.captures? k text = none) ∨
      ∃ marks, p.regex.find? text.toList = some marks ∧
        p.captures? k text = some ((List.range k).map fun i =>
          (captured text.toList marks (i + 1)).map String.ofList) := by
  rw [captures?, ← find?_isSome_iff]
  cases hfind : p.regex.find? text.toList with
  | none => exact .inl ⟨Bool.false_ne_true, rfl⟩
  | some marks => exact .inr ⟨marks, rfl, rfl⟩

end Pattern

namespace Grammar

open Regex

/-- The pattern for ranges captures the two numerals of a range, and matches nothing else. -/
theorem captures?_lengthRange (text : String) :
    (∃ low high, RangeText text.toList low high ∧
      lengthRange.captures? 2 text = some [some (String.ofList low), some (String.ofList high)]) ∨
    (lengthRange.captures? 2 text = none ∧ ¬ ∃ low high, RangeText text.toList low high) := by
  rcases lengthRange.captures?_cases 2 text with ⟨hno, hnone⟩ | ⟨marks, hfind, hcaptures⟩
  · exact .inr ⟨hnone, mt lengthRange_matchesIn_iff.mpr hno⟩
  · obtain ⟨low, high, htext, hlow, hhigh⟩ := captured_of_find?_lengthRange hfind
    refine .inl ⟨low, high, htext, hcaptures.trans ?_⟩
    simp [List.range_succ, hlow, hhigh]

/-- A pattern of a numeral between two keywords captures the numeral, and matches nothing else. -/
theorem captures?_number {p : Pattern} {front back : String}
    (hfront : isKeyword front = true) (hback : isKeyword back = true)
    (hp : p.regex =
      anchored (keyword front ++ digits 1 :: (keyword back ++ [.assert .textEnd])))
    (text : String) :
    (∃ d, NumberText front back text.toList d ∧
      p.captures? 1 text = some [some (String.ofList d)]) ∨
    (p.captures? 1 text = none ∧ ¬ ∃ d, NumberText front back text.toList d) := by
  rcases p.captures?_cases 1 text with ⟨hno, hnone⟩ | ⟨marks, hfind, hcaptures⟩
  · rw [hp, number_matchesIn_iff hfront hback] at hno
    exact .inr ⟨hnone, hno⟩
  · obtain ⟨d, htext, hd⟩ := captured_of_find?_number hfront hback (hp ▸ hfind)
    refine .inl ⟨d, htext, hcaptures.trans ?_⟩
    simp [hd]

/-- The pattern for expressions captures the expression and the letter of the flag, and matches
nothing else. -/
theorem captures?_inlinePattern (text : String) :
    (∃ source letter a, InlineText text.toList source letter ∧ inlinePattern.captures? 3 text =
      some [a, some (String.ofList source), some (String.ofList [letter])]) ∨
    (inlinePattern.captures? 3 text = none ∧
      ¬ ∃ source letter, InlineText text.toList source letter) := by
  rcases inlinePattern.captures?_cases 3 text with ⟨hno, hnone⟩ | ⟨marks, hfind, hcaptures⟩
  · exact .inr ⟨hnone, mt inlinePattern_matchesIn_iff.mpr hno⟩
  · obtain ⟨source, letter, htext, hsource, hletter⟩ := captured_of_find?_inlinePattern hfind
    refine .inl ⟨source, letter, (captured text.toList marks 1).map String.ofList, htext,
      hcaptures.trans ?_⟩
    simp [List.range_succ, hsource, hletter]

end Grammar

end Clausal
