import Clausal.Proofs.Builtin.Lengths
import Clausal.Proofs.Value.Equality
import Mathlib.Data.String.Basic

/-!
# Relations and the orders behind them

The four relations of clauses read one operand from the same text, and they compare a value with it
in one order: texts character by character, numbers by their place on the line.  So the relations
are consistent with each other, and accept more of two values the more the relation asks for that
one (`Validator.relations_agree`).  A value that cannot be compared with the operand is accepted by
none of them.

## Main definitions

- `ComparisonOp.Relates`: what a relation says in an order
- `IsRelationTail`: what can come after the words of a relation
- `EndsAfterSpace`: a text is what comes after the last space of another one
- `Value.Comparable`, `Value.EqualsOperand`: how a value goes with an operand
- `Value.AtMost`: the order of texts and of numbers
- `Validator.Accepts`: the standard validator accepts a value under a relation
-/

namespace Clausal

namespace Blank

variable {a b current : List Char} {c : Char}

theorem isBlank_of_isDigit (h : c.isDigit = true) : isBlank c = false := by
  have hlow : 0x30 ≤ c.toNat := (Char.isDigit_iff_toNat.mp h).1
  have hhigh : c.toNat ≤ 0x39 := (Char.isDigit_iff_toNat.mp h).2
  simp only [isBlank, Bool.or_eq_false_iff, Bool.and_eq_false_iff, decide_eq_false_iff_not]
  omega

theorem wordsFrom_append_cons (h : isBlank c = true) :
    wordsFrom current (a ++ c :: b) = wordsFrom current (a ++ [c]) ++ wordsFrom [] b := by
  induction a generalizing current with
  | nil =>
    simp only [List.nil_append, wordsFrom, h, if_true, List.isEmpty_nil]
    split <;> simp
  | cons x a ih =>
    simp only [List.cons_append, wordsFrom, ih]
    split
    · split <;> simp
    · rfl

end Blank

/-- A text without spaces ends another one: it is all of it, or a space comes before. -/
structure EndsAfterSpace (text operand : String) : Prop where
  space_not_mem : ' ' ∉ operand.toList
  split : text = operand ∨ ∃ before, text = before ++ " " ++ operand

namespace Clause

theorem endsAfterSpace_afterLastSpace (text : String) :
    EndsAfterSpace text (afterLastSpace text) := by
  have hsplit : text.toList.reverse =
      text.toList.reverse.takeWhile (· != ' ') ++ text.toList.reverse.dropWhile (· != ' ') :=
    List.takeWhile_append_dropWhile.symm
  constructor
  · intro hmem
    rw [afterLastSpace, String.toList_ofList, List.mem_reverse] at hmem
    simpa using List.all_eq_true.mp List.all_takeWhile ' ' hmem
  · cases hdrop : text.toList.reverse.dropWhile (· != ' ') with
    | nil =>
      rw [hdrop, List.append_nil] at hsplit
      left
      rw [afterLastSpace, ← hsplit, List.reverse_reverse, String.ofList_toList]
    | cons c rest =>
      have hc : c = ' ' := by
        simpa [hdrop] using List.head?_dropWhile_not (· != ' ') text.toList.reverse
      subst hc
      right
      refine ⟨String.ofList rest.reverse, String.toList_inj.mp ?_⟩
      rw [← List.reverse_inj, hsplit, hdrop]
      simp [afterLastSpace]

theorem afterLastSpace_append_space (before text : String) :
    afterLastSpace (before ++ " " ++ text) = afterLastSpace text := by
  have hspace : (' ' :: before.toList.reverse).takeWhile (· != ' ') = [] :=
    List.takeWhile_cons_of_neg (by decide)
  have hreverse : (before ++ " " ++ text).toList.reverse =
      text.toList.reverse ++ ' ' :: before.toList.reverse := by
    simp
  rw [afterLastSpace, afterLastSpace, hreverse, List.takeWhile_append, hspace, List.append_nil]
  split
  · next hall => rw [(List.takeWhile_prefix _).eq_of_length hall]
  · rfl

end Clause

/-- What can come after the words of a relation in a modifier: a text that begins with a digit, has
no comma, and does not name a class. -/
structure IsRelationTail (tail : String) : Prop where
  digit : ∃ d, tail.toList.head? = some d ∧ d.isDigit = true
  comma_not_mem : ',' ∉ tail.toList
  placeholder_not_mem : RuleDefinition.placeholder ∉ words tail

namespace ComparisonOp

/-- What a relation says in an order. -/
def Relates {α : Type} [LinearOrder α] (op : ComparisonOp) (a b : α) : Prop :=
  match op with
  | greater => b < a
  | greaterOrEqual => b ≤ a
  | less => a < b
  | lessOrEqual => a ≤ b

theorem holds_compare_iff {α : Type} [LinearOrder α] (op : ComparisonOp) (a b : α) :
    op.holds (compare a b) = true ↔ op.Relates a b := by
  cases op with
  | greater => exact beq_iff_eq.trans compare_gt_iff_gt
  | greaterOrEqual => exact bne_iff_ne.trans (compare_lt_iff_lt.not.trans not_lt)
  | less => exact beq_iff_eq.trans compare_lt_iff_lt
  | lessOrEqual => exact bne_iff_ne.trans (compare_gt_iff_gt.not.trans not_lt)

theorem exists_keyword_eq (op : ComparisonOp) : ∃ before, op.keyword = before ++ " " ∧
    RuleDefinition.placeholder ∉ words before ∧ ',' ∉ op.keyword.toList ∧
      Blank.trimLeft op.keyword.toList = op.keyword.toList := by
  cases op with
  | greater => exact ⟨"greater than", by decide, by decide, by decide, by decide⟩
  | greaterOrEqual => exact ⟨"greater than or equal to", by decide, by decide, by decide, by decide⟩
  | less => exact ⟨"less than", by decide, by decide, by decide, by decide⟩
  | lessOrEqual => exact ⟨"less than or equal to", by decide, by decide, by decide, by decide⟩

end ComparisonOp

namespace IsRelationTail

variable {tail : String} (h : IsRelationTail tail) (op : ComparisonOp)

include h

theorem comma_not_mem_keyword_append : ',' ∉ (op.keyword ++ tail).toList := by
  obtain ⟨before, -, -, hcomma, -⟩ := op.exists_keyword_eq
  rw [String.toList_append, List.mem_append, not_or]
  exact ⟨hcomma, h.comma_not_mem⟩

theorem placeholder_not_mem_keyword_append :
    RuleDefinition.placeholder ∉ words (op.keyword ++ tail) := by
  obtain ⟨before, hkeyword, hplaceholder, -⟩ := op.exists_keyword_eq
  have hwords : words (op.keyword ++ tail) = words before ++ words tail := by
    have hblank : ∀ c ∈ [' '], isBlank c = true := List.forall_mem_singleton.mpr (by decide)
    have hlist : (op.keyword ++ tail).toList = before.toList ++ ' ' :: tail.toList := by
      simp [hkeyword]
    rw [words, words, words, hlist, Blank.wordsFrom_append_cons (by decide),
      Blank.wordsFrom_append_blanks hblank, List.map_append]
  rw [hwords, List.mem_append, not_or]
  exact ⟨hplaceholder, h.placeholder_not_mem⟩

/-- The digit after the words of a relation keeps trimming apart at both ends. -/
theorem exists_trim_eq : ∃ d rest, d.isDigit = true ∧ (trim tail).toList = d :: rest ∧
    (trim (op.keyword ++ tail)).toList = op.keyword.toList ++ d :: rest := by
  obtain ⟨d, hhead, hd⟩ := h.digit
  obtain ⟨rest, htail⟩ := List.head?_eq_some_iff.mp hhead
  have hblank : isBlank d = false := Blank.isBlank_of_isDigit hd
  have htrim (front : List Char) (hfront : Blank.trimLeft front = front) :
      Blank.trimChars (front ++ d :: rest) = front ++ d :: Blank.trimRight rest := by
    rw [Blank.trimChars, Blank.trimLeft_append_cons hblank, hfront,
      Blank.trimRight_append_cons hblank]
  obtain ⟨-, -, -, -, hkeyword⟩ := op.exists_keyword_eq
  refine ⟨d, Blank.trimRight rest, hd, ?_, ?_⟩
  · rw [toList_trim, htail]
    exact htrim [] rfl
  · rw [toList_trim, String.toList_append, htail]
    exact htrim op.keyword.toList hkeyword

theorem trim_keyword_append : trim (op.keyword ++ tail) = op.keyword ++ trim tail := by
  obtain ⟨d, rest, -, htail, hboth⟩ := h.exists_trim_eq op
  rw [← String.toList_inj, hboth, String.toList_append, htail]

theorem isText : (Shape.comparison op).IsText (op.keyword ++ trim tail).toList := by
  obtain ⟨d, rest, hd, htail, -⟩ := h.exists_trim_eq op
  have hspells : Grammar.Spells op.keyword op.keyword.toList := by cases op <;> decide
  rw [String.toList_append, htail]
  exact ⟨op.keyword.toList, d, rest, hspells, hd, rfl⟩

theorem parse_keyword_append : Clause.parse (op.keyword ++ tail) =
    .ok ⟨op.keyword ++ trim tail, .comparison op (Clause.afterLastSpace (trim tail))⟩ := by
  obtain ⟨before, hkeyword, -⟩ := op.exists_keyword_eq
  -- The words of the relation end with a space, so none of them gets into the operand.
  have hdenotes := Clause.Denotes.comparison (h.isText op)
  rw [String.ofList_toList, hkeyword, Clause.afterLastSpace_append_space, ← hkeyword] at hdenotes
  rw [← h.trim_keyword_append op]
  refine Clause.parse_eq_ok_iff.mpr (.inl ?_)
  rwa [h.trim_keyword_append op]

end IsRelationTail

namespace Value

variable {v w : Value} {operand : String}

/-- Texts can be compared with every operand, numbers with those that denote a finite number. -/
inductive Comparable : Value → String → Prop where
  | string (text operand : String) : Comparable (.string text) operand
  | number {x y : Double} {operand : String} (hx : x.isNaN = false)
      (hy : Double.ofText? operand = some y) (hfinite : y.isFinite = true) :
      Comparable (.number x) operand

/-- A text is the operand, or a number is equal to the one that the operand denotes. -/
inductive EqualsOperand : Value → String → Prop where
  | string (operand : String) : EqualsOperand (.string operand) operand
  | number {x y : Double} {operand : String} (hy : Double.ofText? operand = some y)
      (h : (x == y) = true) : EqualsOperand (.number x) operand

/-- The order of texts, character by character, and that of numbers. -/
inductive AtMost : Value → Value → Prop where
  | string {s t : String} (h : s ≤ t) : AtMost (.string s) (.string t)
  | number {x y : Double} (hx : x.isNaN = false) (hy : y.isNaN = false) (h : x.rank ≤ y.rank) :
      AtMost (.number x) (.number y)

theorem compareOperand?_number {x y : Double} (hx : x.isNaN = false)
    (hy : Double.ofText? operand = some y) (hfinite : y.isFinite = true) :
    (number x).compareOperand? operand = some (compare x.rank y.rank) := by
  simp [compareOperand?, hy, hfinite, Double.compare?, hx, Double.isNaN_of_isFinite hfinite]

theorem Comparable.exists_compareOperand?_eq (h : v.Comparable operand) :
    ∃ o, v.compareOperand? operand = some o ∧ (o = .eq ↔ v.EqualsOperand operand) := by
  cases h with
  | string text =>
    refine ⟨compare text operand, rfl, compare_eq_iff_eq.trans ⟨?_, ?_⟩⟩
    · rintro rfl
      exact .string text
    · rintro ⟨⟩
      rfl
  | @number x y _ hx hy hfinite =>
    refine ⟨_, compareOperand?_number hx hy hfinite, compare_eq_iff_eq.trans ⟨?_, ?_⟩⟩
    · intro hrank
      have hyNaN := Double.isNaN_of_isFinite hfinite
      exact .number hy (Double.beq_eq_true_iff.mpr ⟨hx, hyNaN, hrank⟩)
    · rintro (_ | ⟨hy', hbeq⟩)
      cases hy.symm.trans hy'
      exact (Double.beq_eq_true_iff.mp hbeq).2.2

theorem compareOperand?_eq_none_of_not_comparable (h : ¬ v.Comparable operand) :
    v.compareOperand? operand = none := by
  cases v with
  | string text => exact absurd (.string text operand) h
  | number x =>
    rw [compareOperand?]
    cases hy : Double.ofText? operand with
    | none => rfl
    | some y =>
      dsimp only
      by_cases hfinite : y.isFinite = true
      · rw [if_pos hfinite, Double.compare?]
        by_cases hx : x.isNaN = true
        · rw [hx, Bool.true_or, if_pos rfl]
        · exact absurd (.number (Bool.not_eq_true _ ▸ hx) hy hfinite) h
      · rw [if_neg hfinite]
  | _ => rfl

namespace AtMost

variable (h : v.AtMost w)

include h

theorem isVoid_eq_false : v.isVoid = false ∧ w.isVoid = false := by
  cases h <;> exact ⟨rfl, rfl⟩

/-- Values of one order cannot be compared with an operand, or compare with it as members of a
linear order do that come in that order. -/
theorem compareOperand?_cases (operand : String) :
    (v.compareOperand? operand = none ∧ w.compareOperand? operand = none) ∨
      ∃ (α : Type) (_ : LinearOrder α) (a b c : α), a ≤ b ∧
        v.compareOperand? operand = some (compare a c) ∧
        w.compareOperand? operand = some (compare b c) := by
  cases h with
  | @string s t hle => exact .inr ⟨String, inferInstance, s, t, operand, hle, rfl, rfl⟩
  | @number x y hx hy hle =>
    cases hz : Double.ofText? operand with
    | none => exact .inl ⟨by simp [compareOperand?, hz], by simp [compareOperand?, hz]⟩
    | some z =>
      by_cases hfinite : z.isFinite = true
      · exact .inr ⟨Int, inferInstance, x.rank, y.rank, z.rank, hle,
          compareOperand?_number hx hz hfinite, compareOperand?_number hy hz hfinite⟩
      · exact .inl ⟨by simp [compareOperand?, hz, hfinite], by simp [compareOperand?, hz, hfinite]⟩

/-- What is at least as great is greater than all that the other one is greater than, and so on. -/
theorem any_holds_imp (operand : String) :
    ((v.compareOperand? operand).any ComparisonOp.greater.holds = true →
      (w.compareOperand? operand).any ComparisonOp.greater.holds = true) ∧
    ((v.compareOperand? operand).any ComparisonOp.greaterOrEqual.holds = true →
      (w.compareOperand? operand).any ComparisonOp.greaterOrEqual.holds = true) ∧
    ((w.compareOperand? operand).any ComparisonOp.less.holds = true →
      (v.compareOperand? operand).any ComparisonOp.less.holds = true) ∧
    ((w.compareOperand? operand).any ComparisonOp.lessOrEqual.holds = true →
      (v.compareOperand? operand).any ComparisonOp.lessOrEqual.holds = true) := by
  rcases h.compareOperand?_cases operand with ⟨hv, hw⟩ | ⟨α, _, a, b, c, hab, hv, hw⟩
  · rw [hv, hw]
    exact ⟨id, id, id, id⟩
  · rw [hv, hw]
    simp only [Option.any_some, ComparisonOp.holds_compare_iff]
    refine ⟨?_, ?_, ?_, ?_⟩
    · exact fun (hlt : c < a) => hlt.trans_le hab
    · exact fun (hle : c ≤ a) => hle.trans hab
    · exact fun (hlt : b < c) => hab.trans_lt hlt
    · exact fun (hle : b ≤ c) => hab.trans hle

end AtMost

end Value

namespace Validator

variable {tail : String} {v : Value}

/-- The standard validator accepts a value as one that has a relation to what a tail says. -/
def Accepts (name : String) (op : ComparisonOp) (tail : String) (value : Value) : Prop :=
  standard.validate ⟨name, value⟩ ("any value, " ++ (op.keyword ++ tail)) = .ok ()

/-- A relation decides by the operand alone whether a value passes or breaks the rule. -/
theorem validate_relation (h : IsRelationTail tail) (op : ComparisonOp) (name : String)
    (hsupplied : v.isVoid = false) :
    standard.validate ⟨name, v⟩ ("any value, " ++ (op.keyword ++ tail)) =
      if (v.compareOperand? (Clause.afterLastSpace (trim tail))).any op.holds then .ok ()
      else .error (.validation name ["any value", op.keyword ++ trim tail]) := by
  have hdecide : (standard.decideModifier v ⟨op.keyword ++ trim tail,
      .comparison op (Clause.afterLastSpace (trim tail))⟩).1 =
        some ((v.compareOperand? (Clause.afterLastSpace (trim tail))).any op.holds) := by
    have hrule := fst_decideModifier_of_isText (c := ⟨op.keyword ++ trim tail,
      .comparison op (Clause.afterLastSpace (trim tail))⟩) v ofConfig_empty rfl (h.isText op)
    have henabled : Config.empty.isEnabled ((Shape.comparison op).rule .atLeast).name = true := rfl
    rw [hrule, if_pos henabled, Shape.evaluate_rule]
    rfl
  rw [validate_anyValue (resolve?_anyValue ofConfig_empty) (h.comma_not_mem_keyword_append op)
    (h.placeholder_not_mem_keyword_append op) (h.parse_keyword_append op) hsupplied,
    fst_checkModifiers_singleton hdecide, h.trim_keyword_append op]
  cases (v.compareOperand? (Clause.afterLastSpace (trim tail))).any op.holds <;> rfl

theorem accepts_iff (h : IsRelationTail tail) (op : ComparisonOp) (name : String)
    (hsupplied : v.isVoid = false) : Accepts name op tail v ↔
      (v.compareOperand? (Clause.afterLastSpace (trim tail))).any op.holds = true := by
  rw [Accepts, validate_relation h op name hsupplied]
  split <;> simp [*]

/-- The four relations are consistent with one order.  After the words of each the same tail has the
same operand, what comes after its last space, and a value that was supplied passes or breaks the
rule.  For a value that can be compared with the operand, a relation that allows equality is the
negation of the opposite one that does not, the two that do not allow it exclude each other, and the
two that do hold together exactly if the value equals the operand; any other value is accepted by
none.  If one text or number is at most another one, then the relations that ask for more accept the
greater one whenever they accept the lesser one, and those that ask for less the other way. -/
theorem relations_agree (tail : String) (h : IsRelationTail tail) (name : String) :
    ∃ operand, EndsAfterSpace (trim tail) operand ∧
      (∀ op : ComparisonOp, Clause.parse (op.keyword ++ tail) =
        .ok ⟨op.keyword ++ trim tail, .comparison op operand⟩) ∧
      (∀ op v, v ≠ .void → Accepts name op tail v ∨
        standard.validate ⟨name, v⟩ ("any value, " ++ (op.keyword ++ tail)) =
          .error (.validation name ["any value", op.keyword ++ trim tail])) ∧
      (∀ v : Value, v.Comparable operand →
        (Accepts name .greaterOrEqual tail v ↔ ¬ Accepts name .less tail v) ∧
        (Accepts name .lessOrEqual tail v ↔ ¬ Accepts name .greater tail v) ∧
        ¬ (Accepts name .greater tail v ∧ Accepts name .less tail v) ∧
        (Accepts name .greaterOrEqual tail v ∧ Accepts name .lessOrEqual tail v ↔
          v.EqualsOperand operand)) ∧
      (∀ v : Value, v ≠ .void → ¬ v.Comparable operand → ∀ op, ¬ Accepts name op tail v) ∧
      ∀ v w : Value, v.AtMost w →
        (Accepts name .greater tail v → Accepts name .greater tail w) ∧
        (Accepts name .greaterOrEqual tail v → Accepts name .greaterOrEqual tail w) ∧
        (Accepts name .less tail w → Accepts name .less tail v) ∧
        (Accepts name .lessOrEqual tail w → Accepts name .lessOrEqual tail v) := by
  refine ⟨Clause.afterLastSpace (trim tail), Clause.endsAfterSpace_afterLastSpace _,
    h.parse_keyword_append, ?verdict, ?comparable, ?incomparable, ?monotone⟩
  case verdict =>
    intro op v hv
    rw [Accepts, validate_relation h op name (Value.isVoid_eq_false_iff.mpr hv)]
    split
    · exact .inl rfl
    · exact .inr rfl
  case comparable =>
    intro v hv
    have hsupplied : v.isVoid = false := by cases hv <;> rfl
    obtain ⟨o, ho, heq⟩ := hv.exists_compareOperand?_eq
    simp only [accepts_iff h _ name hsupplied, ho, Option.any_some, ← heq]
    cases o <;> decide
  case incomparable =>
    intro v hv hnot op
    rw [accepts_iff h op name (Value.isVoid_eq_false_iff.mpr hv),
      Value.compareOperand?_eq_none_of_not_comparable hnot]
    exact Bool.false_ne_true
  case monotone =>
    intro v w hvw
    obtain ⟨hv, hw⟩ := hvw.isVoid_eq_false
    simp only [accepts_iff h _ name hv, accepts_iff h _ name hw]
    exact hvw.any_holds_imp _

/-- Of several words the last one is the operand, with which texts are compared as texts. -/
theorem relations_agree_ten :
    Clause.parse "greater than 7 or 10 " =
      .ok ⟨"greater than 7 or 10", .comparison .greater "10"⟩ ∧
    Accepts "x" .greaterOrEqual "7 or 10 " (.string "9") ∧
    Accepts "x" .less "7 or 10 " (.string "") ∧
    ¬ Accepts "x" .greaterOrEqual "7 or 10 " (.number .nan) := by
  have htail : IsRelationTail "7 or 10 " := ⟨⟨'7', rfl, by decide⟩, by decide, by decide⟩
  obtain ⟨operand, -, hparse, -, hcomparable, hincomparable, hmonotone⟩ :=
    relations_agree "7 or 10 " htail "x"
  have hword : Clause.parse "greater than 7 or 10 " =
      .ok ⟨"greater than 7 or 10", .comparison .greater operand⟩ := hparse .greater
  have hten : operand = Clause.afterLastSpace (trim "7 or 10 ") := by
    cases (hparse .greater).symm.trans (htail.parse_keyword_append .greater)
    rfl
  obtain rfl : operand = "10" := hten.trans (by decide)
  refine ⟨hword, ?_, ?_, ?_⟩
  · have hless : ¬ Accepts "x" .less "7 or 10 " (.string "9") := by
      unfold Accepts
      decide +kernel
    exact (hcomparable (.string "9") (.string "9" "10")).1.mpr hless
  · have hle : Value.AtMost (.string "") (.string "0") := .string (by decide)
    have hless : Accepts "x" .less "7 or 10 " (.string "0") := by
      unfold Accepts
      decide +kernel
    exact (hmonotone _ _ hle).2.2.1 hless
  · refine hincomparable (.number .nan) nofun ?_ .greaterOrEqual
    rintro (_ | ⟨hx, -, -⟩)
    exact absurd hx (by decide)

end Validator

end Clausal
