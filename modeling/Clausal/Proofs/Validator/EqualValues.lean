import Clausal.Proofs.Builtin.Agreement
import Clausal.Proofs.Setup
import Clausal.Proofs.Validator.Evaluations
import Clausal.Proofs.Value.Equality

/-!
# Checks of equal values

Equal values need not be identical, but no rule that is built in or described by data tells them
apart: such rules look at the kind of a value, at its text, length or place among the numbers, or
compare it with other values by equality.  A validator with such rules only checks equal values
alike (`Validator.Extensional.check_congr`), and each validator that a configuration or a document
makes is one (`Validator.validate_eq_of_beq`).

## Main definitions

- `RespectsEquality`: a test comes out alike for equal values
- `Validator.Extensional`: all tests of a validator do
-/

namespace Clausal

variable {a b : Value}

/-- A test comes out alike for equal values. -/
def RespectsEquality (test : Value → Bool) : Prop :=
  ∀ a b, (a == b) = true → test a = test b

namespace Value

theorem length?_eq_of_beq (h : (a == b) = true) : a.length? = b.length? := by
  cases beq_iff_equal.mp h with
  | array hitems => exact congrArg some hitems.length_eq
  | _ => rfl

theorem compareOperand?_eq_of_beq (h : (a == b) = true) (operand : String) :
    a.compareOperand? operand = b.compareOperand? operand := by
  cases beq_iff_equal.mp h with
  | number hxy => simp only [compareOperand?, Double.compare?_eq_of_beq hxy]
  | _ => rfl

end Value

theorem Check.respectsEquality_holds (c : Check) : RespectsEquality c.holds := by
  intro a b h
  cases c with
  | equals expected => exact Value.beq_congr_left h expected
  | oneOf candidates => simp only [Check.holds, Value.beq_congr_right h]
  | matching pattern => simp only [Check.holds, Value.text?_eq_of_beq h]

namespace Builtin

theorem respectsEquality_phrases {rule : WholeRule} (h : rule ∈ phrases) :
    RespectsEquality rule.test := by
  intro a b hab
  rcases List.mem_append.mp h with h | h
  · obtain ⟨⟨article, kind⟩, -, hrule⟩ := List.mem_flatMap.mp h
    rcases List.mem_pair.mp hrule with rfl | rfl
    · simp only [optionalPhrase, Value.test_eq_of_beq hab]
    · exact Value.test_eq_of_beq hab kind
  · rcases List.mem_pair.mp h with rfl | rfl
    · rfl
    · simp only [aValue, Value.test_eq_of_beq hab]

theorem respectsEquality_rule (bound : UpToBound) (s : Shape) (c : Clause) :
    RespectsEquality fun value => (s.rule bound).evaluate value c := by
  intro a b h
  dsimp only
  rw [Shape.evaluate_rule, Shape.evaluate_rule]
  cases htest : s.test? bound c.kind with
  | none => rfl
  | some test =>
    suffices RespectsEquality test from this a b h
    intro a b h
    -- The tests look at the length, the text, or the comparison with the operand.
    unfold Shape.test? at htest
    split at htest <;> cases htest <;>
      simp only [Value.length?_eq_of_beq h, Value.compareOperand?_eq_of_beq h,
        Value.text?_eq_of_beq h]

end Builtin

namespace Validator

variable {v : Validator} {name rule : String} {cs : List Clause} {c : Clause}

/-- No test of a validator tells equal values apart. -/
structure Extensional (v : Validator) : Prop where
  phrase : ∀ text rule, v.whole.resolve? text = some rule → RespectsEquality rule.test
  pattern : ∀ rule ∈ v.partials.rules, ∀ c, RespectsEquality fun value => rule.evaluate value c

namespace Extensional

variable (h : v.Extensional) (hab : (a == b) = true)

include h hab

theorem passes_eq {d : Decider} (hd : v.decider? c.text = some d) :
    d.passes a c = d.passes b c := by
  cases d with
  | phrase rule => exact h.phrase _ _ (decider?_eq_phrase_iff.mp hd) a b hab
  | pattern i rule =>
    obtain ⟨-, hget, -⟩ := of_decider?_eq_pattern hd
    exact h.pattern rule (List.mem_of_getElem? hget) c a b hab

theorem decideModifier_congr (c : Clause) : v.decideModifier a c = v.decideModifier b c := by
  rw [decideModifier_eq, decideModifier_eq]
  cases hd : v.decider? c.text with
  | none => rfl
  | some d => simp only [Option.map_some, h.passes_eq hab hd]

theorem checkModifiers_congr (cs : List Clause) :
    v.checkModifiers a cs = v.checkModifiers b cs := by
  induction cs with
  | nil => rfl
  | cons c cs ih => simp only [checkModifiers, h.decideModifier_congr hab c, ih]

theorem check_congr (name rule : String) :
    v.check ⟨name, a⟩ rule none = v.check ⟨name, b⟩ rule none := by
  rw [check_eq, check_eq]
  cases hr : v.resolveRule rule with
  | error reason => rfl
  | ok r =>
    obtain ⟨-, -, htype⟩ := resolveRule_eq_ok_iff.mp hr
    simp only [checkValue, h.phrase _ _ htype a b hab, Value.isVoid_eq_of_beq hab,
      h.checkModifiers_congr hab]

end Extensional

theorem extensional_ofRules {case : PhraseCase} {whole : List WholeRule}
    {partials : List PartialRule} (hwhole : ∀ rule ∈ whole, RespectsEquality rule.test)
    (hpartials : ∀ rule ∈ partials, ∀ c, RespectsEquality fun value => rule.evaluate value c) :
    (ofRules case whole partials).Extensional := by
  refine ⟨fun text rule hrule => hwhole rule ?_, hpartials⟩
  have hfind : ((WholeRegistry.empty case).insertAll whole).resolve? text = some rule := hrule
  rw [WholeRegistry.resolve?_insertAll (WholeRegistry.indexed_empty case),
    show (WholeRegistry.empty case).resolve? text = none from rfl, Option.or_none] at hfind
  exact List.mem_reverse.mp (List.mem_of_find?_eq_some hfind)

theorem extensional_of_ofConfig {c : Config} (h : ofConfig c = .ok v) : v.Extensional := by
  obtain ⟨bound, -, rfl⟩ := ofConfig_eq_ok_iff.mp h
  refine extensional_ofRules (fun rule hrule => Builtin.respectsEquality_phrases hrule) ?_
  intro rule hrule clause
  obtain ⟨s, rfl⟩ := Builtin.mem_rules_iff.mp (List.mem_filter.mp hrule).1
  exact Builtin.respectsEquality_rule bound s clause

theorem Configured.extensional (h : v.Configured) : v.Extensional := by
  cases h with
  | standard => exact extensional_of_ofConfig ofConfig_empty
  | ofConfig h => exact extensional_of_ofConfig h
  | ofToml h =>
    obtain ⟨c, w, patterns, -, hw, -, rfl⟩ := exists_of_ofToml h
    have hw := extensional_of_ofConfig hw
    rw [registerAll_eq]
    refine ⟨hw.phrase, fun rule hrule clause => ?_⟩
    rcases List.mem_append.mp hrule with hrule | hrule
    · exact hw.pattern rule hrule clause
    · obtain ⟨r, -, rfl⟩ := List.mem_map.mp hrule
      exact r.check.respectsEquality_holds

/-- Equal values are indistinguishable.  Whatever built-in rules a configuration leaves and whatever
rules a document adds, equal values get the same outcome from every rule. -/
theorem validate_eq_of_beq (v : Validator) (h : v.Configured) (name rule : String) (a b : Value)
    (hab : (a == b) = true) : v.validate ⟨name, a⟩ rule = v.validate ⟨name, b⟩ rule :=
  congrArg Report.outcome (h.extensional.check_congr hab name rule)

/-- A document with one rule, whose check is for an array with a zero. -/
def originDocument : String :=
  "[[patterns]]\nname = \"origin\"\npattern = \"^at the origin$\"\nequals = [0]\n"

/-- The zeros of both signs are not told apart, not even inside an array. -/
theorem validate_eq_of_beq_zeros : ∃ v, ofToml originDocument = .ok v ∧
    v.validate ⟨"x", .array [.number Double.zero.neg]⟩ "an array, at the origin" =
      v.validate ⟨"x", .array [.number Double.zero]⟩ "an array, at the origin" := by
  have hok : (ofToml originDocument).isOk = true := by decide +kernel
  obtain ⟨v, hv⟩ : ∃ v, ofToml originDocument = .ok v := by
    cases hv : ofToml originDocument with
    | error e => simp [hv, Except.isOk, Except.toBool] at hok
    | ok v => exact ⟨v, rfl⟩
  exact ⟨v, hv, validate_eq_of_beq v (.ofToml hv) "x" "an array, at the origin" _ _ (by decide)⟩

end Validator

end Clausal
