import Clausal.Proofs.Builtin.Agreement
import Clausal.Proofs.Builtin.Phrases
import Clausal.Proofs.Setup
import Clausal.Proofs.Validator.Evaluations

/-!
# Letter case in phrases

A configuration chooses whether letter case counts in phrases.  If it does not, more texts are
phrases, but none that meant something before means anything else: the phrases for types differ in
lower case, and none of them takes a clause from a rule.  So the validator that ignores letter case
*extends* the one that heeds it (`Validator.Extends`), and a rule whose clauses were all known is
checked as before (`Validator.validate_insensitive_eq`).

## Main definitions

- `Config.withCase`: a configuration with another choice about letter case
- `Validator.Extends`: a validator decides all that another one decides, in the same way
-/

namespace Clausal

/-- The configuration with another choice about letter case. -/
def Config.withCase (c : Config) (case : PhraseCase) : Config :=
  { c with phraseCase := case }

theorem Config.isEnabled_withCase (c : Config) (case : PhraseCase) (name : String) :
    (c.withCase case).isEnabled name = c.isEnabled name := rfl

namespace Builtin

/-- No two phrases for types are one phrase, whether or not letter case counts. -/
theorem nodup_phrase_keys (case : PhraseCase) : (phrases.map fun r => case.key r.phrase).Nodup := by
  cases case <;> decide +kernel

theorem resolve?_phrases_insensitive {text : String} {rule : WholeRule}
    (h : ((WholeRegistry.empty .sensitive).insertAll phrases).resolve? text = some rule) :
    ((WholeRegistry.empty .insensitive).insertAll phrases).resolve? text = some rule := by
  rw [WholeRegistry.resolve?_insertAll_empty_eq_some_iff (nodup_phrase_keys _)] at h ⊢
  obtain ⟨hrule, hphrase⟩ := h
  exact ⟨hrule, congrArg lowerCase hphrase⟩

end Builtin

namespace Validator

variable {v w : Validator} {p : Param} {rule : String}

/-- A rule that one validator does not understand no other one does, unless it is for its type
clause. -/
theorem resolveRule_eq_error_of_ne {reason : FormatReason} (hr : v.resolveRule rule = .error reason)
    (hknown : ∀ clause, reason ≠ .unknownType clause) : w.resolveRule rule = .error reason := by
  rw [resolveRule] at hr ⊢
  cases hparse : RuleDefinition.parse rule with
  | error e => simpa [hparse] using hr
  | ok d =>
    cases hplaceholder : d.hasPlaceholder with
    | true => simpa [hparse, hplaceholder] using hr
    | false =>
      cases htype : v.whole.resolve? d.typeClause.text with
      | none =>
        simp only [hparse, hplaceholder, htype, Bool.false_eq_true, if_false] at hr
        cases hr
        exact absurd rfl (hknown _)
      | some typeRule => simp [hparse, hplaceholder, htype] at hr

/-- A validator decides all that another one decides, in the same way. -/
def Extends (v w : Validator) : Prop :=
  ∀ text d, v.decider? text = some d → w.decider? text = some d

namespace Extends

variable (h : Extends v w)

include h

theorem resolve? {text : String} {r : WholeRule} (hr : v.whole.resolve? text = some r) :
    w.whole.resolve? text = some r :=
  decider?_eq_phrase_iff.mp (h text _ (decider?_eq_phrase_iff.mpr hr))

theorem resolveRule_eq_ok {r : ResolvedRule} (hr : v.resolveRule rule = .ok r) :
    w.resolveRule rule = .ok r := by
  obtain ⟨hparse, hplaceholder, htype⟩ := resolveRule_eq_ok_iff.mp hr
  exact resolveRule_eq_ok_iff.mpr ⟨hparse, hplaceholder, h.resolve? htype⟩

theorem checkValue_eq {r : ResolvedRule} (hknown : ∀ text, (v.checkValue p r).outcome ≠
      .error (.format p.name (.unknownModifier text))) : w.checkValue p r = v.checkValue p r := by
  cases htest : r.typeRule.test p.value with
  | false => rw [checkValue_of_not_test htest, checkValue_of_not_test htest]
  | true =>
    cases hvoid : p.value.isVoid with
    | true => rw [checkValue_of_isVoid htest hvoid, checkValue_of_isVoid htest hvoid]
    | false =>
      have hmodifiers : w.checkModifiers p.value r.definition.modifiers =
          v.checkModifiers p.value r.definition.modifiers :=
        checkModifiers_eq_of_extends (fun c _ d hd => h c.text d hd) fun text htext =>
          absurd (checkValue_eq_format_iff.mpr ⟨rfl, htest, hvoid, text, rfl, htext⟩) (hknown text)
      rw [checkValue_of_supplied htest hvoid, checkValue_of_supplied htest hvoid, hmodifiers]

/-- A check that meets no unknown clause stays as it is: the outcome is the same, and so are the
evaluations. -/
theorem check_eq
    (htype : ∀ name clause, v.validate p rule ≠ .error (.format name (.unknownType clause)))
    (hmodifier : ∀ name clause,
      v.validate p rule ≠ .error (.format name (.unknownModifier clause))) :
    w.check p rule none = v.check p rule none := by
  rw [validate, Validator.check_eq] at htype hmodifier
  rw [Validator.check_eq, Validator.check_eq]
  cases hr : v.resolveRule rule with
  | error reason =>
    rw [hr] at htype
    rw [resolveRule_eq_error_of_ne hr fun clause hclause => htype p.name clause (hclause ▸ rfl)]
  | ok r =>
    rw [hr] at hmodifier
    rw [h.resolveRule_eq_ok hr]
    exact h.checkValue_eq (hmodifier p.name)

end Extends

/-- With the same built-in rules, a validator that ignores letter case in phrases decides all that
one decides that heeds it. -/
theorem extends_insensitive (bound : UpToBound) (keep : PartialRule → Bool) :
    Extends (ofRules .sensitive Builtin.phrases ((Builtin.rules bound).filter keep))
      (ofRules .insensitive Builtin.phrases ((Builtin.rules bound).filter keep)) := by
  intro text d hd
  cases d with
  | phrase r =>
    rw [decider?_eq_phrase_iff, whole_ofRules] at hd ⊢
    exact Builtin.resolve?_phrases_insensitive hd
  | pattern i r =>
    rw [decider?_eq_pattern_iff, whole_ofRules, partials_ofRules] at hd ⊢
    obtain ⟨-, hfirst⟩ := hd
    -- A text that a built-in rule matches is no phrase in either letter case.
    obtain ⟨hmem, -⟩ := List.mem_filter.mp (List.mem_of_getElem? hfirst.getElem?)
    obtain ⟨s, -, htext⟩ := Builtin.exists_shape_of_isMatch hmem hfirst.isMatch
    exact ⟨Builtin.resolve?_phrases_of_isText htext, hfirst⟩

/-- The choice about letter case has no say in whether a configuration is accepted, and which
built-in rules it enables. -/
theorem ofConfig_withCase {c : Config} {bound : UpToBound} (case : PhraseCase)
    (h : Builtin.configuredBound c = .ok bound) : ofConfig (c.withCase case) =
      .ok (ofRules case Builtin.phrases
        ((Builtin.rules bound).filter fun r => c.isEnabled r.name)) := by
  have hbound : Builtin.configuredBound (c.withCase case) = .ok bound := h
  simp only [ofConfig_eq_ok_iff, hbound, Config.isEnabled_withCase]
  exact ⟨bound, rfl, rfl⟩

/-- Letter case in phrases is conservative.  A configuration is accepted with either choice about
letter case if it is accepted at all.  Whatever comes of a check if letter case counts, other than
an unknown clause, comes of it as well if letter case does not count. -/
theorem validate_insensitive_eq (c : Config) (v : Validator) (h : ofConfig c = .ok v) :
    ∃ heeding ignoring, ofConfig (c.withCase .sensitive) = .ok heeding ∧
      ofConfig (c.withCase .insensitive) = .ok ignoring ∧
      ∀ p rule,
        (∀ name clause, heeding.validate p rule ≠ .error (.format name (.unknownType clause))) →
        (∀ name clause,
          heeding.validate p rule ≠ .error (.format name (.unknownModifier clause))) →
        ignoring.validate p rule = heeding.validate p rule := by
  obtain ⟨bound, hbound, -⟩ := ofConfig_eq_ok_iff.mp h
  refine ⟨_, _, ofConfig_withCase .sensitive hbound, ofConfig_withCase .insensitive hbound,
    fun p rule htype hmodifier => ?_⟩
  exact congrArg Report.outcome ((extends_insensitive bound _).check_eq htype hmodifier)

/-- A text that is too long breaks the rule in the same way if letter case does not count. -/
theorem validate_insensitive_eq_too_long : ∃ ignoring,
    ofConfig ⟨.insensitive, [("less-than", ⟨some false, []⟩)]⟩ = .ok ignoring ∧
      ignoring.validate ⟨"x", .string "abcd"⟩ "a value, a string, With 2 to 3 Characters" =
        .error (.validation "x" ["a value", "a string", "With 2 to 3 Characters"]) := by
  obtain ⟨heeding, ignoring, hheeding, hignoring, hsame⟩ := validate_insensitive_eq
    ⟨.sensitive, [("less-than", ⟨some false, []⟩)]⟩ _ rfl
  have hfails : heeding.validate ⟨"x", .string "abcd"⟩ "a value, a string, With 2 to 3 Characters" =
      .error (.validation "x" ["a value", "a string", "With 2 to 3 Characters"]) := by
    cases hheeding
    decide +kernel
  refine ⟨ignoring, hignoring, ?_⟩
  rw [hsame _ _ (by simp [hfails]) (by simp [hfails]), hfails]

end Validator

end Clausal
