import Clausal.Proofs.Rule.ClassForm
import Clausal.Proofs.Validator.Blame
import Clausal.Setup

/-!
# Checks for classes

A rule is either for classes or for values of a type, never for both: a check for a class gives a
verdict exactly on the rules that are an article and the token for a class, and every other check
refuses the token.  Checks for classes depend on the rule and on the class of the value alone, not
on the rules of the validator.  The main statement is
`Validator.validateInstance_complements_validate`.

## Main definitions

- `Outcome.IsVerdict`: an outcome that says whether the value is as the rule demands
-/

namespace Clausal

/-- The outcome says whether the value is as the rule demands: it succeeds, or the value breaks the
rule. -/
def Outcome.IsVerdict (o : Outcome) : Prop :=
  o = .ok () ∨ ∃ name rules, o = .error (.validation name rules)

theorem Outcome.not_isVerdict_format (name : String) (reason : FormatReason) :
    ¬ IsVerdict (.error (.format name reason)) := by
  rintro (h | ⟨_, _, h⟩) <;> cases h

theorem Value.isInstanceOf_iff {v : Value} {c : ClassName} :
    v.isInstanceOf c = true ↔ ∃ i, v = .instance i ∧ i.ofClass = c := by
  cases v <;> simp [isInstanceOf]

namespace Validator

open RuleDefinition (IsClassForm exists_classArticle?_iff)

variable {v w : Validator} {p q : Param} {rule article : String} {c : ClassArg} {d : RuleDefinition}

/-- The rules of the validator have no say in checks for classes. -/
theorem validateInstance_congr (v w : Validator) :
    v.validateInstance p rule c = w.validateInstance p rule c := by
  simp only [validateInstance, check]

theorem validateInstance_of_parse_error {e : ClauseError}
    (h : RuleDefinition.parse rule = .error e) : v.validateInstance p rule c =
      .error (.format p.name (.invalidPattern e.clause e.cause.message)) := by
  rw [validateInstance, check, h]

/-- A rule that can be read but is no rule for a class is refused. -/
theorem validateInstance_of_classArticle?_eq_none (h : RuleDefinition.parse rule = .ok d)
    (hclass : d.classArticle? = none) :
    v.validateInstance p rule c = .error (.format p.name (.classShape rule)) := by
  rw [validateInstance, check, h]
  simp only [checkClass, hclass]

theorem validateInstance_of_isClassForm (h : IsClassForm rule article) :
    v.validateInstance p rule c = if p.value.isInstanceOf c.ofClass then .ok ()
      else .error (.validation p.name [article ++ " " ++ c.label]) := by
  obtain ⟨d, hparse, hclass⟩ := exists_classArticle?_iff.mpr h
  rw [validateInstance, check, hparse]
  simp only [checkClass, hclass]

theorem validate_of_isClassForm (h : IsClassForm rule article) :
    v.validate p rule = .error (.format p.name (.missingClassReference rule)) := by
  obtain ⟨d, hparse, hclass⟩ := exists_classArticle?_iff.mpr h
  refine validate_eq_of_resolveRule_eq_error ?_
  simp only [resolveRule, hparse, RuleDefinition.hasPlaceholder_of_classArticle? hclass, if_true]

/-- A check for a class gives a verdict on rules for classes only. -/
theorem exists_isClassForm_of_isVerdict (h : (v.validateInstance p rule c).IsVerdict) :
    ∃ article, IsClassForm rule article := by
  cases hparse : RuleDefinition.parse rule with
  | error e =>
    rw [validateInstance_of_parse_error hparse] at h
    exact absurd h (Outcome.not_isVerdict_format _ _)
  | ok d =>
    cases hclass : d.classArticle? with
    | none =>
      rw [validateInstance_of_classArticle?_eq_none hparse hclass] at h
      exact absurd h (Outcome.not_isVerdict_format _ _)
    | some article => exact ⟨article, exists_classArticle?_iff.mp ⟨d, hparse, hclass⟩⟩

/-- A rule that can be read and that no check refuses for the token for a class is no rule for a
class. -/
theorem validateInstance_eq_classShape (hread : ∃ d, RuleDefinition.parse rule = .ok d)
    (h : v.validate p rule ≠ .error (.format p.name (.missingClassReference rule))) :
    w.validateInstance q rule c = .error (.format q.name (.classShape rule)) := by
  obtain ⟨d, hparse⟩ := hread
  cases hclass : d.classArticle? with
  | none => exact validateInstance_of_classArticle?_eq_none hparse hclass
  | some article =>
    exact absurd (validate_of_isClassForm (exists_classArticle?_iff.mp ⟨d, hparse, hclass⟩)) h

/-- Checks for classes and all other checks complement each other.  A rule is for a class exactly if
it is an article and the token for a class, with blanks around and between them and perhaps `as ` in
front.  A check for a class refuses a rule that cannot be read for that reason, and every other rule
that is not for a class for its form.  It succeeds if the value is an instance of the class and
otherwise names the article and the class, whatever the validator is and also for values that were
not supplied.  If it gives a verdict on a rule, all checks without a class miss the class; and if
one of those gives a verdict or gets to a clause that it does not know, the check for a class
refuses the rule for its form. -/
theorem validateInstance_complements_validate (rule : String) (v w : Validator) (p q : Param)
    (c : ClassArg) :
    (∀ article, (∃ d, RuleDefinition.parse rule = .ok d ∧ d.classArticle? = some article) ↔
      IsClassForm rule article) ∧
    (∀ e, RuleDefinition.parse rule = .error e →
      v.validateInstance p rule c =
        .error (.format p.name (.invalidPattern e.clause e.cause.message))) ∧
    (∀ d, RuleDefinition.parse rule = .ok d → (¬ ∃ article, IsClassForm rule article) →
      v.validateInstance p rule c = .error (.format p.name (.classShape rule))) ∧
    (∀ article, IsClassForm rule article →
      (v.validateInstance p rule c = .ok () ↔ ∃ i, p.value = .instance i ∧ i.ofClass = c.ofClass) ∧
      ((¬ ∃ i, p.value = .instance i ∧ i.ofClass = c.ofClass) →
        v.validateInstance p rule c =
          .error (.validation p.name [article ++ " " ++ c.label]))) ∧
    v.validateInstance p rule c = w.validateInstance p rule c ∧
    ((v.validateInstance p rule c).IsVerdict →
      w.validate q rule = .error (.format q.name (.missingClassReference rule))) ∧
    ((w.validate q rule).IsVerdict ∨
        (∃ name clause, w.validate q rule = .error (.format name (.unknownType clause))) ∨
        (∃ name clause, w.validate q rule = .error (.format name (.unknownModifier clause))) →
      v.validateInstance p rule c = .error (.format p.name (.classShape rule))) := by
  refine ⟨fun article => exists_classArticle?_iff, fun e he => validateInstance_of_parse_error he,
    fun d hparse hform => ?_, fun article hform => ?_, validateInstance_congr v w,
    fun hverdict => ?_, fun h => ?_⟩
  · refine validateInstance_of_classArticle?_eq_none hparse ?_
    rw [Option.eq_none_iff_forall_ne_some]
    exact fun article hclass => hform ⟨article, exists_classArticle?_iff.mp ⟨d, hparse, hclass⟩⟩
  · rw [validateInstance_of_isClassForm hform, ← Value.isInstanceOf_iff]
    cases p.value.isInstanceOf c.ofClass <;> simp
  · obtain ⟨article, hform⟩ := exists_isClassForm_of_isVerdict hverdict
    exact validate_of_isClassForm hform
  · -- The check without a class got past reading the rule and past the token for a class.
    refine validateInstance_eq_classShape (v := w) (p := q) ?_ fun hmissing => ?_
    · cases hparse : RuleDefinition.parse rule with
      | ok d => exact ⟨d, rfl⟩
      | error e =>
        rw [validate_of_parse_error hparse] at h
        rcases h with h | ⟨_, _, h⟩ | ⟨_, _, h⟩
        · exact absurd h (Outcome.not_isVerdict_format _ _)
        · cases h
        · cases h
    · rw [hmissing] at h
      rcases h with h | ⟨_, _, h⟩ | ⟨_, _, h⟩
      · exact absurd h (Outcome.not_isVerdict_format _ _)
      · cases h
      · cases h

/-- A void value is no instance, with odd blanks in the rule, and no check without a class accepts
the rule. -/
theorem validateInstance_complements_validate_void :
    standard.validateInstance ⟨"x", .void⟩ "\tas  an\u00A0\n\x7b\x7d " ⟨"Apple", ⟨"Apple"⟩⟩ =
        .error (.validation "x" ["an Apple"]) ∧
      standard.validate ⟨"y", .null⟩ "\tas  an\u00A0\n\x7b\x7d " =
        .error (.format "y" (.missingClassReference "\tas  an\u00A0\n\x7b\x7d ")) := by
  have hform : IsClassForm "\tas  an\u00A0\n\x7b\x7d " "an" :=
    ⟨.inr rfl, ['\t'], ['a', 's', ' ', ' '], ['\u00A0', '\n'], [' '],
      List.all_eq_true.mp (by decide), .inr ⟨[' '], List.all_eq_true.mp (by decide), rfl⟩,
      ⟨List.cons_ne_nil _ _, List.all_eq_true.mp (by decide)⟩, List.all_eq_true.mp (by decide), rfl⟩
  obtain ⟨-, -, -, hinstance, -, hmissing, -⟩ := validateInstance_complements_validate
    "\tas  an\u00A0\n\x7b\x7d " standard standard ⟨"x", .void⟩ ⟨"y", .null⟩ ⟨"Apple", ⟨"Apple"⟩⟩
  have hfails := (hinstance "an" hform).2 (by simp)
  exact ⟨hfails, hmissing (.inr ⟨_, _, hfails⟩)⟩

end Validator

end Clausal
