import Clausal.Proofs.Rule.NormalForm
import Clausal.Proofs.Validator.Stages
import Clausal.Setup

/-!
# Checks by rules in normal form

Rules that are read as the same clauses check alike, but for the failures that quote the rule as it
was written (`Validator.outcome_check_of_parse_eq`).  So a rule and its clauses with commas and
spaces between them check alike, and the clauses that the message of a failure lists are a rule that
fails in the same way.  The main statement is `Validator.validate_normalForm`.

## Main definitions

- `FormatReason.quoting`, `Outcome.quoting`: the same with another rule quoted
- `RuleDefinition.IsNormalForm`: the texts that the clauses of a rule make with commas between them
-/

namespace Clausal

/-- The same reason for another rule, if it quotes a rule. -/
def FormatReason.quoting (rule : String) : FormatReason → FormatReason
  | classShape _ => .classShape rule
  | missingClassReference _ => .missingClassReference rule
  | unknownType clause => .unknownType clause
  | unknownModifier clause => .unknownModifier clause
  | invalidPattern clause message => .invalidPattern clause message

/-- The same outcome for another rule: where the rule is quoted, the other one is. -/
def Outcome.quoting (rule : String) : Outcome → Outcome
  | .ok () => .ok ()
  | .error (.validation name rules) => .error (.validation name rules)
  | .error (.format name reason) => .error (.format name (reason.quoting rule))

/-- A text is made of the clauses of a rule, with a comma and a space between each two of them, and
is not taken for another rule: `as ` stands in front and something follows it, or the first clause
does not begin with `as `. -/
inductive RuleDefinition.IsNormalForm (d : RuleDefinition) : String → Prop where
  | lead (nonempty : d.declared ≠ [""]) : IsNormalForm d ("as " ++ ", ".intercalate d.declared)
  | plain (unambiguous : ¬ "as ".toList <+: d.typeClause.text.toList) :
      IsNormalForm d (", ".intercalate d.declared)

theorem RuleDefinition.IsNormalForm.parse_eq {d : RuleDefinition} {normal : String}
    (h : d.IsNormalForm normal) (hd : d.Readable) : parse normal = .ok d := by
  cases h with
  | lead nonempty => exact (parse_as_intercalate_declared_iff hd).mpr nonempty
  | plain unambiguous => exact (parse_intercalate_declared_iff hd).mpr unambiguous

namespace Validator

variable {v : Validator} {p : Param} {rule normal : String} {d : RuleDefinition}
  {ofClass : Option ClassArg}

/-- No failure of a value against a rule that was understood quotes the rule. -/
theorem quoting_outcome_checkValue (r : ResolvedRule) :
    (v.checkValue p r).outcome.quoting rule = (v.checkValue p r).outcome := by
  rcases outcome_checkValue_cases v p r with h | h | ⟨text, h⟩
  · rw [h]
    rfl
  · rw [h]
    rfl
  · rw [h]
    rfl

/-- A rule that is read as the clauses of another one checks as that one does, but for the failures
that quote the rule. -/
theorem outcome_check_of_parse_eq (h : RuleDefinition.parse rule = .ok d)
    (hnormal : RuleDefinition.parse normal = .ok d) :
    (v.check p normal ofClass).outcome = (v.check p rule ofClass).outcome.quoting normal := by
  cases ofClass with
  | some c =>
    rw [check, check, h, hnormal]
    simp only [checkClass]
    cases d.classArticle? with
    | none => rfl
    | some article => cases p.value.isInstanceOf c.ofClass <;> rfl
  | none =>
    rw [check_eq, check_eq, resolveRule, resolveRule, h, hnormal]
    dsimp only
    cases d.hasPlaceholder with
    | true => rfl
    | false =>
      cases v.whole.resolve? d.typeClause.text with
      | none => rfl
      | some typeRule => exact (quoting_outcome_checkValue ⟨d, typeRule⟩).symm

/-- A value that breaks a rule breaks all its clauses, in the wording of the failure. -/
theorem validate_eq_validation {name : String} {rules : List String}
    (h : RuleDefinition.parse rule = .ok d)
    (hfails : v.validate p rule = .error (.validation name rules)) :
    name = p.name ∧ rules = d.declared := by
  rw [validate, check_eq] at hfails
  cases hresolve : v.resolveRule rule with
  | error reason =>
    rw [hresolve] at hfails
    cases hfails
  | ok r =>
    have hdefinition : r.definition = d :=
      Except.ok.inj ((parse_of_resolveRule hresolve).symm.trans h)
    rw [hresolve] at hfails
    dsimp only at hfails
    rcases outcome_checkValue_cases v p r with hok | hbroken | ⟨text, hunknown⟩
    · cases hok.symm.trans hfails
    · rw [hdefinition] at hbroken
      cases hbroken.symm.trans hfails
      exact ⟨rfl, rfl⟩
    · cases hunknown.symm.trans hfails

/-- Rules have a normal form that means the same.  The clauses of a rule that can be read have no
blanks at the ends and no commas.  Written with commas and spaces between them they are read as the
same clauses: with `as ` in front unless they are one empty clause, and by themselves exactly if the
first one does not begin with `as `.  Checks by a normal form come out as checks by the rule do,
except that it is the normal form that a failure quotes.  The message of a rule that a value breaks
lists the clauses of the rule; if the first one does not begin with `as `, they are a rule that the
value breaks in the same way. -/
theorem validate_normalForm (rule : String) (d : RuleDefinition)
    (h : RuleDefinition.parse rule = .ok d) :
    (∀ text ∈ d.declared, trim text = text ∧ ',' ∉ text.toList) ∧
    (RuleDefinition.parse ("as " ++ ", ".intercalate d.declared) = .ok d ↔ d.declared ≠ [""]) ∧
    (RuleDefinition.parse (", ".intercalate d.declared) = .ok d ↔
      ¬ "as ".toList <+: d.typeClause.text.toList) ∧
    (∀ normal, d.IsNormalForm normal → ∀ v p,
      Validator.validate v p normal = (v.validate p rule).quoting normal ∧
      ∀ c, v.validateInstance p normal c = (v.validateInstance p rule c).quoting normal) ∧
    ∀ v p name rules, Validator.validate v p rule = .error (.validation name rules) →
      name = p.name ∧ rules = d.declared ∧
        (Failure.validation name rules).message =
          "'" ++ name ++ "' must be " ++ ", ".intercalate rules ∧
        (¬ "as ".toList <+: d.typeClause.text.toList →
          v.validate p (", ".intercalate rules) = .error (.validation name rules)) := by
  have hd : d.Readable := RuleDefinition.readable_of_parse h
  have hcheck (normal : String) (hnormal : d.IsNormalForm normal) (v : Validator) (p : Param)
      (ofClass : Option ClassArg) :
      (v.check p normal ofClass).outcome = (v.check p rule ofClass).outcome.quoting normal :=
    outcome_check_of_parse_eq h (hnormal.parse_eq hd)
  refine ⟨fun text htext => ⟨hd.trim_eq text htext, hd.comma_not_mem text htext⟩,
    RuleDefinition.parse_as_intercalate_declared_iff hd,
    RuleDefinition.parse_intercalate_declared_iff hd,
    fun normal hnormal v p => ⟨hcheck normal hnormal v p none,
      fun c => hcheck normal hnormal v p (some c)⟩, ?_⟩
  intro v p name rules hfails
  obtain ⟨hname, rfl⟩ := validate_eq_validation h hfails
  refine ⟨hname, rfl, rfl, fun has => ?_⟩
  have hsame : v.validate p (", ".intercalate d.declared) =
      (v.validate p rule).quoting (", ".intercalate d.declared) :=
    hcheck _ (.plain has) v p none
  rw [hsame, hfails]
  rfl

/-- A rule with blanks, an empty clause and a second `as `, which needs one in front. -/
theorem validate_normalForm_second_as :
    RuleDefinition.parse "as as any value, less than 5, " =
        .ok ⟨⟨"as any value", .type⟩, [⟨"less than 5", .comparison .less "5"⟩, ⟨"", .plain⟩]⟩ ∧
      RuleDefinition.parse "as any value, less than 5, " ≠
        .ok ⟨⟨"as any value", .type⟩, [⟨"less than 5", .comparison .less "5"⟩, ⟨"", .plain⟩]⟩ := by
  obtain ⟨-, hlead, hplain, -⟩ := validate_normalForm " as as any value ,less than 5,"
    ⟨⟨"as any value", .type⟩, [⟨"less than 5", .comparison .less "5"⟩, ⟨"", .plain⟩]⟩ rfl
  exact ⟨hlead.mpr (by decide), fun h => hplain.mp h (by decide)⟩

/-- The message of a check for a class does not list the clauses of the rule, but its article and
the name of the class, and that is no rule for a class. -/
theorem validateInstance_message_is_no_rule :
    RuleDefinition.parse "a \x7b\x7d" = .ok ⟨⟨"a \x7b\x7d", .type⟩, []⟩ ∧
      ¬ "as ".toList <+: "a \x7b\x7d".toList ∧
      standard.validateInstance ⟨"x", .null⟩ "a \x7b\x7d" ⟨"Post", ⟨"Post"⟩⟩ =
        .error (.validation "x" ["a Post"]) ∧
      standard.validateInstance ⟨"x", .null⟩ (", ".intercalate ["a Post"]) ⟨"Post", ⟨"Post"⟩⟩ =
        .error (.format "x" (.classShape "a Post")) ∧
      standard.validate ⟨"x", .null⟩ (", ".intercalate ["a Post"]) =
        .error (.format "x" (.unknownType "a Post")) :=
  ⟨rfl, by decide, rfl, rfl, rfl⟩

end Validator

end Clausal
