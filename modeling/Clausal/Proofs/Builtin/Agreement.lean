import Clausal.Proofs.Clause.Shape
import Clausal.Proofs.Registry
import Clausal.Proofs.Validator.Stages
import Clausal.Setup

/-!
# Built-in rules and the kinds of clauses

The kind of a clause is found out when it is read, and a rule for it is found when a value is
checked.  There is one built-in rule for each shape of clauses, and the two agree: a rule applies
to a clause exactly if the kind of the clause is of the shape that the rule is for.  So no built-in
rule is ever asked about a clause that it has no test for.

## Main definitions

- `Shape.rule`: the built-in rule for a shape
- `Shape.test?`: the test that a built-in rule makes of a kind of clauses, if it has one
-/

namespace Clausal

namespace Shape

variable {bound : UpToBound} {s : Shape} {kind : ClauseKind}

/-- The built-in rule for the clauses of a shape. -/
def rule (bound : UpToBound) : Shape → PartialRule
  | range => Builtin.lengthRange
  | atLeast => Builtin.lengthAtLeast
  | upTo => Builtin.lengthUpTo bound
  | comparison op => Builtin.comparison op
  | inline => Builtin.inlineMatch

@[simp] theorem pattern_rule (s : Shape) : (s.rule bound).pattern = s.pattern := by
  cases s <;> rfl

theorem name_rule (s : Shape) (bound bound' : UpToBound) :
    (s.rule bound).name = (s.rule bound').name := by
  cases s <;> rfl

/-- The test that the rule for a shape makes of a kind of clauses, if it has one for the kind. -/
def test? (bound : UpToBound) (s : Shape) (kind : ClauseKind) : Option (Value → Bool) :=
  match s, kind with
  | range, .bound (some low) (some high) =>
    some fun v => v.length?.any fun n => low ≤ n && n ≤ high
  | atLeast, .bound (some low) _ => some fun v => v.length?.any (low ≤ ·)
  | upTo, .bound _ (some high) => some fun v => v.length?.any (bound.admits high)
  | comparison op, .comparison _ operand => some fun v => (v.compareOperand? operand).any op.holds
  | inline, .pattern regex _ => some fun v => v.text?.any regex.isMatch
  | _, _ => none

/-- A built-in rule makes its test of a clause, and no value passes if it has none. -/
theorem evaluate_rule (v : Value) (c : Clause) :
    (s.rule bound).evaluate v c = ((s.test? bound c.kind).map (· v)).getD false := by
  obtain ⟨text, kind⟩ := c
  cases s with
  | range =>
    cases hlength : v.length? <;> rcases kind with _ | ⟨_ | _, _ | _⟩ | _ | _ | _ <;>
      simp [rule, Builtin.lengthRange, test?, hlength]
  | atLeast =>
    cases hlength : v.length? <;> rcases kind with _ | ⟨_ | _, _ | _⟩ | _ | _ | _ <;>
      simp [rule, Builtin.lengthAtLeast, test?, hlength]
  | upTo =>
    cases hlength : v.length? <;> rcases kind with _ | ⟨_ | _, _ | _⟩ | _ | _ | _ <;>
      simp [rule, Builtin.lengthUpTo, test?, hlength]
  | comparison op => cases kind <;> rfl
  | inline =>
    cases htext : v.text? <;> cases kind <;> simp [rule, Builtin.inlineMatch, test?, htext]

theorem exists_test_of_shape? (bound : UpToBound) (h : kind.shape? = some s) :
    ∃ t, s.test? bound kind = some t := by
  rcases kind with _ | ⟨_ | _, _ | _⟩ | _ | _ | _ <;> cases h <;> exact ⟨_, rfl⟩

theorem mem_all (s : Shape) : s ∈ all := by
  rcases s with _ | _ | _ | op | _
  all_goals first | decide | (cases op <;> decide)

end Shape

namespace Builtin

/-- There is one built-in rule for each shape, in the order in which shapes are tried. -/
theorem rules_eq (bound : UpToBound) : rules bound = Shape.all.map (Shape.rule bound) := rfl

theorem mem_rules_iff {bound : UpToBound} {rule : PartialRule} :
    rule ∈ rules bound ↔ ∃ s : Shape, s.rule bound = rule := by
  rw [rules_eq, List.mem_map]
  exact ⟨fun ⟨s, _, hs⟩ => ⟨s, hs⟩, fun ⟨s, hs⟩ => ⟨s, Shape.mem_all s, hs⟩⟩

/-- A text that a built-in rule matches has the shape that the rule is for. -/
theorem exists_shape_of_isMatch {bound : UpToBound} {rule : PartialRule} {text : String}
    (hrule : rule ∈ rules bound) (hmatch : rule.pattern.isMatch text = true) :
    ∃ s : Shape, rule = s.rule bound ∧ s.IsText text.toList := by
  rw [rules_eq] at hrule
  obtain ⟨s, -, rfl⟩ := List.mem_map.mp hrule
  rw [Shape.pattern_rule, Shape.isMatch_pattern_iff] at hmatch
  exact ⟨s, rfl, hmatch⟩

end Builtin

namespace Validator

variable {v : Validator} {c : Clause} {bound : UpToBound} {s : Shape} {text : String}

theorem isMatch_rule_iff (h : Clause.parse text = .ok c) :
    (s.rule bound).pattern.isMatch c.text = true ↔ c.kind.shape? = some s := by
  rw [Shape.pattern_rule, Clause.isMatch_pattern_iff_of_parse h]

/-- Whatever a check evaluates a built-in rule on is of the shape that the rule is for. -/
theorem shape?_of_mem_ran {p : Param} {rule : String} {ofClass : Option ClassArg} {e : Evaluation}
    (h : e ∈ (v.check p rule ofClass).ran)
    (hrule : v.partials.rules[e.rule]? = some (s.rule bound)) : e.clause.kind.shape? = some s := by
  obtain ⟨r, ⟨resolved, hresolved, hmem⟩, hget, hmatch, -⟩ := exists_rule_of_mem_ran h
  cases hrule.symm.trans hget
  obtain ⟨text, hparse⟩ :=
    RuleDefinition.exists_parse_of_mem_modifiers (parse_of_resolveRule hresolved) hmem
  exact (isMatch_rule_iff hparse).mp hmatch

/-- Under the built-in rules a modifier has a meaning exactly if it is a phrase or has operands. -/
theorem isSome_decideModifier_standard_iff (value : Value) (h : Clause.parse text = .ok c) :
    (standard.decideModifier value c).1.isSome = true ↔
      c.text ∈ Builtin.phrases.map (·.phrase) ∨ c.kind ≠ .plain := by
  have hphrase : (standard.whole.resolve? c.text).isSome = true ↔
      c.text ∈ Builtin.phrases.map (·.phrase) :=
    (WholeRegistry.isSome_resolve?_insertAll_empty ..).trans List.mem_map.symm
  have hpattern : (∃ rule ∈ standard.partials.rules, rule.pattern.isMatch c.text = true) ↔
      c.kind ≠ .plain := by
    rw [ne_eq, ← Clause.shape?_eq_none_iff_of_classify (Clause.classify_of_parse h), ← ne_eq,
      Option.ne_none_iff_exists']
    constructor
    · rintro ⟨rule, hrule, hmatch⟩
      obtain ⟨s, -, rfl⟩ : ∃ s ∈ Shape.all, s.rule .atLeast = rule := List.mem_map.mp hrule
      exact ⟨s, (isMatch_rule_iff h).mp hmatch⟩
    · rintro ⟨s, hs⟩
      exact ⟨s.rule .atLeast, List.mem_map_of_mem (Shape.mem_all s), (isMatch_rule_iff h).mpr hs⟩
  rw [decideModifier_eq, Option.isSome_map, isSome_decider?_iff, hphrase, hpattern]

end Validator

namespace Builtin

/-- The built-in rules agree with the kinds that clauses are read as, whichever way "up to" clauses
bound a length.  There is one rule for each shape of clauses with operands.  A rule applies to a
clause exactly if the kind of the clause is of its shape, and no two of them apply to one text.
Every check evaluates a built-in rule on clauses of its shape only, for whose kinds it has a test.
Under the standard validator a modifier has a meaning exactly if it is one of the fourteen phrases
or is not plain. -/
theorem rules_agree_with_kinds (bound : UpToBound) :
    rules bound = Shape.all.map (Shape.rule bound) ∧
    (∀ text c s, Clause.parse text = .ok c →
      ((s.rule bound).pattern.isMatch c.text = true ↔ c.kind.shape? = some s)) ∧
    (∀ (text : String) (i j : Nat) (r r' : PartialRule), (rules bound)[i]? = some r →
      (rules bound)[j]? = some r' → r.pattern.isMatch text = true →
      r'.pattern.isMatch text = true → i = j) ∧
    (∀ (v : Validator) (p : Param) (rule : String) (ofClass : Option ClassArg),
      ∀ e ∈ (v.check p rule ofClass).ran, ∀ s, v.partials.rules[e.rule]? = some (s.rule bound) →
        e.clause.kind.shape? = some s ∧ ∃ test, s.test? bound e.clause.kind = some test ∧
          ∀ value, (s.rule bound).evaluate value e.clause = test value) ∧
    (∀ text c value, Clause.parse text = .ok c →
      ((Validator.standard.decideModifier value c).1.isSome = true ↔
        c.text ∈ phrases.map (·.phrase) ∨ c.kind ≠ .plain)) ∧
    phrases.map (·.phrase) =
      ["an optional string", "a string", "an optional number", "a number", "an optional boolean",
       "a boolean", "an optional array", "an array", "an optional object", "an object",
       "an optional function", "a function", "any value", "a value"] := by
  refine ⟨rules_eq bound, fun text c s h => Validator.isMatch_rule_iff h, ?_, ?_,
    fun text c value h => Validator.isSome_decideModifier_standard_iff value h, rfl⟩
  · intro text i j r r' hi hj hr hr'
    -- Two rules that apply to one text are for one shape, and each shape occurs once.
    rw [rules_eq, List.getElem?_map] at hi hj
    obtain ⟨s, hs, rfl⟩ := Option.map_eq_some_iff.mp hi
    obtain ⟨s', hs', rfl⟩ := Option.map_eq_some_iff.mp hj
    rw [Shape.pattern_rule, Shape.isMatch_pattern_iff] at hr hr'
    obtain rfl := Shape.eq_of_isText hr hr'
    obtain ⟨hlt, -⟩ := List.getElem?_eq_some_iff.mp hs
    exact (List.getElem?_inj hlt (by decide)).mp (hs.trans hs'.symm)
  · intro v p rule ofClass e he s hrule
    have hshape := Validator.shape?_of_mem_ran he hrule
    obtain ⟨test, htest⟩ := Shape.exists_test_of_shape? bound hshape
    refine ⟨hshape, test, htest, fun value => ?_⟩
    rw [Shape.evaluate_rule, htest]
    rfl

/-- A relation is read off its clause, in either case, and the rule for it applies, but not the rule
for the other relation that begins with the same words.  A phrase has a meaning as a modifier, and a
single word has none. -/
theorem rules_agree_with_kinds_less_than :
    Clause.parse " Less than 5 " = .ok ⟨"Less than 5", .comparison .less "5"⟩ ∧
    (Shape.rule .atMost (.comparison .less)).pattern.isMatch "Less than 5" = true ∧
    (Shape.rule .atMost (.comparison .lessOrEqual)).pattern.isMatch "Less than 5" = false ∧
    (Validator.standard.decideModifier .null ⟨"an array", .plain⟩).1.isSome = true ∧
    (Validator.standard.decideModifier .null ⟨"tall", .plain⟩).1.isSome = false := by
  obtain ⟨-, happlies, -, -, hmeaning, hphrases⟩ := rules_agree_with_kinds .atMost
  have hless : Clause.parse " Less than 5 " = .ok ⟨"Less than 5", .comparison .less "5"⟩ := by rfl
  have harray : Clause.parse "an array" = .ok ⟨"an array", .plain⟩ := by rfl
  have htall : Clause.parse "tall" = .ok ⟨"tall", .plain⟩ := by rfl
  refine ⟨hless, (happlies _ _ _ hless).mpr rfl, ?_, ?_, ?_⟩
  · rw [← Bool.not_eq_true, happlies _ _ _ hless]
    nofun
  · refine (hmeaning _ _ _ harray).mpr (.inl ?_)
    rw [hphrases]
    decide
  · rw [← Bool.not_eq_true, hmeaning _ _ _ htall, hphrases]
    rintro (hphrase | hkind)
    · exact absurd hphrase (by decide)
    · exact hkind rfl

end Builtin

end Clausal
