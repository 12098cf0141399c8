import Clausal.Proofs.Rule.Parts
import Clausal.Validator

/-!
# The stages of a check

A check without a class has two stages.  `Validator.resolveRule` understands the rule: it reads it,
refuses placeholders and looks up the type clause; it never sees the value.  `Validator.checkValue`
then holds the value against what was understood.  `Validator.check_eq` says that the two together
are the check.

Modifiers are decided one by one.  `Validator.decider?` finds what decides a text, again without
looking at the value; `Validator.decideModifier_eq` says that this is what a check does.
-/

namespace Clausal

/-- What decides a modifier. -/
inductive Decider where
  | phrase (rule : WholeRule)
  /-- The partial rule at a position of the registry. -/
  | pattern (index : Nat) (rule : PartialRule)

namespace Decider

/-- Whether a value passes a clause that is decided so. -/
def passes (d : Decider) (value : Value) (c : Clause) : Bool :=
  match d with
  | phrase rule => rule.test value
  | pattern _ rule => rule.evaluate value c

/-- The evaluation of a partial rule that the decision takes, if it takes one. -/
def evaluation? (d : Decider) (c : Clause) : Option Evaluation :=
  match d with
  | phrase _ => none
  | pattern index _ => some ⟨index, c⟩

end Decider

/-- The first partial rule whose pattern matches a text, as what decides it. -/
def PartialRegistry.decider? (p : PartialRegistry) (text : String) : Option Decider :=
  (p.rules.findIdx? (·.pattern.isMatch text)).bind fun i => p.rules[i]?.map (.pattern i)

theorem PartialRegistry.decider?_append (rules more : List PartialRule) (text : String) :
    decider? ⟨rules ++ more⟩ text = (decider? ⟨rules⟩ text).or
      ((more.findIdx? (·.pattern.isMatch text)).bind fun i =>
        more[i]?.map (.pattern (rules.length + i))) := by
  simp only [decider?, List.findIdx?_append]
  cases hfind : rules.findIdx? (·.pattern.isMatch text) with
  | some i =>
    obtain ⟨hi, -, -⟩ := List.findIdx?_eq_some_iff_getElem.mp hfind
    simp [List.getElem?_append_left hi, hi]
  | none =>
    cases more.findIdx? (·.pattern.isMatch text) with
    | none => rfl
    | some i =>
      simp [Nat.add_comm i, List.getElem?_append_right (Nat.le_add_right rules.length i)]

/-- The rule that decides a text stands at its position of the registry, and its pattern matches
the text. -/
theorem PartialRegistry.of_decider?_eq_some {p : PartialRegistry} {text : String} {d : Decider}
    (h : p.decider? text = some d) :
    ∃ i rule, d = .pattern i rule ∧ p.rules[i]? = some rule ∧ rule.pattern.isMatch text = true := by
  obtain ⟨i, hi, hrule⟩ := Option.bind_eq_some_iff.mp h
  obtain ⟨rule, hget, rfl⟩ := Option.map_eq_some_iff.mp hrule
  obtain ⟨hlt, hmatch, -⟩ := List.findIdx?_eq_some_iff_getElem.mp hi
  rw [List.getElem?_eq_getElem hlt] at hget
  cases hget
  exact ⟨i, p.rules[i], rfl, List.getElem?_eq_getElem hlt, hmatch⟩

theorem PartialRegistry.isSome_decider?_iff {p : PartialRegistry} {text : String} :
    (p.decider? text).isSome = true ↔ ∃ rule ∈ p.rules, rule.pattern.isMatch text = true := by
  constructor
  · intro h
    obtain ⟨d, hd⟩ := Option.isSome_iff_exists.mp h
    obtain ⟨i, rule, -, hget, hmatch⟩ := of_decider?_eq_some hd
    exact ⟨rule, List.mem_of_getElem? hget, hmatch⟩
  · rintro ⟨rule, hmem, hmatch⟩
    rw [decider?]
    cases hfind : p.rules.findIdx? (·.pattern.isMatch text) with
    | none => simp [List.findIdx?_eq_none_iff.mp hfind rule hmem] at hmatch
    | some i =>
      obtain ⟨hlt, -, -⟩ := List.findIdx?_eq_some_iff_getElem.mp hfind
      simp [hlt]

/-- A rule that has been understood: its clauses, and what its type clause says. -/
structure ResolvedRule where
  definition : RuleDefinition
  /-- The rule of the type clause. -/
  typeRule : WholeRule

namespace Validator

variable {v w : Validator} {value : Value} {c : Clause} {cs pre post : List Clause}

/-- What decides a modifier with a certain text, if anything does. -/
def decider? (v : Validator) (text : String) : Option Decider :=
  match v.whole.resolve? text with
  | some rule => some (.phrase rule)
  | none => v.partials.decider? text

/-- A partial rule decides a text only if no phrase does; it stands at its position of the registry,
and its pattern matches the text. -/
theorem of_decider?_eq_pattern {text : String} {i : Nat} {rule : PartialRule}
    (h : v.decider? text = some (.pattern i rule)) :
    v.whole.resolve? text = none ∧ v.partials.rules[i]? = some rule ∧
      rule.pattern.isMatch text = true := by
  rw [decider?] at h
  cases hphrase : v.whole.resolve? text with
  | some r => simp [hphrase] at h
  | none =>
    simp only [hphrase] at h
    obtain ⟨j, r, hd, hget, hmatch⟩ := PartialRegistry.of_decider?_eq_some h
    cases hd
    exact ⟨rfl, hget, hmatch⟩

theorem decideModifier_eq (v : Validator) (value : Value) (c : Clause) :
    v.decideModifier value c = ((v.decider? c.text).map (·.passes value c),
      (v.decider? c.text).bind (·.evaluation? c)) := by
  unfold decideModifier decider?
  cases hphrase : v.whole.resolve? c.text with
  | some rule => rfl
  | none =>
    simp only [PartialRegistry.search?, PartialRegistry.findIndex?, PartialRegistry.decider?,
      PartialRule.appliesTo]
    cases hfind : v.partials.rules.findIdx? (·.pattern.isMatch c.text) with
    | none => rfl
    | some i =>
      simp only [Option.bind_some]
      cases v.partials.rules[i]? <;> rfl

theorem decideModifier_eq_none_iff :
    (v.decideModifier value c).1 = none ↔ v.decider? c.text = none := by
  rw [decideModifier_eq]
  exact Option.map_eq_none_iff

theorem isSome_decider?_iff {text : String} : (v.decider? text).isSome = true ↔
    (v.whole.resolve? text).isSome = true ∨
      ∃ rule ∈ v.partials.rules, rule.pattern.isMatch text = true := by
  rw [decider?]
  cases v.whole.resolve? text with
  | some rule => simp
  | none => simpa using PartialRegistry.isSome_decider?_iff

/-- A value passes a modifier. -/
def Passes (v : Validator) (value : Value) (c : Clause) : Prop :=
  (v.decideModifier value c).1 = some true

theorem Passes.decider?_ne_none (h : v.Passes value c) : v.decider? c.text ≠ none := by
  intro hnone
  rw [Passes, decideModifier_eq_none_iff.mpr hnone] at h
  cases h

theorem checkModifiers_cons_of_passes (h : v.Passes value c) :
    v.checkModifiers value (c :: cs) = ((v.checkModifiers value cs).1,
      (v.decideModifier value c).2.toList ++ (v.checkModifiers value cs).2) := by
  have hc : (v.decideModifier value c).1 = some true := h
  simp only [checkModifiers, hc]

/-- The evaluations that modifiers take which a value passes. -/
def evaluations (v : Validator) (value : Value) (cs : List Clause) : List Evaluation :=
  cs.flatMap fun c => (v.decideModifier value c).2.toList

/-- Modifiers that a value passes change nothing about how the others come out; their evaluations
come first. -/
theorem checkModifiers_append (h : ∀ c ∈ pre, v.Passes value c) :
    v.checkModifiers value (pre ++ post) = ((v.checkModifiers value post).1,
      v.evaluations value pre ++ (v.checkModifiers value post).2) := by
  induction pre with
  | nil => rfl
  | cons c pre ih =>
    have hrest := ih fun x hx => h x (List.mem_cons_of_mem _ hx)
    rw [List.cons_append, checkModifiers_cons_of_passes (h c List.mem_cons_self), hrest]
    simp only [evaluations, List.flatMap_cons, List.append_assoc]

theorem checkModifiers_cons_of_not_passes (h : ¬ v.Passes value c) :
    v.checkModifiers value (c :: cs) =
      (if v.decider? c.text = none then .unknown c.text else .broken,
        (v.decideModifier value c).2.toList) := by
  cases hd : (v.decideModifier value c).1 with
  | none => simp only [checkModifiers, hd, decideModifier_eq_none_iff.mp hd, if_true]
  | some b =>
    have hsome : v.decider? c.text ≠ none := by
      intro hnone
      rw [decideModifier_eq_none_iff.mpr hnone] at hd
      cases hd
    cases b with
    | true => exact absurd hd h
    | false => simp only [checkModifiers, hd, if_neg hsome]

theorem checkModifiers_eq_passed_iff :
    (v.checkModifiers value cs).1 = .passed ↔ ∀ c ∈ cs, v.Passes value c := by
  constructor
  · intro h
    rcases forall_or_exists_first (v.Passes value) cs with hall | ⟨pre, c, post, rfl, hpre, hc⟩
    · exact hall
    · rw [checkModifiers_append hpre, checkModifiers_cons_of_not_passes hc] at h
      dsimp only at h
      split at h <;> cases h
  · intro h
    rw [← List.append_nil cs, checkModifiers_append h]
    rfl

/-- A modifier without a meaning is reported exactly when it is the first one that the value does
not pass. -/
theorem checkModifiers_eq_unknown_iff {text : String} :
    (v.checkModifiers value cs).1 = .unknown text ↔
      ∃ pre c post, cs = pre ++ c :: post ∧ (∀ x ∈ pre, v.Passes value x) ∧
        v.decider? c.text = none ∧ c.text = text := by
  constructor
  · intro h
    rcases forall_or_exists_first (v.Passes value) cs with hall | ⟨pre, c, post, rfl, hpre, hc⟩
    · rw [checkModifiers_eq_passed_iff.mpr hall] at h
      cases h
    · rw [checkModifiers_append hpre, checkModifiers_cons_of_not_passes hc] at h
      dsimp only at h
      split at h
      · next hnone =>
        cases h
        exact ⟨pre, c, post, rfl, hpre, hnone, rfl⟩
      · cases h
  · rintro ⟨pre, c, post, rfl, hpre, hnone, rfl⟩
    have hc : ¬ v.Passes value c := fun h => h.decider?_ne_none hnone
    rw [checkModifiers_append hpre, checkModifiers_cons_of_not_passes hc, if_pos hnone]

/-- The modifier that is reported as unknown is the first one without a meaning. -/
theorem find?_eq_of_checkModifiers_eq_unknown {text : String}
    (h : (v.checkModifiers value cs).1 = .unknown text) :
    (cs.find? fun c => (v.decider? c.text).isNone).map (·.text) = some text := by
  obtain ⟨pre, c, post, rfl, hpre, hnone, rfl⟩ := checkModifiers_eq_unknown_iff.mp h
  have hskip : pre.find? (fun c => (v.decider? c.text).isNone) = none := by
    rw [List.find?_eq_none]
    intro x hx hisNone
    exact (hpre x hx).decider?_ne_none (Option.isNone_iff_eq_none.mp hisNone)
  rw [List.find?_append, hskip, Option.none_or, List.find?_cons_of_pos (by simp [hnone])]
  rfl

/-- What has been evaluated is a partial rule of the registry on a modifier that its pattern
matches, and no phrase decides that modifier. -/
theorem exists_decider_of_mem_ran {e : Evaluation} (h : e ∈ (v.checkModifiers value cs).2) :
    e.clause ∈ cs ∧ ∃ rule, v.decider? e.clause.text = some (.pattern e.rule rule) := by
  induction cs with
  | nil => exact absurd h List.not_mem_nil
  | cons c cs ih =>
    -- What a modifier evaluates, it evaluates on itself.
    have hhere : e ∈ (v.decideModifier value c).2.toList →
        e.clause = c ∧ ∃ rule, v.decider? c.text = some (.pattern e.rule rule) := by
      intro he
      rw [decideModifier_eq] at he
      cases hd : v.decider? c.text with
      | none => simp [hd] at he
      | some d =>
        cases d with
        | phrase rule => simp [hd, Decider.evaluation?] at he
        | pattern i rule =>
          simp only [hd, Decider.evaluation?, Option.bind_some, Option.toList_some,
            List.mem_singleton] at he
          subst he
          exact ⟨rfl, rule, rfl⟩
    by_cases hc : v.Passes value c
    · rw [checkModifiers_cons_of_passes hc] at h
      rcases List.mem_append.mp h with h | h
      · obtain ⟨rfl, hrule⟩ := hhere h
        exact ⟨List.mem_cons_self, hrule⟩
      · obtain ⟨hmem, hrule⟩ := ih h
        exact ⟨List.mem_cons_of_mem _ hmem, hrule⟩
    · rw [checkModifiers_cons_of_not_passes hc] at h
      obtain ⟨rfl, hrule⟩ := hhere h
      exact ⟨List.mem_cons_self, hrule⟩

/-- Understands a rule: reads it, refuses placeholders and looks up the type clause. -/
def resolveRule (v : Validator) (rule : String) : Except FormatReason ResolvedRule :=
  match RuleDefinition.parse rule with
  | .error e => .error (.invalidPattern e.clause e.cause.message)
  | .ok d =>
    if d.hasPlaceholder then .error (.missingClassReference rule)
    else
      match v.whole.resolve? d.typeClause.text with
      | none => .error (.unknownType d.typeClause.text)
      | some typeRule => .ok ⟨d, typeRule⟩

/-- Holds a value against a rule that has been understood. -/
def checkValue (v : Validator) (p : Param) (r : ResolvedRule) : Report :=
  if r.typeRule.test p.value = false then
    ⟨.error (.validation p.name r.definition.declared), []⟩
  else if p.value.isVoid then ⟨.ok (), []⟩
  else
    ⟨(v.checkModifiers p.value r.definition.modifiers).1.outcome p.name r.definition.declared,
      (v.checkModifiers p.value r.definition.modifiers).2⟩

section CheckValue

variable {p : Param} {r : ResolvedRule}

/-- A value that is not of the type breaks the rule, whatever the modifiers are. -/
theorem checkValue_of_not_test (htest : r.typeRule.test p.value = false) :
    v.checkValue p r = ⟨.error (.validation p.name r.definition.declared), []⟩ :=
  if_pos htest

/-- A value that was not supplied passes if it is of the type, whatever the modifiers are. -/
theorem checkValue_of_isVoid (htest : r.typeRule.test p.value = true)
    (hvoid : p.value.isVoid = true) : v.checkValue p r = ⟨.ok (), []⟩ := by
  rw [checkValue, if_neg (by simp [htest]), if_pos hvoid]

/-- Any other value comes out as the modifiers do. -/
theorem checkValue_of_supplied (htest : r.typeRule.test p.value = true)
    (hvoid : p.value.isVoid = false) : v.checkValue p r =
      ⟨(v.checkModifiers p.value r.definition.modifiers).1.outcome p.name r.definition.declared,
        (v.checkModifiers p.value r.definition.modifiers).2⟩ := by
  rw [checkValue, if_neg (by simp [htest]), if_neg (by simp [hvoid])]

/-- Holding a value against a rule that was understood succeeds, breaks the rule, or meets a
modifier without a meaning. -/
theorem outcome_checkValue_cases (v : Validator) (p : Param) (r : ResolvedRule) :
    (v.checkValue p r).outcome = .ok () ∨
      (v.checkValue p r).outcome = .error (.validation p.name r.definition.declared) ∨
      ∃ text, (v.checkValue p r).outcome = .error (.format p.name (.unknownModifier text)) := by
  cases htest : r.typeRule.test p.value with
  | false =>
    rw [checkValue_of_not_test htest]
    exact .inr (.inl rfl)
  | true =>
    cases hvoid : p.value.isVoid with
    | true =>
      rw [checkValue_of_isVoid htest hvoid]
      exact .inl rfl
    | false =>
      rw [checkValue_of_supplied htest hvoid]
      cases (v.checkModifiers p.value r.definition.modifiers).1 with
      | passed => exact .inl rfl
      | broken => exact .inr (.inl rfl)
      | unknown text => exact .inr (.inr ⟨text, rfl⟩)

end CheckValue

theorem validate_of_parse_error {p : Param} {rule : String} {e : ClauseError}
    (h : RuleDefinition.parse rule = .error e) :
    v.validate p rule = .error (.format p.name (.invalidPattern e.clause e.cause.message)) := by
  rw [validate, check, h]

/-- A check first understands the rule and then looks at the value. -/
theorem check_eq (v : Validator) (p : Param) (rule : String) :
    v.check p rule none =
      match v.resolveRule rule with
      | .error reason => ⟨.error (.format p.name reason), []⟩
      | .ok r => v.checkValue p r := by
  rw [check, resolveRule]
  cases RuleDefinition.parse rule with
  | error e => rfl
  | ok d =>
    simp only [checkDefinition]
    cases d.hasPlaceholder with
    | true => rfl
    | false =>
      simp only [Bool.false_eq_true, if_false]
      cases v.whole.resolve? d.typeClause.text with
      | none => rfl
      | some typeRule =>
        simp only [checkValue]
        cases typeRule.test p.value <;> rfl

/-- A check that gets to the modifiers reports how they come out. -/
theorem check_eq_of_resolveRule {p : Param} {rule : String} {r : ResolvedRule}
    (hr : v.resolveRule rule = .ok r) (htest : r.typeRule.test p.value = true)
    (hvoid : p.value.isVoid = false) :
    v.check p rule none =
      ⟨(v.checkModifiers p.value r.definition.modifiers).1.outcome p.name r.definition.declared,
        (v.checkModifiers p.value r.definition.modifiers).2⟩ := by
  rw [check_eq, hr]
  exact checkValue_of_supplied htest hvoid

/-- Only modifiers can be reported as unknown, and only after the whole rule was understood. -/
theorem resolveRule_ne_unknownModifier (v : Validator) (rule text : String) :
    v.resolveRule rule ≠ .error (.unknownModifier text) := by
  intro h
  rw [resolveRule] at h
  repeat' split at h
  all_goals cases h

/-- Holding a value against a rule blames the rule only for a modifier without a meaning, and only
if the value was supplied and is of the type. -/
theorem checkValue_eq_format_iff {p : Param} {r : ResolvedRule} {name : String}
    {reason : FormatReason} :
    (v.checkValue p r).outcome = .error (.format name reason) ↔
      name = p.name ∧ r.typeRule.test p.value = true ∧ p.value.isVoid = false ∧
        ∃ text, reason = .unknownModifier text ∧
          (v.checkModifiers p.value r.definition.modifiers).1 = .unknown text := by
  cases htest : r.typeRule.test p.value with
  | false => simp [checkValue_of_not_test htest]
  | true =>
    cases hvoid : p.value.isVoid with
    | true => simp [checkValue_of_isVoid htest hvoid]
    | false =>
      rw [checkValue_of_supplied htest hvoid]
      cases hresult : (v.checkModifiers p.value r.definition.modifiers).1 with
      | passed => simp [ModifiersResult.outcome]
      | broken => simp [ModifiersResult.outcome]
      | unknown text =>
        simp only [ModifiersResult.outcome, true_and]
        constructor
        · intro h
          cases h
          exact ⟨rfl, text, rfl, rfl⟩
        · rintro ⟨rfl, _, rfl, htext⟩
          cases htext
          rfl

/-- A rule is understood exactly if it can be read, contains no token for a class, and its type
clause is a phrase. -/
theorem resolveRule_eq_ok_iff {rule : String} {r : ResolvedRule} :
    v.resolveRule rule = .ok r ↔ RuleDefinition.parse rule = .ok r.definition ∧
      r.definition.hasPlaceholder = false ∧
      v.whole.resolve? r.definition.typeClause.text = some r.typeRule := by
  rw [resolveRule]
  constructor
  · intro h
    cases hparse : RuleDefinition.parse rule with
    | error e => simp [hparse] at h
    | ok d =>
      simp only [hparse] at h
      split at h
      · cases h
      · next hplaceholder =>
        split at h
        · cases h
        · next typeRule htype =>
          cases h
          exact ⟨rfl, Bool.eq_false_iff.mpr hplaceholder, htype⟩
  · rintro ⟨hparse, hplaceholder, htype⟩
    simp only [hparse, hplaceholder, htype, Bool.false_eq_true, if_false]

theorem parse_of_resolveRule {rule : String} {r : ResolvedRule} (h : v.resolveRule rule = .ok r) :
    RuleDefinition.parse rule = .ok r.definition :=
  (resolveRule_eq_ok_iff.mp h).1

/-- What a check has evaluated is a modifier of the rule and a partial rule whose pattern matches
it; no phrase decides that modifier. -/
theorem exists_rule_of_mem_ran {p : Param} {text : String} {ofClass : Option ClassArg}
    {e : Evaluation} (h : e ∈ (v.check p text ofClass).ran) :
    ∃ rule, (∃ r, v.resolveRule text = .ok r ∧ e.clause ∈ r.definition.modifiers) ∧
      v.partials.rules[e.rule]? = some rule ∧ rule.pattern.isMatch e.clause.text = true ∧
      v.whole.resolve? e.clause.text = none := by
  cases ofClass with
  | some c =>
    rw [check] at h
    split at h <;> exact absurd h List.not_mem_nil
  | none =>
    rw [check_eq] at h
    cases hr : v.resolveRule text with
    | error reason => simp [hr] at h
    | ok r =>
      simp only [hr, checkValue] at h
      repeat' split at h
      · exact absurd h List.not_mem_nil
      · exact absurd h List.not_mem_nil
      · obtain ⟨hmem, rule, hd⟩ := exists_decider_of_mem_ran h
        obtain ⟨hphrase, hget, hmatch⟩ := of_decider?_eq_pattern hd
        exact ⟨rule, ⟨r, rfl, hmem⟩, hget, hmatch, hphrase⟩

end Validator

end Clausal
