import Clausal.Proofs.Validator.Registration

/-!
# Which rules a check evaluates

A check evaluates a partial rule only to decide a modifier that it gets to.  It gets to the
modifiers in order, up to the first one that the value does not satisfy, and for each of them that
is no phrase it evaluates the first rule whose pattern matches, once.  The main statement,
`Validator.ran_check`, says this of every check, and also that a rule which is not evaluated has no
say: another test in its place changes nothing.

## Main definitions

- `PartialRegistry.FirstMatch`: the first partial rule whose pattern matches a text
- `Validator.Satisfies`: a value satisfies a modifier
- `Validator.Evaluates`: the evaluation that decides a modifier
- `Validator.ReachesModifiers`: a check gets to the modifiers of a rule
- `Validator.SamePatterns`: two validators differ in the tests of their partial rules only
-/

namespace Clausal

/-- The rule at a position is the first one, in order of priority, whose pattern matches a text. -/
structure PartialRegistry.FirstMatch (p : PartialRegistry) (text : String) (i : Nat)
    (rule : PartialRule) : Prop where
  getElem? : p.rules[i]? = some rule
  isMatch : rule.pattern.isMatch text = true
  not_before : ∀ j r, j < i → p.rules[j]? = some r → r.pattern.isMatch text = false

namespace Validator

variable {v w : Validator} {p : Param} {value : Value} {c : Clause} {cs pre post : List Clause}

/-- A value satisfies a modifier: it passes the test of the phrase that the modifier is or, if that
is none, of the first partial rule whose pattern matches. -/
inductive Satisfies (v : Validator) (value : Value) (c : Clause) : Prop where
  | phrase {rule : WholeRule} (resolves : v.whole.resolve? c.text = some rule)
      (passes : rule.test value = true)
  | pattern {i : Nat} {rule : PartialRule} (unresolved : v.whole.resolve? c.text = none)
      (first : v.partials.FirstMatch c.text i rule) (passes : rule.evaluate value c = true)

/-- An evaluation decides a modifier: the modifier is no phrase, and the rule is the first one whose
pattern matches it. -/
structure Evaluates (v : Validator) (c : Clause) (e : Evaluation) : Prop where
  clause_eq : e.clause = c
  unresolved : v.whole.resolve? c.text = none
  first : ∃ rule, v.partials.FirstMatch c.text e.rule rule

/-- A check gets to the modifiers of a rule: it is for no class, the rule can be read and contains
no token for a class, and its type clause is a phrase whose test the value passes, which was
supplied. -/
structure ReachesModifiers (v : Validator) (p : Param) (rule : String)
    (ofClass : Option ClassArg) (d : RuleDefinition) : Prop where
  no_class : ofClass = none
  parsed : RuleDefinition.parse rule = .ok d
  no_placeholder : d.hasPlaceholder = false
  typed : ∃ typeRule, v.whole.resolve? d.typeClause.text = some typeRule ∧
    typeRule.test p.value = true
  supplied : p.value ≠ .void

/-- Two validators have the same phrases and the same patterns in the same order; their partial
rules may test values differently. -/
structure SamePatterns (v w : Validator) : Prop where
  whole_eq : w.whole = v.whole
  patterns_eq : w.partials.rules.map (·.pattern) = v.partials.rules.map (·.pattern)

/-- The evaluation that decides a modifier, if one does. -/
def evaluation? (v : Validator) (c : Clause) : Option Evaluation :=
  (v.decider? c.text).bind (·.evaluation? c)

/-- What decides a text is the rule of a phrase or, for other texts, the first partial rule whose
pattern matches. -/
theorem decider?_eq_pattern_iff {text : String} {i : Nat} {rule : PartialRule} :
    v.decider? text = some (.pattern i rule) ↔
      v.whole.resolve? text = none ∧ v.partials.FirstMatch text i rule := by
  rw [decider?]
  cases v.whole.resolve? text with
  | some phrase => simp
  | none =>
    simp only [true_and, PartialRegistry.decider?]
    constructor
    · intro h
      obtain ⟨j, hfind, hrule⟩ := Option.bind_eq_some_iff.mp h
      obtain ⟨r, hget, hr⟩ := Option.map_eq_some_iff.mp hrule
      cases hr
      obtain ⟨hlt, hmatch, hbefore⟩ := List.findIdx?_eq_some_iff_getElem.mp hfind
      rw [List.getElem?_eq_getElem hlt] at hget
      cases hget
      refine ⟨List.getElem?_eq_getElem hlt, hmatch, fun k r hk hr => ?_⟩
      obtain ⟨-, rfl⟩ := List.getElem?_eq_some_iff.mp hr
      exact Bool.eq_false_iff.mpr (hbefore k hk)
    · rintro ⟨hget, hmatch, hbefore⟩
      obtain ⟨hlt, rfl⟩ := List.getElem?_eq_some_iff.mp hget
      have hfind : v.partials.rules.findIdx? (·.pattern.isMatch text) = some i := by
        refine List.findIdx?_eq_some_iff_getElem.mpr ⟨hlt, hmatch, fun k hk => ?_⟩
        simp [hbefore k _ hk (List.getElem?_eq_getElem (Nat.lt_trans hk hlt))]
      rw [hfind, Option.bind_some, hget]
      rfl

theorem decider?_eq_phrase_iff {text : String} {rule : WholeRule} :
    v.decider? text = some (.phrase rule) ↔ v.whole.resolve? text = some rule := by
  rw [decider?]
  cases v.whole.resolve? text with
  | some phrase => simp
  | none =>
    simp only [reduceCtorEq, iff_false]
    intro h
    obtain ⟨i, r, hd, -⟩ := PartialRegistry.of_decider?_eq_some h
    cases hd

theorem passes_iff : v.Passes value c ↔ v.Satisfies value c := by
  rw [Passes, decideModifier_eq]
  constructor
  · intro h
    obtain ⟨d, hd, hpasses⟩ := Option.map_eq_some_iff.mp h
    cases d with
    | phrase rule => exact .phrase (decider?_eq_phrase_iff.mp hd) hpasses
    | pattern i rule =>
      obtain ⟨hnone, hfirst⟩ := decider?_eq_pattern_iff.mp hd
      exact .pattern hnone hfirst hpasses
  · intro h
    cases h with
    | phrase resolves passes =>
      rw [decider?_eq_phrase_iff.mpr resolves]
      exact congrArg some passes
    | pattern unresolved first passes =>
      rw [decider?_eq_pattern_iff.mpr ⟨unresolved, first⟩]
      exact congrArg some passes

theorem evaluation?_eq_some_iff {e : Evaluation} :
    v.evaluation? c = some e ↔ v.Evaluates c e := by
  rw [evaluation?, Option.bind_eq_some_iff]
  constructor
  · rintro ⟨d, hd, he⟩
    cases d with
    | phrase rule => cases he
    | pattern i rule =>
      cases he
      obtain ⟨hnone, hfirst⟩ := decider?_eq_pattern_iff.mp hd
      exact ⟨rfl, hnone, rule, hfirst⟩
  · obtain ⟨i, clause⟩ := e
    rintro ⟨rfl, hnone, rule, hfirst⟩
    exact ⟨.pattern i rule, decider?_eq_pattern_iff.mpr ⟨hnone, hfirst⟩, rfl⟩

/-- The evaluations that modifiers take which a value passes do not depend on the value. -/
theorem evaluations_eq (v : Validator) (value : Value) (cs : List Clause) :
    v.evaluations value cs = cs.filterMap v.evaluation? := by
  induction cs with
  | nil => rfl
  | cons c cs ih =>
    rw [evaluations, List.flatMap_cons, ← evaluations, ih, decideModifier_eq, List.filterMap_cons]
    simp only [evaluation?]
    cases (v.decider? c.text).bind (·.evaluation? c) <;> rfl

/-- Modifiers that a value satisfies are all gotten to. -/
theorem ran_checkModifiers_of_forall (h : ∀ c ∈ cs, v.Passes value c) :
    (v.checkModifiers value cs).2 = cs.filterMap v.evaluation? := by
  rw [← List.append_nil cs, checkModifiers_append h, evaluations_eq, List.append_nil]
  exact List.append_nil _

/-- The first modifier that a value does not satisfy is the last one that is gotten to. -/
theorem ran_checkModifiers_of_first (hpre : ∀ c ∈ pre, v.Passes value c)
    (hc : ¬ v.Passes value c) :
    (v.checkModifiers value (pre ++ c :: post)).2 = (pre ++ [c]).filterMap v.evaluation? := by
  rw [checkModifiers_append hpre, checkModifiers_cons_of_not_passes hc, evaluations_eq,
    decideModifier_eq, List.filterMap_append]
  simp only [evaluation?, List.filterMap_cons, List.filterMap_nil]
  cases (v.decider? c.text).bind (·.evaluation? c) <;> rfl

/-- A check gets to the modifiers of a rule exactly if it is for no class, the rule is understood,
and the value was supplied and is of the type. -/
theorem reachesModifiers_iff {rule : String} {ofClass : Option ClassArg} {d : RuleDefinition} :
    v.ReachesModifiers p rule ofClass d ↔ ofClass = none ∧ p.value.isVoid = false ∧
      ∃ r, v.resolveRule rule = .ok r ∧ r.definition = d ∧ r.typeRule.test p.value = true := by
  have hvoid : p.value.isVoid = false ↔ p.value ≠ .void := by
    cases p.value <;> simp [Value.isVoid]
  rw [hvoid]
  constructor
  · rintro ⟨hclass, hparse, hplaceholder, ⟨typeRule, htype, htest⟩, hsupplied⟩
    exact ⟨hclass, hsupplied, ⟨d, typeRule⟩,
      resolveRule_eq_ok_iff.mpr ⟨hparse, hplaceholder, htype⟩, rfl, htest⟩
  · rintro ⟨hclass, hsupplied, r, hresolve, rfl, htest⟩
    obtain ⟨hparse, hplaceholder, htype⟩ := resolveRule_eq_ok_iff.mp hresolve
    exact ⟨hclass, hparse, hplaceholder, ⟨r.typeRule, htype, htest⟩, hsupplied⟩

theorem ran_check_of_reaches {rule : String} {ofClass : Option ClassArg} {d : RuleDefinition}
    (h : v.ReachesModifiers p rule ofClass d) :
    (v.check p rule ofClass).ran = (v.checkModifiers p.value d.modifiers).2 := by
  obtain ⟨rfl, hvoid, r, hresolve, rfl, htest⟩ := reachesModifiers_iff.mp h
  rw [check_eq_of_resolveRule hresolve htest hvoid]

theorem ran_check_of_not_reaches {rule : String} {ofClass : Option ClassArg}
    (h : ¬ ∃ d, v.ReachesModifiers p rule ofClass d) : (v.check p rule ofClass).ran = [] := by
  cases ofClass with
  | some c =>
    rw [check]
    split <;> rfl
  | none =>
    rw [check_eq]
    cases hresolve : v.resolveRule rule with
    | error reason => rfl
    | ok r =>
      cases htest : r.typeRule.test p.value with
      | false => exact congrArg Report.ran (checkValue_of_not_test htest)
      | true =>
        cases hvoid : p.value.isVoid with
        | true => exact congrArg Report.ran (checkValue_of_isVoid htest hvoid)
        | false =>
          have hreach : v.ReachesModifiers p rule none r.definition :=
            reachesModifiers_iff.mpr ⟨rfl, hvoid, r, hresolve, rfl, htest⟩
          exact absurd ⟨_, hreach⟩ h

section SamePatterns

variable (h : SamePatterns v w)

include h

theorem SamePatterns.findIndex?_eq (c : Clause) :
    w.partials.findIndex? c = v.partials.findIndex? c := by
  have hindex (x : Validator) : x.partials.findIndex? c =
      (x.partials.rules.map (·.pattern)).findIdx? (·.isMatch c.text) := by
    rw [List.findIdx?_map]
    rfl
  rw [hindex, hindex, h.patterns_eq]

/-- A modifier is decided alike if the rule that is evaluated on it, if one is, tests it alike. -/
theorem SamePatterns.decideModifier_eq (hagree : ∀ e, (v.decideModifier value c).2 = some e →
      ∀ r r', v.partials.rules[e.rule]? = some r → w.partials.rules[e.rule]? = some r' →
        r'.evaluate value e.clause = r.evaluate value e.clause) :
    w.decideModifier value c = v.decideModifier value c := by
  simp only [decideModifier, PartialRegistry.search?, h.whole_eq, h.findIndex?_eq] at hagree ⊢
  cases hphrase : v.whole.resolve? c.text with
  | some rule => rfl
  | none =>
    cases hfind : v.partials.findIndex? c with
    | none => rfl
    | some i =>
      have hget := congrArg (·[i]?) h.patterns_eq
      simp only [List.getElem?_map] at hget
      simp only [hphrase, hfind, Option.bind_some] at hagree ⊢
      cases hv : v.partials.rules[i]? with
      | none =>
        rw [hv, Option.map_none, Option.map_eq_none_iff] at hget
        rw [hget]
      | some r =>
        rw [hv, Option.map_some, Option.map_eq_some_iff] at hget
        obtain ⟨r', hw, -⟩ := hget
        rw [hv] at hagree
        simp only [hw, Option.map_some, hagree ⟨i, c⟩ rfl r r' hv hw]

/-- Modifiers come out alike if the rules that are evaluated on them test them alike. -/
theorem SamePatterns.checkModifiers_eq (hagree : ∀ e ∈ (v.checkModifiers value cs).2,
      ∀ r r', v.partials.rules[e.rule]? = some r → w.partials.rules[e.rule]? = some r' →
        r'.evaluate value e.clause = r.evaluate value e.clause) :
    w.checkModifiers value cs = v.checkModifiers value cs := by
  induction cs with
  | nil => rfl
  | cons c cs ih =>
    have hmem : ∀ e, (v.decideModifier value c).2 = some e →
        e ∈ (v.checkModifiers value (c :: cs)).2 := by
      intro e he
      by_cases hc : v.Passes value c
      · rw [checkModifiers_cons_of_passes hc, he]
        exact List.mem_cons_self
      · rw [checkModifiers_cons_of_not_passes hc, he]
        exact List.mem_cons_self
    have hmodifier : w.decideModifier value c = v.decideModifier value c :=
      h.decideModifier_eq fun e he => hagree e (hmem e he)
    by_cases hc : v.Passes value c
    · rw [checkModifiers_cons_of_passes hc] at hagree
      have hrest := ih fun e he => hagree e (List.mem_append_right _ he)
      simp only [checkModifiers, hmodifier, hrest]
    · have hpasses : (v.decideModifier value c).1 ≠ some true := hc
      simp only [checkModifiers, hmodifier]
      split
      · next htrue => exact absurd htrue hpasses
      · rfl
      · rfl

/-- Checks come out alike, evaluations included, if the rules that one of them evaluates test the
modifiers alike that it evaluates them on. -/
theorem SamePatterns.check_eq {rule : String} {ofClass : Option ClassArg}
    (hagree : ∀ e ∈ (v.check p rule ofClass).ran,
      ∀ r r', v.partials.rules[e.rule]? = some r → w.partials.rules[e.rule]? = some r' →
        r'.evaluate p.value e.clause = r.evaluate p.value e.clause) :
    w.check p rule ofClass = v.check p rule ofClass := by
  cases ofClass with
  | some c => simp only [check]
  | none =>
    refine check_eq_of_checkModifiers_eq h.whole_eq fun r hr htest hvoid => ?_
    refine h.checkModifiers_eq ?_
    rwa [check_eq_of_resolveRule hr htest hvoid] at hagree

end SamePatterns

/-- What a check evaluates.  A check that does not get to the modifiers evaluates nothing.  One that
does evaluates, in order, what decides each modifier up to the first one that the value does not
satisfy, or of all modifiers if it satisfies them.  A modifier is decided by the first partial rule
whose pattern matches it, unless it is a phrase.  Nothing else has a say: whatever other tests the
partial rules have, the check is the same if those that it evaluates test the same modifiers
alike. -/
theorem ran_check (v : Validator) (p : Param) (rule : String) (ofClass : Option ClassArg) :
    ((¬ ∃ d, v.ReachesModifiers p rule ofClass d) → (v.check p rule ofClass).ran = []) ∧
    (∀ d, v.ReachesModifiers p rule ofClass d →
      ((∀ c ∈ d.modifiers, v.Satisfies p.value c) →
        (v.check p rule ofClass).ran = d.modifiers.filterMap v.evaluation?) ∧
      ∀ j c, d.modifiers[j]? = some c → ¬ v.Satisfies p.value c →
        (∀ i x, i < j → d.modifiers[i]? = some x → v.Satisfies p.value x) →
        (v.check p rule ofClass).ran = (d.modifiers.take (j + 1)).filterMap v.evaluation?) ∧
    (∀ c e, v.evaluation? c = some e ↔ v.Evaluates c e) ∧
    ∀ w, SamePatterns v w →
      (∀ e ∈ (v.check p rule ofClass).ran, ∀ r r', v.partials.rules[e.rule]? = some r →
        w.partials.rules[e.rule]? = some r' →
        r'.evaluate p.value e.clause = r.evaluate p.value e.clause) →
      w.check p rule ofClass = v.check p rule ofClass := by
  refine ⟨ran_check_of_not_reaches, fun d hreach => ⟨fun hall => ?_, ?_⟩,
    fun c e => evaluation?_eq_some_iff, fun w hsame hagree => hsame.check_eq hagree⟩
  · rw [ran_check_of_reaches hreach]
    exact ran_checkModifiers_of_forall fun c hc => passes_iff.mpr (hall c hc)
  · intro j c hget hc hbefore
    obtain ⟨hj, rfl⟩ := List.getElem?_eq_some_iff.mp hget
    have hsplit : d.modifiers.take j ++ d.modifiers[j] :: d.modifiers.drop (j + 1) =
        d.modifiers := by
      rw [List.getElem_cons_drop, List.take_append_drop]
    have hpre : ∀ x ∈ d.modifiers.take j, v.Passes p.value x := by
      intro x hx
      obtain ⟨i, hi, rfl⟩ := List.mem_take_iff_getElem.mp hx
      have hlt : i < j := Nat.lt_of_lt_of_le hi (Nat.min_le_left _ _)
      exact passes_iff.mpr (hbefore i _ hlt (List.getElem?_eq_getElem _))
    calc (v.check p rule ofClass).ran = (v.checkModifiers p.value d.modifiers).2 :=
          ran_check_of_reaches hreach
      _ = (d.modifiers.take j ++ [d.modifiers[j]]).filterMap v.evaluation? := by
          rw [← ran_checkModifiers_of_first hpre (mt passes_iff.mp hc), hsplit]
      _ = (d.modifiers.take (j + 1)).filterMap v.evaluation? := by
          rw [List.take_append_getElem hj]

/-- A validator with two rules for one pattern, the first of which no value passes. -/
def shadowing (second : Bool) : Validator :=
  ofRules .sensitive [⟨"any value", fun _ => true⟩]
    [.ofPattern Grammar.lessThan fun _ _ => false, .ofPattern Grammar.lessThan fun _ _ => second]

/-- The second rule for a pattern is never evaluated, so its test makes no difference, and after the
first modifier nothing is; no rule is evaluated on a value that was not supplied. -/
theorem ran_check_shadowing :
    ((shadowing true).check ⟨"x", .null⟩ "any value, less than 5, less than 6" none).ran =
        [⟨0, ⟨"less than 5", .comparison .less "5"⟩⟩] ∧
      (shadowing false).check ⟨"x", .null⟩ "any value, less than 5, less than 6" none =
        (shadowing true).check ⟨"x", .null⟩ "any value, less than 5, less than 6" none ∧
      ((shadowing true).check ⟨"x", .void⟩ "any value, less than 5, less than 6" none).ran =
        [] := by
  have hreach : (shadowing true).ReachesModifiers ⟨"x", .null⟩
      "any value, less than 5, less than 6" none ⟨⟨"any value", .type⟩,
        [⟨"less than 5", .comparison .less "5"⟩, ⟨"less than 6", .comparison .less "6"⟩]⟩ :=
    ⟨rfl, rfl, by decide, ⟨⟨"any value", fun _ => true⟩, rfl, rfl⟩, nofun⟩
  have hfirst : ¬ (shadowing true).Satisfies .null ⟨"less than 5", .comparison .less "5"⟩ := by
    rw [← passes_iff, Passes]
    decide +kernel
  have hran : ((shadowing true).check ⟨"x", .null⟩ "any value, less than 5, less than 6" none).ran =
      [⟨0, ⟨"less than 5", .comparison .less "5"⟩⟩] :=
    (((ran_check _ _ _ _).2.1 _ hreach).2 0 _ rfl hfirst
      fun i _ hi => absurd hi (Nat.not_lt_zero i)).trans rfl
  refine ⟨hran, (ran_check _ _ _ _).2.2.2 _ ⟨rfl, rfl⟩ ?_, (ran_check _ _ _ _).1 ?_⟩
  · -- The one rule that is evaluated is the same in both.
    rw [hran]
    intro e he r r' hr hr'
    obtain rfl := List.mem_singleton.mp he
    cases hr
    cases hr'
    rfl
  · rintro ⟨d, h⟩
    exact h.supplied rfl

end Validator

end Clausal
