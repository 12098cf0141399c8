import Clausal.Proofs.Validator.Evaluations

/-!
# Validators with fewer partial rules

A validator may have only some of the partial rules of another one, in the same order.  A text that
no dropped rule matches is decided as before, so a check comes out as before unless it gets to a
modifier that a dropped rule matches (`Validator.Restricts.validate_eq_or_reachesFirst`).

## Main definitions

- `Validator.Restricts`: a validator has the partial rules of another one that a test keeps
- `Validator.Drops`: a rule that a test does not keep matches a text
- `Validator.ReachesFirst`: a check gets to the first modifier whose text has a property
-/

namespace Clausal

namespace Validator

variable {v w : Validator} {p : Param} {value : Value} {c m : Clause} {cs pre post : List Clause}
  {rule : String} {d : RuleDefinition} {keep : PartialRule → Bool}

/-- A validator has the phrases of another one and, in order, those of its partial rules that a test
keeps. -/
structure Restricts (keep : PartialRule → Bool) (v w : Validator) : Prop where
  whole_eq : w.whole = v.whole
  rules_eq : w.partials.rules = v.partials.rules.filter keep

/-- A rule that a test does not keep matches a text. -/
def Drops (keep : PartialRule → Bool) (v : Validator) (text : String) : Prop :=
  ∃ rule ∈ v.partials.rules, keep rule = false ∧ rule.pattern.isMatch text = true

/-- A check gets to the first modifier whose text has a property: it gets to the modifiers, and the
value satisfies those before, whose texts do not have the property. -/
structure ReachesFirst (v : Validator) (P : String → Prop) (p : Param) (rule : String)
    (d : RuleDefinition) (m : Clause) : Prop where
  reaches : v.ReachesModifiers p rule none d
  first : ∃ pre post, d.modifiers = pre ++ m :: post ∧
    ∀ x ∈ pre, ¬ P x.text ∧ v.Satisfies p.value x
  holds : P m.text

/-- Whether a modifier passes is up to the phrase that it is or, if it is none, to the first partial
rule whose pattern matches. -/
theorem fst_decideModifier (v : Validator) (value : Value) (c : Clause) :
    (v.decideModifier value c).1 = match v.whole.resolve? c.text with
      | some rule => some (rule.test value)
      | none => (v.partials.rules.find? (·.pattern.isMatch c.text)).map (·.evaluate value c) := by
  rw [decideModifier]
  cases v.whole.resolve? c.text with
  | some rule => rfl
  | none =>
    simp only [PartialRegistry.search?, PartialRegistry.findIndex?, PartialRule.appliesTo,
      List.find?_eq_bind_findIdx?_getElem?]
    cases v.partials.rules.findIdx? (·.pattern.isMatch c.text) with
    | none => rfl
    | some i =>
      simp only [Option.bind_some]
      cases v.partials.rules[i]? <;> rfl

theorem fst_checkModifiers_congr
    (h : ∀ c ∈ cs, (w.decideModifier value c).1 = (v.decideModifier value c).1) :
    (w.checkModifiers value cs).1 = (v.checkModifiers value cs).1 := by
  induction cs with
  | nil => rfl
  | cons c cs ih =>
    obtain ⟨hc, hrest⟩ := List.forall_mem_cons.mp h
    simp only [checkModifiers, hc]
    split
    · exact ih hrest
    · rfl
    · rfl

/-- Modifiers that come after one that the value does not pass have no say. -/
theorem fst_checkModifiers_append_of_not_forall (h : ¬ ∀ c ∈ pre, v.Passes value c) :
    (v.checkModifiers value (pre ++ post)).1 = (v.checkModifiers value pre).1 := by
  rcases forall_or_exists_first (v.Passes value) pre with
    hall | ⟨before, c, after, rfl, hbefore, hc⟩
  · exact absurd hall h
  · rw [List.append_assoc, List.cons_append, checkModifiers_append hbefore,
      checkModifiers_append hbefore, checkModifiers_cons_of_not_passes hc,
      checkModifiers_cons_of_not_passes hc]

/-- A check that gets to the modifiers has the outcome that they make. -/
theorem validate_of_reaches (h : v.ReachesModifiers p rule none d) :
    v.validate p rule = (v.checkModifiers p.value d.modifiers).1.outcome p.name d.declared := by
  obtain ⟨-, hvoid, r, hresolve, rfl, htest⟩ := reachesModifiers_iff.mp h
  rw [validate, check_eq_of_resolveRule hresolve htest hvoid]

theorem ReachesModifiers.of_whole_eq (h : v.ReachesModifiers p rule none d)
    (hwhole : w.whole = v.whole) : w.ReachesModifiers p rule none d := by
  obtain ⟨hclass, hparse, hplaceholder, htyped, hsupplied⟩ := h
  exact ⟨hclass, hparse, hplaceholder, hwhole ▸ htyped, hsupplied⟩

/-- Two validators with the same phrases give a parameter the same outcome if the modifiers of the
rule come out alike whenever a check gets to them. -/
theorem validate_eq_of_fst_checkModifiers_eq (hwhole : w.whole = v.whole)
    (h : ∀ d, v.ReachesModifiers p rule none d →
      (w.checkModifiers p.value d.modifiers).1 = (v.checkModifiers p.value d.modifiers).1) :
    w.validate p rule = v.validate p rule := by
  by_cases hreach : ∃ d, v.ReachesModifiers p rule none d
  · obtain ⟨d, hd⟩ := hreach
    rw [validate_of_reaches hd, validate_of_reaches (hd.of_whole_eq hwhole), h d hd]
  · have hcheck : w.check p rule none = v.check p rule none :=
      check_eq_of_checkModifiers_eq hwhole fun r hr htest hvoid =>
        absurd ⟨_, reachesModifiers_iff.mpr ⟨rfl, hvoid, r, hr, rfl, htest⟩⟩ hreach
    rw [validate, validate, hcheck]

/-- A modifier without a meaning is reported if a check gets to it. -/
theorem ReachesFirst.validate_eq {P : String → Prop} (h : v.ReachesFirst P p rule d m)
    (hunknown : v.decider? m.text = none) :
    v.validate p rule = .error (.format p.name (.unknownModifier m.text)) := by
  obtain ⟨hreaches, ⟨pre, post, hsplit, hpre⟩, -⟩ := h
  have hresult : (v.checkModifiers p.value d.modifiers).1 = .unknown m.text :=
    checkModifiers_eq_unknown_iff.mpr
      ⟨pre, m, post, hsplit, fun x hx => passes_iff.mpr (hpre x hx).2, hunknown, rfl⟩
  rw [validate_of_reaches hreaches, hresult]
  rfl

namespace Restricts

variable (h : Restricts keep v w)

include h

/-- A modifier that no dropped rule matches is decided as before. -/
theorem fst_decideModifier_eq (hc : ¬ Drops keep v c.text) :
    (w.decideModifier value c).1 = (v.decideModifier value c).1 := by
  have hmatch : ∀ rule ∈ v.partials.rules,
      decide (keep rule = true ∧ rule.pattern.isMatch c.text = true) =
        rule.pattern.isMatch c.text := by
    intro rule hrule
    cases hkeep : keep rule with
    | true => simp
    | false =>
      have hno : ¬ rule.pattern.isMatch c.text = true := fun hm => hc ⟨rule, hrule, hkeep, hm⟩
      simp [hno]
  have hfind : w.partials.rules.find? (·.pattern.isMatch c.text) =
      v.partials.rules.find? (·.pattern.isMatch c.text) := by
    rw [h.rules_eq, List.find?_filter, ← List.head?_filter, ← List.head?_filter,
      List.filter_congr hmatch]
  rw [fst_decideModifier, fst_decideModifier, h.whole_eq, hfind]

theorem passes_iff_of_not_drops (hc : ¬ Drops keep v c.text) :
    w.Passes value c ↔ v.Passes value c := by
  rw [Passes, Passes, h.fst_decideModifier_eq hc]

/-- A rule without modifiers that dropped rules match comes out as before. -/
theorem validate_eq_of_forall (hnone : ∀ d, RuleDefinition.parse rule = .ok d →
      ∀ x ∈ d.modifiers, ¬ Drops keep v x.text) : w.validate p rule = v.validate p rule := by
  refine validate_eq_of_fst_checkModifiers_eq h.whole_eq fun d hd => ?_
  exact fst_checkModifiers_congr fun c hc => h.fst_decideModifier_eq (hnone d hd.parsed c hc)

/-- A rule comes out as before, or the check gets to a modifier that a dropped rule matches. -/
theorem validate_eq_or_reachesFirst (p : Param) (rule : String) :
    w.validate p rule = v.validate p rule ∨ ∃ d m, w.ReachesFirst (Drops keep v) p rule d m := by
  cases hparse : RuleDefinition.parse rule with
  | error e =>
    refine .inl (h.validate_eq_of_forall fun d hd => ?_)
    cases hparse.symm.trans hd
  | ok d =>
    rcases forall_or_exists_first (fun x : Clause => ¬ Drops keep v x.text) d.modifiers with
      hall | ⟨pre, m, post, hsplit, hpre, hm⟩
    · refine .inl (h.validate_eq_of_forall fun d' hd' => ?_)
      cases hparse.symm.trans hd'
      exact hall
    -- The modifiers before `m` decide alike; `m` matters only if the value passes them.
    · by_cases hreach : w.ReachesModifiers p rule none d ∧ ∀ x ∈ pre, w.Passes p.value x
      · obtain ⟨hreaches, hpass⟩ := hreach
        exact .inr ⟨d, m, hreaches,
          ⟨pre, post, hsplit, fun x hx => ⟨hpre x hx, passes_iff.mp (hpass x hx)⟩⟩,
          Classical.not_not.mp hm⟩
      · refine .inl (validate_eq_of_fst_checkModifiers_eq h.whole_eq fun d' hd' => ?_)
        cases hparse.symm.trans hd'.parsed
        have hw : ¬ ∀ x ∈ pre, w.Passes p.value x := fun hpass =>
          hreach ⟨hd'.of_whole_eq h.whole_eq, hpass⟩
        have hv : ¬ ∀ x ∈ pre, v.Passes p.value x := fun hpass =>
          hw fun x hx => (h.passes_iff_of_not_drops (hpre x hx)).mpr (hpass x hx)
        rw [hsplit, fst_checkModifiers_append_of_not_forall hw,
          fst_checkModifiers_append_of_not_forall hv]
        exact fst_checkModifiers_congr fun c hc => h.fst_decideModifier_eq (hpre c hc)

end Restricts

end Validator

end Clausal
