import Clausal.Proofs.Builtin.Agreement
import Clausal.Proofs.Builtin.Phrases
import Clausal.Proofs.Clause.Reading
import Clausal.Proofs.Setup
import Clausal.Proofs.Validator.Restriction

/-!
# Built-in rules that a configuration leaves out

A configuration can leave built-in rules out.  A clause of such a rule has no meaning any more: no
other built-in rule matches it, since a text has at most one shape, and it is no phrase for a type.
All other clauses are decided as before.  The main statement, `Validator.validate_withoutFlags`,
compares the validators that a configuration makes with and without its flags for the built-in
rules.

## Main definitions

- `Builtin.names`: the names of the built-in rules
- `Config.withoutFlags`: a configuration without its flags for the built-in rules
- `Config.LeavesOut`: a text is a clause of a built-in rule that a configuration leaves out
-/

namespace Clausal

/-- The names of the built-in rules. -/
def Builtin.names : List String :=
  (rules .atLeast).map (·.name)

namespace Config

variable {c : Config} {name : String}

/-- A configuration without its flags for the built-in rules.  Their options and the settings for
other names stay. -/
def withoutFlags (c : Config) : Config :=
  { c with rules := c.rules.map fun (name, settings) =>
      if name ∈ Builtin.names then (name, { settings with enabled := none }) else (name, settings) }

/-- A text is a clause of a built-in rule that a configuration leaves out. -/
def LeavesOut (c : Config) (text : String) : Prop :=
  ∃ bound, ∃ rule ∈ Builtin.rules bound,
    c.isEnabled rule.name = false ∧ rule.pattern.isMatch text = true

theorem rule?_withoutFlags (c : Config) (name : String) :
    c.withoutFlags.rule? name = (c.rule? name).map fun settings =>
      if name ∈ Builtin.names then { settings with enabled := none } else settings := by
  obtain ⟨phraseCase, rules⟩ := c
  simp only [rule?, withoutFlags]
  induction rules with
  | nil => rfl
  | cons entry rules ih =>
    obtain ⟨key, settings⟩ := entry
    -- The keys stay, so the entry under the name is the same one.
    have hentry : (if key ∈ Builtin.names then (key, { settings with enabled := none })
        else (key, settings)) =
          (key, if key ∈ Builtin.names then { settings with enabled := none } else settings) := by
      split <;> rfl
    rw [List.map_cons, hentry, List.lookup_cons, List.lookup_cons]
    cases hkey : name == key with
    | true =>
      obtain rfl := beq_iff_eq.mp hkey
      rfl
    | false => exact ih

theorem isEnabled_withoutFlags (h : name ∈ Builtin.names) :
    c.withoutFlags.isEnabled name = true := by
  rw [isEnabled, rule?_withoutFlags]
  cases c.rule? name with
  | none => rfl
  | some settings => simp only [Option.map_some, if_pos h, Option.getD_none]

end Config

namespace Builtin

theorem name_mem_names {bound : UpToBound} {rule : PartialRule} (h : rule ∈ rules bound) :
    rule.name ∈ names := by
  rw [rules_eq] at h
  obtain ⟨s, hs, rfl⟩ := List.mem_map.mp h
  rw [Shape.name_rule s bound .atLeast, names, rules_eq, List.map_map]
  exact List.mem_map_of_mem hs

/-- Flags have no say in the bound of "up to" clauses. -/
theorem configuredBound_withoutFlags (c : Config) :
    configuredBound c.withoutFlags = configuredBound c := by
  rw [configuredBound, configuredBound, Config.rule?_withoutFlags]
  cases c.rule? "length-up-to" with
  | none => rfl
  | some settings =>
    simp only [Option.map_some]
    split <;> rfl

end Builtin

theorem RuleDefinition.exists_parse_eq_error {rule m : String} {e : ClauseError}
    (hm : m ∈ (parts rule).2) (he : Clause.parse m = .error e) : ∃ e', parse rule = .error e' := by
  cases hparse : parse rule with
  | error e' => exact ⟨e', rfl⟩
  | ok d =>
    obtain ⟨hall, -⟩ := modifiers_of_parse hparse
    cases he.symm.trans (hall m hm)

namespace Validator

variable {c : Config} {v w : Validator} {p : Param} {rule text : String}

/-- Without flags a configuration is accepted if it is with them, and its validator has all built-in
rules. -/
theorem exists_ofConfig_withoutFlags (h : ofConfig c = .ok v) : ∃ w bound,
    ofConfig c.withoutFlags = .ok w ∧ w.partials.rules = Builtin.rules bound ∧
      Restricts (fun r => c.isEnabled r.name) w v := by
  obtain ⟨bound, hbound, rfl⟩ := ofConfig_eq_ok_iff.mp h
  have hall : (Builtin.rules bound).filter (fun r => c.withoutFlags.isEnabled r.name) =
      Builtin.rules bound :=
    List.filter_eq_self.mpr fun r hr => Config.isEnabled_withoutFlags (Builtin.name_mem_names hr)
  refine ⟨ofRules c.phraseCase Builtin.phrases (Builtin.rules bound), bound,
    ofConfig_eq_ok_iff.mpr ⟨bound, ?_, ?_⟩, rfl, rfl, rfl⟩
  · rw [Builtin.configuredBound_withoutFlags, hbound]
  · rw [hall]
    rfl

/-- The texts that a configuration leaves out are those that the rules match which it drops. -/
theorem leavesOut_iff_drops {bound : UpToBound} (hw : w.partials.rules = Builtin.rules bound) :
    c.LeavesOut text ↔ Drops (fun r => c.isEnabled r.name) w text := by
  constructor
  · rintro ⟨bound', r, hr, hdisabled, hmatch⟩
    obtain ⟨s, rfl, htext⟩ := Builtin.exists_shape_of_isMatch hr hmatch
    refine ⟨s.rule bound, ?_, ?_, ?_⟩
    · rw [hw, Builtin.rules_eq]
      exact List.mem_map_of_mem (Shape.mem_all s)
    · rwa [← Shape.name_rule s bound bound'] at hdisabled
    · rwa [Shape.pattern_rule, Shape.isMatch_pattern_iff]
  · rintro ⟨r, hr, hdisabled, hmatch⟩
    exact ⟨bound, r, hw ▸ hr, hdisabled, hmatch⟩

/-- A text that a configuration leaves out is no phrase, and no rule of its validator matches
it. -/
theorem resolve?_of_leavesOut (h : ofConfig c = .ok v) (htext : c.LeavesOut text) :
    v.whole.resolve? text = none ∧ ∀ r ∈ v.partials.rules, r.pattern.isMatch text = false := by
  obtain ⟨bound, -, rfl⟩ := ofConfig_eq_ok_iff.mp h
  obtain ⟨bound', r, hr, hdisabled, hmatch⟩ := htext
  obtain ⟨s, rfl, htext⟩ := Builtin.exists_shape_of_isMatch hr hmatch
  rw [whole_ofRules, partials_ofRules]
  refine ⟨Builtin.resolve?_phrases_of_isText htext, fun r' hr' => ?_⟩
  obtain ⟨hmem, henabled⟩ := List.mem_filter.mp hr'
  rw [Bool.eq_false_iff]
  intro hmatch'
  -- A rule that matches as well is for the same shape, so it has the same name.
  obtain ⟨s', rfl, htext'⟩ := Builtin.exists_shape_of_isMatch hmem hmatch'
  obtain rfl := Shape.eq_of_isText htext htext'
  rw [Shape.name_rule s bound bound', hdisabled] at henabled
  cases henabled

theorem decider?_of_leavesOut (h : ofConfig c = .ok v) (htext : c.LeavesOut text) :
    v.decider? text = none := by
  obtain ⟨hresolve, hmatch⟩ := resolve?_of_leavesOut h htext
  rw [← Option.not_isSome_iff_eq_none, isSome_decider?_iff, hresolve]
  rintro (hsome | ⟨r, hr, hr'⟩)
  · cases hsome
  · rw [hmatch r hr] at hr'
    cases hr'

/-- Leaving built-in rules out makes their clauses unknown and changes nothing else.  A
configuration that is accepted is also accepted without its flags for the built-in rules.  Under the
two validators a rule comes out alike, or with the flags the check gets to a first modifier that is
left out, after modifiers that the value satisfies, and reports it as unknown.  The first holds of
every rule without such modifiers, and the second whenever the check gets to one.  A text that is
left out is no phrase, and none of the remaining rules matches it; a modifier that is not left out
is satisfied by the same values.  A regular expression that cannot be read is an error in either
case. -/
theorem validate_withoutFlags (c : Config) (v : Validator) (h : ofConfig c = .ok v) :
    ∃ w, ofConfig c.withoutFlags = .ok w ∧
      (∀ p rule, v.validate p rule = w.validate p rule ∨
        ∃ d m, v.ReachesFirst c.LeavesOut p rule d m ∧
          v.validate p rule = .error (.format p.name (.unknownModifier m.text))) ∧
      (∀ p rule, (∀ d, RuleDefinition.parse rule = .ok d →
          ∀ x ∈ d.modifiers, ¬ c.LeavesOut x.text) →
        v.validate p rule = w.validate p rule) ∧
      (∀ p rule d m, v.ReachesFirst c.LeavesOut p rule d m →
        v.validate p rule = .error (.format p.name (.unknownModifier m.text))) ∧
      (∀ text, c.LeavesOut text →
        v.whole.resolve? text = none ∧ ∀ r ∈ v.partials.rules, r.pattern.isMatch text = false) ∧
      (∀ value x, ¬ c.LeavesOut x.text → (v.Satisfies value x ↔ w.Satisfies value x)) ∧
      ∀ p rule m source letter cause, m ∈ (RuleDefinition.parts rule).2 →
        Grammar.InlineText (trim m).toList source letter →
        Pattern.compile (String.ofList source) (Grammar.ignoresCase letter) = .error cause →
        ∃ e, RuleDefinition.parse rule = .error e ∧
          v.validate p rule =
            .error (.format p.name (.invalidPattern e.clause e.cause.message)) ∧
          w.validate p rule =
            .error (.format p.name (.invalidPattern e.clause e.cause.message)) := by
  obtain ⟨w, bound, hw, hrules, hrestricts⟩ := exists_ofConfig_withoutFlags h
  have hleavesOut : c.LeavesOut = Drops (fun r => c.isEnabled r.name) w :=
    funext fun text => propext (leavesOut_iff_drops hrules)
  have hunknown (p : Param) (rule : String) (d : RuleDefinition) (m : Clause)
      (hm : v.ReachesFirst c.LeavesOut p rule d m) :
      v.validate p rule = .error (.format p.name (.unknownModifier m.text)) :=
    hm.validate_eq (decider?_of_leavesOut h hm.holds)
  refine ⟨w, hw, fun p rule => ?_, fun p rule hnone => ?_, hunknown,
    fun text htext => resolve?_of_leavesOut h htext, fun value x hx => ?_,
    fun p rule m source letter cause hm htext hcause => ?_⟩
  · rcases hrestricts.validate_eq_or_reachesFirst p rule with heq | ⟨d, m, hm⟩
    · exact .inl heq
    · rw [← hleavesOut] at hm
      exact .inr ⟨d, m, hm, hunknown p rule d m hm⟩
  · rw [hleavesOut] at hnone
    exact hrestricts.validate_eq_of_forall hnone
  · rw [hleavesOut] at hx
    rw [← passes_iff, ← passes_iff, hrestricts.passes_iff_of_not_drops hx]
  · have hread : Clause.parse m = .error ⟨trim m, cause⟩ := by
      rw [Clause.parse_eq_error_iff, Clause.classify_eq_error_iff]
      exact ⟨rfl, source, letter, htext, htext.flag_eq.2 ▸ hcause⟩
    obtain ⟨e, he⟩ := RuleDefinition.exists_parse_eq_error hm hread
    exact ⟨e, he, validate_of_parse_error he, validate_of_parse_error he⟩

/-- A configuration that leaves out the rule for one relation. -/
def withoutLess : Config := ⟨.insensitive, [("less-than", ⟨some false, []⟩)]⟩

/-- A relation is unknown without its rule. -/
theorem validate_withoutFlags_less : ∃ v w, ofConfig withoutLess = .ok v ∧
    ofConfig withoutLess.withoutFlags = .ok w ∧
      v.validate ⟨"x", .string "b"⟩ "A string, Less than 1" =
        .error (.format "x" (.unknownModifier "Less than 1")) := by
  obtain ⟨v, hv⟩ : ∃ v, ofConfig withoutLess = .ok v := ⟨_, rfl⟩
  obtain ⟨w, hw, -, -, hunknown, -⟩ := validate_withoutFlags withoutLess v hv
  refine ⟨v, w, hv, hw, hunknown _ _
    ⟨⟨"A string", .type⟩, [⟨"Less than 1", .comparison .less "1"⟩]⟩
    ⟨"Less than 1", .comparison .less "1"⟩ ?_⟩
  obtain ⟨bound, -, rfl⟩ := ofConfig_eq_ok_iff.mp hv
  have htype : ((WholeRegistry.empty .insensitive).insertAll Builtin.phrases).resolve? "A string" =
      some (Builtin.requiredPhrase "a" .string) := rfl
  have hleft : withoutLess.LeavesOut "Less than 1" :=
    ⟨.atLeast, Builtin.comparison .less, by simp [Builtin.rules, ComparisonOp.all], rfl,
      by decide +kernel⟩
  exact ⟨⟨rfl, rfl, by decide, ⟨_, htype, rfl⟩, nofun⟩, ⟨[], [], rfl, nofun⟩, hleft⟩

end Validator

end Clausal
