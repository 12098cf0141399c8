import Clausal.Proofs.Builtin.Disabling

/-!
# What a rule depends on in a configuration

Each built-in rule heeds little of a configuration: whether it is enabled and, in the case of the
rule for "up to" clauses, the bound.  Since no two built-in rules match one text, a clause is
decided by the setting of its own rule alone.  So a rule depends on the settings of those built-in
rules only that match one of its modifiers, and nothing else in a configuration matters
(`Validator.validate_eq_of_settings_eq`).

## Main definitions

- `Setting`, `Config.setting`: what a configuration sets for a built-in rule, as far as it is heeded
- `Config.onlyHeeded`: a configuration without what no built-in rule heeds
-/

namespace Clausal

/-- What can be set for a built-in rule. -/
structure Setting where
  enabled : Bool
  /-- Which way the number of an "up to" clause bounds a length; other rules have none. -/
  bound : Option String
deriving DecidableEq

/-- What is set for a built-in rule unless a configuration says otherwise. -/
def Setting.default (name : String) : Setting where
  enabled := true
  bound := if name = "length-up-to" then some "at-least" else none

/-- The settings of a rule without what no built-in rule heeds: all options but the bound of the
rule for "up to" clauses, and that as well if it is no text. -/
def RuleSettings.onlyHeeded (s : RuleSettings) (name : String) : RuleSettings where
  enabled := s.enabled
  options :=
    if name = "length-up-to" then
      match s.options.lookup "bound" with
      | some (.string text) => [("bound", .string text)]
      | _ => []
    else []

namespace Config

variable {c c' : Config} {name : String}

/-- The bound that is set for "up to" clauses, if one is set as a text. -/
def boundOption? (c : Config) : Option String :=
  match (c.rule? "length-up-to").bind (·.options.lookup "bound") with
  | some (.string text) => some text
  | _ => none

/-- What a configuration sets for the built-in rule of a name: a rule is enabled unless its settings
say that it is not, and lengths are bounded from below unless they say otherwise. -/
def setting (c : Config) (name : String) : Setting where
  enabled := ((c.rule? name).bind (·.enabled)).getD true
  bound := if name = "length-up-to" then some (c.boundOption?.getD "at-least") else none

/-- The configuration without the settings of rules that are not built in, and without options that
no built-in rule heeds. -/
def onlyHeeded (c : Config) : Config where
  phraseCase := c.phraseCase
  rules := (c.rules.filter fun (name, _) => name ∈ Builtin.names).map fun (name, settings) =>
    (name, settings.onlyHeeded name)

theorem isEnabled_eq (c : Config) (name : String) :
    c.isEnabled name = (c.setting name).enabled := by
  rw [isEnabled, setting]
  cases c.rule? name <;> rfl

theorem rule?_onlyHeeded (h : name ∈ Builtin.names) :
    c.onlyHeeded.rule? name = (c.rule? name).map (·.onlyHeeded name) := by
  obtain ⟨phraseCase, rules⟩ := c
  simp only [rule?, onlyHeeded]
  induction rules with
  | nil => rfl
  | cons entry rules ih =>
    obtain ⟨key, settings⟩ := entry
    rw [List.lookup_cons]
    cases hkey : name == key with
    | true =>
      obtain rfl := beq_iff_eq.mp hkey
      simp [h]
    | false =>
      -- Another entry does not hide the one under the name, whether it is kept or not.
      by_cases hmem : key ∈ Builtin.names <;> simp [hmem, List.lookup_cons, hkey, ih]

theorem setting_onlyHeeded (h : name ∈ Builtin.names) :
    c.onlyHeeded.setting name = c.setting name := by
  have hbound : c.onlyHeeded.boundOption? = c.boundOption? := by
    rw [boundOption?, boundOption?, rule?_onlyHeeded (by decide)]
    cases c.rule? "length-up-to" with
    | none => rfl
    | some settings =>
      simp only [Option.map_some, Option.bind_some, RuleSettings.onlyHeeded, if_true]
      cases settings.options.lookup "bound" with
      | none => rfl
      | some option => cases option <;> rfl
  rw [setting, setting, rule?_onlyHeeded h, hbound]
  cases c.rule? name <;> rfl

end Config

namespace Builtin

variable {c c' : Config} {bound bound' : UpToBound} {keep : PartialRule → Bool} {text : String}

theorem configuredBound_eq (c : Config) : configuredBound c =
    (UpToBound.ofSpelling (c.boundOption?.getD "at-least")).mapError fun e =>
      ⟨"length-up-to", "bound", e.message⟩ := by
  rw [configuredBound, Config.boundOption?]
  cases c.rule? "length-up-to" with
  | none => rfl
  | some settings =>
    simp only [Option.bind_some, RuleSettings.text]
    cases settings.options.lookup "bound" with
    | none => rfl
    | some option => cases option <;> rfl

theorem ofSpelling_eq_ok_iff : UpToBound.ofSpelling text = .ok bound ↔ text = bound.spelling := by
  rw [UpToBound.ofSpelling]
  split
  · next h => cases bound <;> simp [h, UpToBound.spelling]
  · next h =>
    split
    · next h' => cases bound <;> simp [h', UpToBound.spelling]
    · next h' => cases bound <;> simp [h, h']

theorem ofSpelling_eq_error_iff {e : UnknownBound} : UpToBound.ofSpelling text = .error e ↔
    text ≠ "at-least" ∧ text ≠ "at-most" ∧ e = ⟨text⟩ := by
  rw [UpToBound.ofSpelling]
  split
  · next h => simp [h, UpToBound.spelling]
  · next h =>
    split
    · next h' => simp [h', UpToBound.spelling]
    · next h' =>
      simp only [UpToBound.spelling] at h h'
      simp [h, h', eq_comm]

/-- A configuration is refused exactly for a bound that is set as a text which is none. -/
theorem configuredBound_eq_error_iff {e : PresetError} : configuredBound c = .error e ↔
    ∃ text, c.boundOption? = some text ∧ text ≠ "at-least" ∧ text ≠ "at-most" ∧
      e = ⟨"length-up-to", "bound", UnknownBound.message ⟨text⟩⟩ := by
  rw [configuredBound_eq]
  cases c.boundOption? with
  | none => simp [UpToBound.ofSpelling, UpToBound.spelling]
  | some text =>
    rw [Option.getD_some]
    cases hspelling : UpToBound.ofSpelling text with
    | ok bound =>
      obtain rfl := ofSpelling_eq_ok_iff.mp hspelling
      cases bound <;> simp [UpToBound.spelling]
    | error cause =>
      obtain ⟨hleast, hmost, rfl⟩ := ofSpelling_eq_error_iff.mp hspelling
      simp [hleast, hmost, eq_comm]

theorem rule_eq_of_setting_eq {s : Shape} (hbound : configuredBound c = .ok bound)
    (hbound' : configuredBound c' = .ok bound')
    (h : c.setting (s.rule .atLeast).name = c'.setting (s.rule .atLeast).name) :
    s.rule bound = s.rule bound' := by
  cases s with
  | upTo =>
    have hoption : c.boundOption?.getD "at-least" = c'.boundOption?.getD "at-least" :=
      Option.some.inj (congrArg Setting.bound h)
    rw [configuredBound_eq] at hbound hbound'
    rw [hoption, hbound'] at hbound
    cases hbound
    rfl
  | _ => rfl

/-- Of the built-in rules that are kept only the one for the shape of a text can match it. -/
theorem find?_filter_rules {s : Shape} (h : s.IsText text.toList) :
    ((rules bound).filter keep).find? (·.pattern.isMatch text) =
      if keep (s.rule bound) then some (s.rule bound) else none := by
  have hmatch : (s.rule bound).pattern.isMatch text = true := by
    rwa [Shape.pattern_rule, Shape.isMatch_pattern_iff]
  cases hfind : ((rules bound).filter keep).find? (·.pattern.isMatch text) with
  | some r =>
    obtain ⟨hmem, hkeep⟩ := List.mem_filter.mp (List.mem_of_find?_eq_some hfind)
    have hr := List.find?_some hfind
    obtain ⟨s', rfl, htext⟩ := exists_shape_of_isMatch hmem hr
    obtain rfl := Shape.eq_of_isText h htext
    exact (if_pos hkeep).symm
  | none =>
    have hkeep : ¬ keep (s.rule bound) = true := fun hkeep =>
      List.find?_eq_none.mp hfind _ (List.mem_filter.mpr ⟨mem_rules_iff.mpr ⟨s, rfl⟩, hkeep⟩) hmatch
    exact (if_neg hkeep).symm

theorem find?_filter_rules_of_not (h : ∀ s : Shape, ¬ s.IsText text.toList) :
    ((rules bound).filter keep).find? (·.pattern.isMatch text) = none := by
  rw [List.find?_eq_none]
  intro r hr hmatch
  obtain ⟨s, -, htext⟩ := exists_shape_of_isMatch (List.mem_filter.mp hr).1 hmatch
  exact h s htext

/-- Which built-in rule decides a text is up to the setting of the one that is for its shape. -/
theorem find?_enabled_congr (text : String) (hbound : configuredBound c = .ok bound)
    (hbound' : configuredBound c' = .ok bound')
    (h : ∀ s : Shape, s.IsText text.toList →
      c.setting (s.rule .atLeast).name = c'.setting (s.rule .atLeast).name) :
    ((rules bound).filter fun r => c.isEnabled r.name).find? (·.pattern.isMatch text) =
      ((rules bound').filter fun r => c'.isEnabled r.name).find? (·.pattern.isMatch text) := by
  by_cases hshape : ∃ s : Shape, s.IsText text.toList
  · obtain ⟨s, hs⟩ := hshape
    have henabled : c.isEnabled (s.rule .atLeast).name = c'.isEnabled (s.rule .atLeast).name := by
      rw [Config.isEnabled_eq, Config.isEnabled_eq, h s hs]
    rw [find?_filter_rules hs, find?_filter_rules hs, rule_eq_of_setting_eq hbound hbound' (h s hs),
      Shape.name_rule s bound' .atLeast, henabled]
  · have hnone : ∀ s : Shape, ¬ s.IsText text.toList := fun s hs => hshape ⟨s, hs⟩
    rw [find?_filter_rules_of_not hnone, find?_filter_rules_of_not hnone]

end Builtin

namespace Validator

variable {c c' : Config} {v v' : Validator} {p : Param} {rule : String}

/-- Configurations with the same choice about letter case that set the same for the built-in rules
make the same validator, or are refused for the same reason. -/
theorem ofConfig_congr (hcase : c.phraseCase = c'.phraseCase)
    (h : ∀ name ∈ Builtin.names, c.setting name = c'.setting name) : ofConfig c = ofConfig c' := by
  have hoption : c.boundOption?.getD "at-least" = c'.boundOption?.getD "at-least" :=
    Option.some.inj (congrArg Setting.bound (h "length-up-to" (by decide)))
  have hfilter (bound : UpToBound) : (Builtin.rules bound).filter (fun r => c.isEnabled r.name) =
      (Builtin.rules bound).filter (fun r => c'.isEnabled r.name) := by
    refine List.filter_congr fun r hr => ?_
    rw [Config.isEnabled_eq, Config.isEnabled_eq, h _ (Builtin.name_mem_names hr)]
  simp only [ofConfig, Builtin.configuredRules, Builtin.configuredBound_eq, hoption, hfilter, hcase]

/-- A rule comes out alike under configurations that set the same for the built-in rules that match
its modifiers. -/
theorem validate_congr_of_settings (hv : ofConfig c = .ok v) (hv' : ofConfig c' = .ok v')
    (hcase : c.phraseCase = c'.phraseCase)
    (h : ∀ d, RuleDefinition.parse rule = .ok d → ∀ r ∈ Builtin.rules .atLeast,
      (∃ m ∈ d.modifiers, r.pattern.isMatch m.text = true) →
        c.setting r.name = c'.setting r.name) : v.validate p rule = v'.validate p rule := by
  obtain ⟨bound, hbound, rfl⟩ := ofConfig_eq_ok_iff.mp hv
  obtain ⟨bound', hbound', rfl⟩ := ofConfig_eq_ok_iff.mp hv'
  rw [hcase]
  refine validate_eq_of_fst_checkModifiers_eq rfl fun d hd => ?_
  refine fst_checkModifiers_congr fun m hm => ?_
  have hfind := Builtin.find?_enabled_congr m.text hbound hbound' fun s hs =>
    h d hd.parsed (s.rule .atLeast) (Builtin.mem_rules_iff.mpr ⟨s, rfl⟩)
      ⟨m, hm, by rwa [Shape.pattern_rule, Shape.isMatch_pattern_iff]⟩
  rw [fst_decideModifier, fst_decideModifier, whole_ofRules, whole_ofRules, partials_ofRules,
    partials_ofRules, hfind]

/-- A rule depends on the settings of the built-in rules alone that match its modifiers.  Two
configurations with the same choice about letter case that set the same for these give every value
the same outcome.  Settings under other names, options that no rule heeds and bounds that are no
texts never matter.  A configuration that heeds letter case and sets what is set anyway makes the
standard validator.  A configuration is refused exactly for a bound of "up to" clauses that is a
text other than the two bounds, whether or not their rule is enabled. -/
theorem validate_eq_of_settings_eq (c c' : Config) :
    (∀ v v' p rule, ofConfig c = .ok v → ofConfig c' = .ok v' → c.phraseCase = c'.phraseCase →
      (∀ d, RuleDefinition.parse rule = .ok d → ∀ r ∈ Builtin.rules .atLeast,
        (∃ m ∈ d.modifiers, r.pattern.isMatch m.text = true) →
          c.setting r.name = c'.setting r.name) →
      v.validate p rule = v'.validate p rule) ∧
    ofConfig c.onlyHeeded = ofConfig c ∧
    (c.phraseCase = .sensitive → (∀ name ∈ Builtin.names, c.setting name = .default name) →
      ofConfig c = .ok standard) ∧
    ∀ e, ofConfig c = .error e ↔ ∃ text, c.boundOption? = some text ∧ text ≠ "at-least" ∧
      text ≠ "at-most" ∧ e = ⟨"length-up-to", "bound", UnknownBound.message ⟨text⟩⟩ := by
  refine ⟨fun v v' p rule hv hv' hcase h => validate_congr_of_settings hv hv' hcase h,
    ofConfig_congr rfl fun name hname => Config.setting_onlyHeeded hname, fun hcase h => ?_,
    fun e => ?_⟩
  · rw [← ofConfig_empty]
    exact ofConfig_congr hcase h
  · rw [← Builtin.configuredBound_eq_error_iff, ofConfig, Builtin.configuredRules]
    cases Builtin.configuredBound c <;> simp [Except.map]

/-- A configuration that bounds lengths from above, and leaves out the rule for one relation. -/
def atMostWithoutLess : Config :=
  ⟨.insensitive, [("length-up-to", ⟨none, [("bound", .string "at-most")]⟩),
    ("less-than", ⟨some false, []⟩)]⟩

/-- A configuration that bounds lengths from above with an option beside, leaves out the rule for
regular expressions, and has settings for a rule that is not built in. -/
def atMostWithoutMatches : Config :=
  ⟨.insensitive, [("matches", ⟨some false, []⟩), ("tall", ⟨some false, []⟩),
    ("length-up-to", ⟨some true, [("strict", .boolean true), ("bound", .string "at-most")]⟩)]⟩

/-- Other rules that are left out do not matter to a clause about a length. -/
theorem validate_eq_of_settings_eq_at_most : ∃ v v', ofConfig atMostWithoutLess = .ok v ∧
    ofConfig atMostWithoutMatches = .ok v' ∧
      v.validate ⟨"x", .string "abcd"⟩ "A string, With up to 3 characters" =
        v'.validate ⟨"x", .string "abcd"⟩ "A string, With up to 3 characters" := by
  obtain ⟨v, hv⟩ : ∃ v, ofConfig atMostWithoutLess = .ok v := ⟨_, rfl⟩
  obtain ⟨v', hv'⟩ : ∃ v', ofConfig atMostWithoutMatches = .ok v' := ⟨_, rfl⟩
  refine ⟨v, v', hv, hv', (validate_eq_of_settings_eq atMostWithoutLess atMostWithoutMatches).1 v v'
    _ _ hv hv' rfl ?_⟩
  intro d hd r hr ⟨m, hm, hmatch⟩
  have hparse : RuleDefinition.parse "A string, With up to 3 characters" =
      .ok ⟨⟨"A string", .type⟩, [⟨"With up to 3 characters", .bound none (some 3)⟩]⟩ := rfl
  cases hparse.symm.trans hd
  obtain rfl := List.mem_singleton.mp hm
  -- The only rule that matches the modifier is the one for its shape.
  obtain ⟨s, rfl, htext⟩ := Builtin.exists_shape_of_isMatch hr hmatch
  have hupTo : Shape.upTo.IsText "With up to 3 characters".toList :=
    Shape.isMatch_pattern_iff.mp (by decide +kernel)
  obtain rfl := Shape.eq_of_isText htext hupTo
  decide

end Validator

end Clausal
