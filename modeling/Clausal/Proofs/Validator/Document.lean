import Clausal.Proofs.Builtin.Settings
import Clausal.Proofs.PatternRule.Meaning
import Clausal.Proofs.Validator.AnyValue

/-!
# Validators that documents describe

Reading a validator fails if the configuration cannot be read, or else if it misspells the bound of
"up to" clauses, or else if the entries make no rules (`Validator.ofToml_outcome`).  Otherwise the
entries decide, in the order of the document, the clauses that neither a phrase nor an enabled
built-in rule decides, and change nothing about the others (`Validator.ExtendsBy`).

## Main definitions

- `Config.Resolves`: a phrase or an enabled built-in rule decides a text
- `Validator.ReachesModifier`: a check gets to a modifier
- `Validator.ExtendsBy`: what the entries of a document add to a validator
-/

namespace Clausal

namespace Config

/-- A configuration sets the bound of "up to" clauses to a text that is no bound. -/
def MisspellsBound (c : Config) (text : String) : Prop :=
  c.boundOption? = some text ∧ text ≠ "at-least" ∧ text ≠ "at-most"

/-- A text is a phrase, or an enabled built-in rule matches it. -/
def Resolves (c : Config) (text : String) : Prop :=
  (∃ r ∈ Builtin.phrases, c.phraseCase.key r.phrase = c.phraseCase.key text) ∨
    ∃ bound, ∃ r ∈ Builtin.rules bound,
      c.isEnabled r.name = true ∧ r.pattern.isMatch text = true

end Config

namespace Validator

variable {c : Config} {v w : Validator} {text : String} {m : Clause} {value : Value}

/-- The bound does not matter for which texts the built-in rules match. -/
theorem isSome_decider?_iff_resolves (h : ofConfig c = .ok w) :
    (w.decider? text).isSome = true ↔ c.Resolves text := by
  obtain ⟨bound, -, rfl⟩ := ofConfig_eq_ok_iff.mp h
  rw [isSome_decider?_iff, whole_ofRules, WholeRegistry.isSome_resolve?_insertAll_empty,
    partials_ofRules]
  refine or_congr_right ⟨?_, ?_⟩
  · rintro ⟨r, hr, hmatch⟩
    obtain ⟨hmem, henabled⟩ := List.mem_filter.mp hr
    exact ⟨bound, r, hmem, henabled, hmatch⟩
  · rintro ⟨bound', r, hmem, henabled, hmatch⟩
    obtain ⟨s, rfl⟩ := Builtin.mem_rules_iff.mp hmem
    refine ⟨s.rule bound, List.mem_filter.mpr ⟨Builtin.mem_rules_iff.mpr ⟨s, rfl⟩, ?_⟩, ?_⟩
    · rwa [Shape.name_rule s bound bound']
    · rwa [Shape.pattern_rule] at hmatch ⊢

/-- A check gets to a modifier: it gets to the modifiers of its rule, and the value satisfies those
before this one.  The modifiers `post` come after it. -/
structure ReachesModifier (v : Validator) (p : Param) (rule : String) (d : RuleDefinition)
    (m : Clause) (post : List Clause) : Prop where
  reaches : v.ReachesModifiers p rule none d
  before : ∃ pre, d.modifiers = pre ++ m :: post ∧ ∀ x ∈ pre, v.Satisfies p.value x

namespace ReachesModifier

variable {p : Param} {rule : String} {d : RuleDefinition} {post : List Clause}
  (h : v.ReachesModifier p rule d m post)

include h

/-- The modifiers before do not matter any more. -/
theorem validate_eq : v.validate p rule =
    (v.checkModifiers p.value (m :: post)).1.outcome p.name d.declared := by
  obtain ⟨hreaches, pre, hsplit, hpre⟩ := h
  have hpasses : ∀ x ∈ pre, v.Passes p.value x := fun x hx => passes_iff.mpr (hpre x hx)
  rw [validate_of_reaches hreaches, hsplit, checkModifiers_append hpasses]

theorem validate_of_passes (hm : (v.decideModifier p.value m).1 = some true) :
    v.validate p rule = (v.checkModifiers p.value post).1.outcome p.name d.declared := by
  rw [h.validate_eq, checkModifiers_cons_of_passes hm]

theorem validate_of_breaks (hm : (v.decideModifier p.value m).1 = some false) :
    v.validate p rule = .error (.validation p.name d.declared) := by
  rw [h.validate_eq]
  simp only [checkModifiers, hm]
  rfl

theorem validate_eq_unknown_iff :
    v.validate p rule = .error (.format p.name (.unknownModifier m.text)) ↔
      v.decider? m.text = none := by
  rw [h.validate_eq]
  constructor
  · intro heq
    have hunknown : (v.checkModifiers p.value (m :: post)).1 = .unknown m.text := by
      cases hresult : (v.checkModifiers p.value (m :: post)).1 with
      | unknown text =>
        rw [hresult] at heq
        cases heq
        rfl
      | _ =>
        rw [hresult] at heq
        cases heq
    obtain ⟨_, x, _, -, -, hnone, htext⟩ := checkModifiers_eq_unknown_iff.mp hunknown
    rwa [← htext]
  · intro hnone
    have hunknown : (v.checkModifiers p.value (m :: post)).1 = .unknown m.text :=
      checkModifiers_eq_unknown_iff.mpr ⟨[], m, post, rfl, nofun, hnone, rfl⟩
    rw [hunknown]
    rfl

end ReachesModifier

/-- What the entries of a document add to a validator `w` that a configuration makes.  They do not
touch the clauses that a phrase or an enabled built-in rule resolves.  The first one that matches
another clause decides it, and if none does the clause is unknown. -/
structure ExtendsBy (c : Config) (w v : Validator) (entries : List PatternEntry) : Prop where
  whole_eq : v.whole = w.whole
  of_resolves : ∀ m value, c.Resolves m.text → v.decideModifier value m = w.decideModifier value m
  of_first : ∀ m i e, ¬ c.Resolves m.text → PatternEntry.FirstEntry entries m.text i e →
    ∀ value, ∃ passes,
      v.decideModifier value m = (some passes, some ⟨w.partials.size + i, m⟩) ∧
      (passes = true ↔ e.Accepts value)
  accepted : ∀ p rule d m post i e, v.ReachesModifier p rule d m post → ¬ c.Resolves m.text →
    PatternEntry.FirstEntry entries m.text i e → e.Accepts p.value →
    v.validate p rule = (v.checkModifiers p.value post).1.outcome p.name d.declared
  refused : ∀ p rule d m post i e, v.ReachesModifier p rule d m post → ¬ c.Resolves m.text →
    PatternEntry.FirstEntry entries m.text i e → ¬ e.Accepts p.value →
    v.validate p rule = .error (.validation p.name d.declared)
  unknown_iff : ∀ p rule d m post, v.ReachesModifier p rule d m post → ¬ c.Resolves m.text →
    (v.validate p rule = .error (.format p.name (.unknownModifier m.text)) ↔
      ∀ e ∈ entries, ¬ e.Matches m.text)

/-- Rules are added as in a session that only registers them. -/
theorem registerAll_eq_afterSteps (v : Validator) (rules : List PartialRule) :
    v.registerAll rules = v.afterSteps (rules.map .register) ∧
      registered (rules.map .register) = rules := by
  have hregistered : registered (rules.map .register) = rules := by
    induction rules with
    | nil => rfl
    | cons r rules ih => rw [List.map_cons, registered, ih]
  refine ⟨?_, hregistered⟩
  rw [registerAll_eq, afterSteps_eq, hregistered]

section Entries

variable {entries : List PatternEntry} {rules : List PatternRule}

variable (hw : ofConfig c = .ok w)

include hw

theorem decider?_registerAll_of_resolves (h : c.Resolves text) (added : List PartialRule) :
    (w.registerAll added).decider? text = w.decider? text := by
  obtain ⟨d, hd⟩ := Option.isSome_iff_exists.mp ((isSome_decider?_iff_resolves hw).mpr h)
  rw [(registerAll_eq_afterSteps w added).1, hd, decider?_afterSteps_of_some hd]

variable (hrules : List.Forall₂ PatternEntry.Describes entries rules) (h : ¬ c.Resolves text)

include hrules h

theorem decider?_registerAll_of_firstEntry {i : Nat} {e : PatternEntry}
    (he : PatternEntry.FirstEntry entries text i e) :
    ∃ r, e.Describes r ∧ (w.registerAll (rules.map (·.toPartialRule))).decider? text =
      some (.pattern (w.partials.size + i) r.toPartialRule) := by
  obtain ⟨hsession, hregistered⟩ := registerAll_eq_afterSteps w (rules.map (·.toPartialRule))
  obtain ⟨r, hdescribes, hget, hmatch, hfirst⟩ := PatternEntry.exists_first_rule hrules he
  have hnone : w.decider? text = none :=
    Option.not_isSome_iff_eq_none.mp (mt (isSome_decider?_iff_resolves hw).mp h)
  rw [← hregistered] at hget hfirst
  refine ⟨r, hdescribes, ?_⟩
  rw [hsession, decider?_afterSteps_of_isMatch hnone hget hmatch hfirst]

theorem decider?_registerAll_eq_none_iff :
    (w.registerAll (rules.map (·.toPartialRule))).decider? text = none ↔
      ∀ e ∈ entries, ¬ e.Matches text := by
  have hold : ¬ ((w.whole.resolve? text).isSome = true ∨
      ∃ x ∈ w.partials.rules, x.pattern.isMatch text = true) := by
    rwa [← isSome_decider?_iff, isSome_decider?_iff_resolves hw]
  rw [not_or] at hold
  rw [← Option.not_isSome_iff_eq_none, isSome_decider?_iff, registerAll_eq]
  simp only [List.mem_append, or_and_right, exists_or, hold, PatternEntry.exists_isMatch_iff hrules,
    Bool.false_eq_true, false_or, not_exists, not_and]

end Entries

/-- The rules that entries describe, after those of a configuration, do what the entries say. -/
theorem extendsBy_registerAll (hw : ofConfig c = .ok w) {entries : List PatternEntry}
    {patterns : PatternRules} (hpatterns : PatternRules.ofEntries entries = .ok patterns) :
    ExtendsBy c w (w.registerAll patterns.toPartialRules) entries := by
  have hrules := PatternRules.describes_of_ofEntries hpatterns
  have hvalid := PatternRules.valid_of_ofEntries hpatterns
  have hfirst : ∀ m i e, ¬ c.Resolves m.text → PatternEntry.FirstEntry entries m.text i e →
      ∀ value, ∃ passes, (w.registerAll patterns.toPartialRules).decideModifier value m =
          (some passes, some ⟨w.partials.size + i, m⟩) ∧ (passes = true ↔ e.Accepts value) := by
    intro m i e hm he value
    obtain ⟨r, hdescribes, hdecider⟩ := decider?_registerAll_of_firstEntry hw hrules hm he
    have hone := (hvalid e (List.mem_of_getElem? he.getElem?)).check
    refine ⟨r.check.holds value, ?_, (hdescribes.accepts_iff hone).symm⟩
    rw [decideModifier_eq, PatternRules.toPartialRules, hdecider]
    rfl
  constructor
  case whole_eq => rw [registerAll_eq]
  case of_resolves =>
    intro m value hm
    rw [decideModifier_eq, decideModifier_eq, decider?_registerAll_of_resolves hw hm]
  case of_first => exact hfirst
  case accepted =>
    intro p rule d m post i e hreaches hm he haccepts
    obtain ⟨passes, hdecide, hiff⟩ := hfirst m i e hm he p.value
    obtain rfl : passes = true := hiff.mpr haccepts
    exact hreaches.validate_of_passes (congrArg Prod.fst hdecide)
  case refused =>
    intro p rule d m post i e hreaches hm he hrefuses
    obtain ⟨passes, hdecide, hiff⟩ := hfirst m i e hm he p.value
    obtain rfl : passes = false := Bool.eq_false_iff.mpr (mt hiff.mp hrefuses)
    exact hreaches.validate_of_breaks (congrArg Prod.fst hdecide)
  case unknown_iff =>
    intro p rule d m post hreaches hm
    rw [hreaches.validate_eq_unknown_iff]
    exact decider?_registerAll_eq_none_iff hw hrules hm

theorem ofConfig_eq_error_iff {e : PresetError} : ofConfig c = .error e ↔
    ∃ t, c.MisspellsBound t ∧ e = ⟨"length-up-to", "bound", UnknownBound.message ⟨t⟩⟩ := by
  have hbound : ofConfig c = .error e ↔ Builtin.configuredBound c = .error e := by
    rw [ofConfig, Builtin.configuredRules]
    cases Builtin.configuredBound c <;> simp [Except.map]
  simp only [hbound, Builtin.configuredBound_eq_error_iff, Config.MisspellsBound, and_assoc]

theorem exists_ofConfig_iff : (∃ w, ofConfig c = .ok w) ↔ ∀ t, ¬ c.MisspellsBound t := by
  constructor
  · rintro ⟨w, hw⟩ t ht
    cases hw.symm.trans (ofConfig_eq_error_iff.mpr ⟨t, ht, rfl⟩)
  · intro hnone
    cases hw : ofConfig c with
    | ok w => exact ⟨w, rfl⟩
    | error e =>
      obtain ⟨t, ht, -⟩ := ofConfig_eq_error_iff.mp hw
      exact absurd ht (hnone t)

theorem exists_entries_of_ofToml {patterns : PatternRules}
    (h : PatternRules.ofToml text = .ok patterns) :
    ∃ entries, (Toml.ofText? text).bind PatternRules.entries? = some entries ∧
      PatternRules.ofEntries entries = .ok patterns := by
  rw [PatternRules.ofToml] at h
  cases hentries : (Toml.ofText? text).bind PatternRules.entries? with
  | none =>
    rw [hentries] at h
    cases h
  | some entries =>
    rw [hentries] at h
    exact ⟨entries, rfl, h⟩

/-- Reading a document takes three steps, and the first one that fails gives the error. -/
theorem ofToml_eq_error_iff {e : SetupError} : ofToml text = .error e ↔
    (∃ cause, Config.parse text = .error cause ∧ .config cause = e) ∨
      ∃ c, Config.parse text = .ok c ∧ ((∃ cause, ofConfig c = .error cause ∧ .preset cause = e) ∨
        ∃ w, ofConfig c = .ok w ∧
          ∃ cause, PatternRules.ofToml text = .error cause ∧ .patterns cause = e) := by
  simp only [ofToml, bind_eq_error_iff, mapError_eq_error_iff, mapError_eq_ok_iff, pure,
    Except.pure, reduceCtorEq, and_false, exists_false, or_false]

/-- Reading a document fails for the first of three reasons, or makes the validator of its
configuration with what its entries say added. -/
theorem ofToml_outcome (text : String) :
    (∀ cause, ofToml text = .error (.config cause) ↔ Config.parse text = .error cause) ∧
    (∀ cause, ofToml text = .error (.preset cause) ↔
      ∃ c t, Config.parse text = .ok c ∧ c.MisspellsBound t ∧
        cause = ⟨"length-up-to", "bound", UnknownBound.message ⟨t⟩⟩) ∧
    (∀ cause, ofToml text = .error (.patterns cause) ↔
      ∃ c, Config.parse text = .ok c ∧ (∀ t, ¬ c.MisspellsBound t) ∧
        PatternRules.ofToml text = .error cause) ∧
    ((∃ v, ofToml text = .ok v) ↔
      ∃ c, Config.parse text = .ok c ∧ (∀ t, ¬ c.MisspellsBound t) ∧
        ∃ patterns, PatternRules.ofToml text = .ok patterns) ∧
    ∀ v, ofToml text = .ok v → ∃ c w entries, Config.parse text = .ok c ∧ ofConfig c = .ok w ∧
      (Toml.ofText? text).bind PatternRules.entries? = some entries ∧ ExtendsBy c w v entries := by
  refine ⟨fun cause => ?_, fun cause => ?_, fun cause => ?_, ?_, fun v hv => ?_⟩
  · simp [ofToml_eq_error_iff]
  · simp [ofToml_eq_error_iff, ofConfig_eq_error_iff]
  · simp [ofToml_eq_error_iff, ← exists_ofConfig_iff]
  · simp [ofToml, bind_eq_ok_iff, mapError_eq_ok_iff, pure, Except.pure, ← exists_ofConfig_iff]
  · obtain ⟨c, w, patterns, hc, hw, hpatterns, rfl⟩ := exists_of_ofToml hv
    obtain ⟨entries, hentries, hrules⟩ := exists_entries_of_ofToml hpatterns
    exact ⟨c, w, entries, hc, hw, hentries, extendsBy_registerAll hw hrules⟩

/-- A document with two rules that match some of the same clauses. -/
def overlapping : String :=
  "[[patterns]]\nname = \"a\"\npattern = \"^AT\"\nignore-case = true\nequals = 0\n" ++
    "[[patterns]]\nname = \"b\"\npattern = \"origin$\"\nmatches = \".\"\n"

theorem exists_ofToml_overlapping : ∃ v, ofToml overlapping = .ok v := by
  have hok : (ofToml overlapping).isOk = true := by decide +kernel
  cases hv : ofToml overlapping with
  | error e => simp [hv, Except.isOk, Except.toBool] at hok
  | ok v => exact ⟨v, rfl⟩

theorem not_resolves_at_the_origin (c : Config) : ¬ c.Resolves "at the origin" := by
  have hphrases : ∀ case : PhraseCase, ∀ r ∈ Builtin.phrases,
      case.key r.phrase ≠ case.key "at the origin" := by
    intro case
    cases case <;> decide +kernel
  have hrules : ∀ bound, ∀ r ∈ Builtin.rules bound,
      r.pattern.isMatch "at the origin" = false := by
    intro bound
    cases bound <;> decide +kernel
  rintro (⟨r, hr, hkey⟩ | ⟨bound, r, hr, -, hmatch⟩)
  · exact hphrases c.phraseCase r hr hkey
  · rw [hrules bound r hr] at hmatch
    cases hmatch

theorem firstEntry_overlapping {entries : List PatternEntry}
    (h : (Toml.ofText? overlapping).bind PatternRules.entries? = some entries) :
    ∃ e, PatternEntry.FirstEntry entries "at the origin" 0 e ∧ ¬ e.Accepts (.string "a") := by
  have hparts : ((Toml.ofText? overlapping).bind PatternRules.entries?).any (fun entries =>
      entries[0]?.any fun e => e.pattern = "^AT" ∧ e.ignoreCase = true ∧ e.oneOf.isNone ∧
        e.matching = none ∧ e.equals.all fun t => !(Value.string "a" == Value.ofToml t)) =
      true := by decide +kernel
  have hmatch : (Pattern.compile "^AT" true).toOption.any (·.isMatch "at the origin") = true := by
    decide +kernel
  rw [h, Option.any_some, Option.any_eq_true] at hparts
  obtain ⟨e, he, hparts⟩ := hparts
  simp only [decide_eq_true_eq, Option.isNone_iff_eq_none] at hparts
  obtain ⟨hpattern, hcase, honeOf, hmatching, hequals⟩ := hparts
  refine ⟨e, ⟨he, ?_, fun j _ hj => absurd hj (Nat.not_lt_zero j)⟩, ?_⟩
  · rw [PatternEntry.Matches, hpattern, hcase]
    cases hp : Pattern.compile "^AT" true with
    | error cause => simp [hp, Except.toOption] at hmatch
    | ok p => exact ⟨p, rfl, by simpa [hp, Except.toOption] using hmatch⟩
  · rintro (⟨ht, heq⟩ | ⟨hts, -, -⟩ | ⟨hsource, -, -, -⟩)
    · simp [ht, heq] at hequals
    · cases honeOf.symm.trans hts
    · cases hmatching.symm.trans hsource

/-- The first of two rules that match a clause decides it, although the value is what the second one
asks for. -/
theorem ofToml_outcome_overlapping : ∃ v, ofToml overlapping = .ok v ∧
    v.validate ⟨"x", .string "a"⟩ "any value, at the origin" =
      .error (.validation "x" ["any value", "at the origin"]) := by
  obtain ⟨v, hv⟩ := exists_ofToml_overlapping
  obtain ⟨c, w, entries, -, hw, hentries, hextends⟩ := (ofToml_outcome overlapping).2.2.2.2 v hv
  obtain ⟨e, hfirst, hrefuses⟩ := firstEntry_overlapping hentries
  have hparse : RuleDefinition.parse "any value, at the origin" =
      .ok ⟨⟨"any value", .type⟩, [⟨"at the origin", .plain⟩]⟩ := by rfl
  have htype : v.whole.resolve? "any value" = some Builtin.anyValue := by
    rw [hextends.whole_eq]
    exact resolve?_anyValue hw
  have hreaches : v.ReachesModifier ⟨"x", .string "a"⟩ "any value, at the origin"
      ⟨⟨"any value", .type⟩, [⟨"at the origin", .plain⟩]⟩ ⟨"at the origin", .plain⟩ [] :=
    ⟨⟨rfl, hparse, by decide, ⟨_, htype, rfl⟩, nofun⟩, [], rfl, nofun⟩
  exact ⟨v, hv, hextends.refused _ _ _ _ _ 0 e hreaches (not_resolves_at_the_origin c) hfirst
    hrefuses⟩

end Validator

end Clausal
