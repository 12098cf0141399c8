import Clausal.Setup

/-!
# What validators are made of

A configured validator has the phrases for types and those of the built-in rules that the
configuration enables (`Validator.ofConfig_eq_ok_iff`).  A validator made from a document has, after
them, the rules that the document describes (`Validator.exists_of_ofToml`).

## Main definitions

- `Validator.Configured`: the validators that are standard, configured, or made from a document
-/

namespace Clausal

section Errors

variable {α ε ε' : Type} {f : ε → ε'}

@[simp]
theorem mapError_ok {a : α} : (Except.ok a : Except ε α).mapError f = .ok a := rfl

@[simp]
theorem mapError_error {e : ε} : (Except.error e : Except ε α).mapError f = .error (f e) := rfl

theorem mapError_eq_ok_iff {x : Except ε α} {a : α} : x.mapError f = .ok a ↔ x = .ok a := by
  cases x <;> simp

theorem mapError_eq_error_iff {x : Except ε α} {e : ε'} :
    x.mapError f = .error e ↔ ∃ cause, x = .error cause ∧ f cause = e := by
  cases x <;> simp

theorem bind_eq_ok_iff {β : Type} {x : Except ε α} {g : α → Except ε β} {b : β} :
    x >>= g = .ok b ↔ ∃ a, x = .ok a ∧ g a = .ok b := by
  cases x <;> simp [bind, Except.bind]

theorem bind_eq_error_iff {β : Type} {x : Except ε α} {g : α → Except ε β} {e : ε} :
    x >>= g = .error e ↔ x = .error e ∨ ∃ a, x = .ok a ∧ g a = .error e := by
  cases x <;> simp [bind, Except.bind]

end Errors

namespace Validator

variable {c : Config} {v : Validator}

@[simp] theorem whole_ofRules (case : PhraseCase) (whole : List WholeRule)
    (partials : List PartialRule) :
    (ofRules case whole partials).whole = (WholeRegistry.empty case).insertAll whole := rfl

@[simp] theorem partials_ofRules (case : PhraseCase) (whole : List WholeRule)
    (partials : List PartialRule) : (ofRules case whole partials).partials = ⟨partials⟩ := rfl

/-- The validator of a configuration has the phrases for types and the built-in rules that the
configuration enables. -/
theorem ofConfig_eq_ok_iff : ofConfig c = .ok v ↔ ∃ bound, Builtin.configuredBound c = .ok bound ∧
    v = ofRules c.phraseCase Builtin.phrases
      ((Builtin.rules bound).filter fun r => c.isEnabled r.name) := by
  rw [ofConfig, Builtin.configuredRules]
  cases Builtin.configuredBound c with
  | error e => simp [Except.map]
  | ok bound => simp [Except.map, eq_comm]

theorem ofConfig_empty : ofConfig .empty = .ok standard := rfl

theorem registerAll_eq (v : Validator) (rules : List PartialRule) :
    v.registerAll rules = ⟨v.whole, ⟨v.partials.rules ++ rules⟩⟩ := by
  induction rules generalizing v with
  | nil => simp [registerAll]
  | cons rule rules ih =>
    rw [registerAll, List.foldl_cons, ← registerAll, ih]
    simp [register, PartialRegistry.register]

/-- The validator of a document is that of its configuration, with the rules that the document
describes added. -/
theorem exists_of_ofToml {text : String} (h : ofToml text = .ok v) :
    ∃ c w patterns, Config.parse text = .ok c ∧ ofConfig c = .ok w ∧
      PatternRules.ofToml text = .ok patterns ∧ v = w.registerAll patterns.toPartialRules := by
  simp only [ofToml, bind_eq_ok_iff, mapError_eq_ok_iff] at h
  obtain ⟨c, hc, w, hw, patterns, hpatterns, hv⟩ := h
  cases hv
  exact ⟨c, w, patterns, hc, hw, hpatterns, rfl⟩

/-- The validators that are standard, that a configuration makes, or that a document makes. -/
inductive Configured : Validator → Prop where
  | standard : Configured standard
  | ofConfig {c : Config} {v : Validator} (h : ofConfig c = .ok v) : Configured v
  | ofToml {text : String} {v : Validator} (h : ofToml text = .ok v) : Configured v

end Validator

end Clausal
