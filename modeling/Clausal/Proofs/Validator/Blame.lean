import Clausal.Proofs.Validator.Stages

/-!
# Who is to blame for a failure

A failure that blames the rule says the same whatever the value is.  The exception are modifiers
without a meaning: a check may end before it gets to them, but it never gets past them, and the one
that it reports is always the first.
-/

namespace Clausal

namespace Validator

variable {v : Validator} {name : String} {a b : Value} {rule text : String}

/-- A failure to understand the rule does not depend on the value. -/
theorem validate_eq_of_resolveRule_eq_error {p : Param} {reason : FormatReason}
    (h : v.resolveRule rule = .error reason) :
    v.validate p rule = .error (.format p.name reason) := by
  rw [validate, check_eq, h]

/-- A failure that blames the rule comes from understanding it or from a modifier without a
meaning. -/
theorem validate_eq_format_iff {p : Param} {n : String} {reason : FormatReason} :
    v.validate p rule = .error (.format n reason) ↔ n = p.name ∧
      (v.resolveRule rule = .error reason ∨
        ∃ r text, v.resolveRule rule = .ok r ∧ reason = .unknownModifier text ∧
          r.typeRule.test p.value = true ∧ p.value.isVoid = false ∧
          (v.checkModifiers p.value r.definition.modifiers).1 = .unknown text) := by
  rw [validate, check_eq]
  cases hr : v.resolveRule rule with
  | error e =>
    constructor
    · intro h
      cases h
      exact ⟨rfl, .inl rfl⟩
    · rintro ⟨rfl, h | ⟨_, _, h, _⟩⟩
      · cases h
        rfl
      · cases h
  | ok r =>
    rw [checkValue_eq_format_iff]
    constructor
    · rintro ⟨rfl, htest, hvoid, text, rfl, htext⟩
      exact ⟨rfl, .inr ⟨r, text, rfl, rfl, htest, hvoid, htext⟩⟩
    · rintro ⟨rfl, h | ⟨_, text, h, rfl, htest, hvoid, htext⟩⟩
      · cases h
      · cases h
        exact ⟨rfl, htest, hvoid, text, rfl, htext⟩

/-- Only a void value passes a rule with a modifier without a meaning, and no value gets another
modifier of it reported. -/
theorem checkValue_of_unknown {p : Param} {r : ResolvedRule}
    (h : (r.definition.modifiers.find? fun c => (v.decider? c.text).isNone).map (·.text) =
      some text) :
    (v.checkValue p r).outcome = .error (.format p.name (.unknownModifier text)) ∨
      (∃ rules, (v.checkValue p r).outcome = .error (.validation p.name rules)) ∨
      ((v.checkValue p r).outcome = .ok () ∧ p.value.isVoid = true) := by
  cases htest : r.typeRule.test p.value with
  | false => exact .inr (.inl ⟨_, by rw [checkValue_of_not_test htest]⟩)
  | true =>
    cases hvoid : p.value.isVoid with
    | true => exact .inr (.inr ⟨by rw [checkValue_of_isVoid htest hvoid], rfl⟩)
    | false =>
      rw [checkValue_of_supplied htest hvoid]
      cases hresult : (v.checkModifiers p.value r.definition.modifiers).1 with
      | passed =>
        -- A value that passes all modifiers has met none without a meaning.
        obtain ⟨c, hfind, -⟩ := Option.map_eq_some_iff.mp h
        have hpass := checkModifiers_eq_passed_iff.mp hresult c (List.mem_of_find?_eq_some hfind)
        have hnone : (v.decider? c.text).isNone = true := by simpa using List.find?_some hfind
        exact absurd (Option.isNone_iff_eq_none.mp hnone) hpass.decider?_ne_none
      | broken => exact .inr (.inl ⟨_, rfl⟩)
      | unknown text' =>
        have htext := find?_eq_of_checkModifiers_eq_unknown hresult
        cases h.symm.trans htext
        exact .inl rfl

/-- A failure that blames the rule is a fault of the rule.  If the reason is not an unknown
modifier, every value fails for it.  If it is, every other value gets the same modifier reported,
fails the rule itself, or is void and passes. -/
theorem format_failure_is_of_rule (v : Validator) (name : String) (a b : Value) (rule : String) :
    (∀ n reason, (∀ text, reason ≠ .unknownModifier text) →
      v.validate ⟨name, a⟩ rule = .error (.format n reason) →
      v.validate ⟨name, b⟩ rule = .error (.format n reason)) ∧
    ∀ n text, v.validate ⟨name, a⟩ rule = .error (.format n (.unknownModifier text)) →
      (v.validate ⟨name, b⟩ rule = .error (.format n (.unknownModifier text)) ∨
        (∃ rules, v.validate ⟨name, b⟩ rule = .error (.validation name rules)) ∨
        (v.validate ⟨name, b⟩ rule = .ok () ∧ b = .void)) ∧
      (b ≠ .void → v.validate ⟨name, b⟩ rule ≠ .ok ()) ∧
      ∀ n' text', v.validate ⟨name, b⟩ rule = .error (.format n' (.unknownModifier text')) →
        text' = text := by
  constructor
  · intro n reason hreason h
    obtain ⟨rfl, h | ⟨_, text, _, htext, _⟩⟩ := validate_eq_format_iff.mp h
    · exact validate_eq_of_resolveRule_eq_error h
    · exact absurd htext (hreason text)
  · intro n text h
    obtain ⟨hn, h | ⟨r, text', hr, htext', -, -, hresult⟩⟩ := validate_eq_format_iff.mp h
    · exact absurd h (resolveRule_ne_unknownModifier v rule text)
    · cases htext'
      obtain rfl : name = n := hn.symm
      have hvalidate : v.validate ⟨name, b⟩ rule = (v.checkValue ⟨name, b⟩ r).outcome := by
        rw [validate, check_eq, hr]
      have hcases := checkValue_of_unknown (p := ⟨name, b⟩)
        (find?_eq_of_checkModifiers_eq_unknown hresult)
      rw [← hvalidate] at hcases
      have hvoid : b.isVoid = true → b = .void := by
        cases b <;> simp [Value.isVoid]
      rcases hcases with h | ⟨rules, h⟩ | ⟨h, hb⟩
      · refine ⟨.inl h, fun _ => by simp [h], fun n' text' h' => ?_⟩
        cases h.symm.trans h'
        rfl
      · exact ⟨.inr (.inl ⟨rules, h⟩), fun _ => by simp [h], fun n' text' h' => by simp [h] at h'⟩
      · exact ⟨.inr (.inr ⟨h, hvoid hb⟩), fun hne => absurd (hvoid hb) hne,
          fun n' text' h' => by simp [h] at h'⟩

/-- A rule whose modifier is unknown for one value is not satisfied by another one that was
supplied. -/
theorem format_failure_is_of_rule_null :
    (ofRules .sensitive [⟨"any value", fun _ => true⟩] []).validate ⟨"x", .null⟩
      "any value, tall" ≠ .ok () :=
  ((format_failure_is_of_rule (ofRules .sensitive [⟨"any value", fun _ => true⟩] []) "x"
    (.boolean true) .null "any value, tall").2 "x" "tall" rfl).2.1 nofun

end Validator

end Clausal
