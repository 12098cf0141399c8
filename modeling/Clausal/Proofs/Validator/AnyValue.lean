import Clausal.Proofs.Builtin.Settings
import Clausal.Proofs.Text.Words

/-!
# Rules with one modifier

A rule that begins with "any value" and has one modifier says what the modifier says: every value
is of the type, so the outcome is that of the modifier, unless no value was supplied
(`Validator.validate_anyValue`).  Under a configuration a modifier with a shape is decided by the
built-in rule for its shape, if that is enabled (`Validator.fst_decideModifier_of_isText`).
-/

namespace Clausal

namespace RuleDefinition

theorem placeholder_not_mem_words {text : String} (h : '\x7b' ∉ text.toList) :
    placeholder ∉ words text := by
  intro hmem
  obtain ⟨w, hw, hplaceholder⟩ := List.mem_map.mp hmem
  have hbrace : '\x7b' ∈ w := by
    rw [← String.toList_ofList (l := w), hplaceholder]
    decide
  rcases Blank.mem_of_mem_wordsFrom hw hbrace with hnil | htext
  · cases hnil
  · exact h htext

theorem parse_anyValue {m : String} {c : Clause} (hcomma : ',' ∉ m.toList)
    (hparse : Clause.parse m = .ok c) :
    parse ("any value, " ++ m) = .ok ⟨⟨"any value", .type⟩, [c]⟩ := by
  have hjoinable : Joinable "any value" [" " ++ m] := by
    refine ⟨List.cons_ne_nil _ _, by decide, ?_⟩
    intro x hx
    obtain rfl := List.mem_singleton.mp hx
    rw [String.toList_append, List.mem_append, not_or]
    exact ⟨by decide, hcomma⟩
  have hjoined : "any value, " ++ m = joined "any value" [" " ++ m] := by
    have hcomma : "any value, " = "any value" ++ "," ++ " " := rfl
    rw [joined, String.intercalate_cons_cons, String.intercalate_singleton, hcomma]
    simp only [String.append_assoc]
  have hmodifier : [" " ++ m].mapM Clause.parse = .ok [c] := by
    have hspace : Clause.parse (" " ++ m) = .ok c := by
      rw [← Clause.parse_trim, trim_space_append, Clause.parse_trim, hparse]
    rw [List.mapM_cons, hspace]
    rfl
  have htype : Clause.ofType (typeText "any value") = ⟨"any value", .type⟩ := by rfl
  rw [hjoined, parse_joined hjoinable, hmodifier, htype]
  rfl

end RuleDefinition

namespace Validator

variable {v : Validator} {c : Clause} {m name : String} {value : Value}

/-- A rule with one modifier about any value has the outcome of the modifier. -/
theorem validate_anyValue (hany : v.whole.resolve? "any value" = some Builtin.anyValue)
    (hcomma : ',' ∉ m.toList) (hplaceholder : RuleDefinition.placeholder ∉ words m)
    (hparse : Clause.parse m = .ok c) (hsupplied : value.isVoid = false) :
    v.validate ⟨name, value⟩ ("any value, " ++ m) =
      (v.checkModifiers value [c]).1.outcome name ["any value", trim m] := by
  have htext : c.text = trim m := Clause.text_of_parse hparse
  have hnone : RuleDefinition.hasPlaceholder ⟨⟨"any value", .type⟩, [c]⟩ = false := by
    have htype : (words "any value").contains RuleDefinition.placeholder = false := by decide
    have hmodifier : (words c.text).contains RuleDefinition.placeholder = false := by
      rw [htext, words_trim]
      simpa using hplaceholder
    simp only [RuleDefinition.hasPlaceholder, RuleDefinition.clauses, List.any_cons, List.any_nil,
      htype, hmodifier, Bool.or_false]
  have hresolve : v.resolveRule ("any value, " ++ m) =
      .ok ⟨⟨⟨"any value", .type⟩, [c]⟩, Builtin.anyValue⟩ :=
    resolveRule_eq_ok_iff.mpr ⟨RuleDefinition.parse_anyValue hcomma hparse, hnone, hany⟩
  have hcheck := check_eq_of_resolveRule (p := ⟨name, value⟩) hresolve rfl hsupplied
  rw [validate, hcheck, ← htext]
  rfl

theorem fst_checkModifiers_singleton {passes : Bool}
    (h : (v.decideModifier value c).1 = some passes) :
    (v.checkModifiers value [c]).1 = if passes then .passed else .broken := by
  cases passes <;> simp [checkModifiers, h]

theorem resolve?_anyValue {config : Config} (h : ofConfig config = .ok v) :
    v.whole.resolve? "any value" = some Builtin.anyValue := by
  obtain ⟨bound, -, rfl⟩ := ofConfig_eq_ok_iff.mp h
  rw [whole_ofRules]
  cases config.phraseCase with
  | sensitive => rfl
  | insensitive => rfl

/-- The built-in rule for the shape of a modifier decides it, if it is enabled; otherwise nothing
does. -/
theorem fst_decideModifier_of_isText {config : Config} {bound : UpToBound} {s : Shape}
    (value : Value) (h : ofConfig config = .ok v)
    (hbound : Builtin.configuredBound config = .ok bound) (htext : s.IsText c.text.toList) :
    (v.decideModifier value c).1 =
      if config.isEnabled (s.rule bound).name then some ((s.rule bound).evaluate value c)
      else none := by
  obtain ⟨bound', hbound', rfl⟩ := ofConfig_eq_ok_iff.mp h
  cases hbound.symm.trans hbound'
  have hphrase : ((WholeRegistry.empty config.phraseCase).insertAll Builtin.phrases).resolve?
      c.text = none := Builtin.resolve?_phrases_of_isText htext
  rw [fst_decideModifier, whole_ofRules, hphrase]
  dsimp only
  rw [partials_ofRules, Builtin.find?_filter_rules htext]
  split <;> rfl

end Validator

end Clausal
