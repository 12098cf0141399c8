import Clausal.Proofs.Validator.Stages

/-!
# Registering rules while a validator is in use

A *session* uses one validator over time: it registers partial rules and checks parameters, in any
order.  Rules that are registered come after all others, so what was decided before stays decided in
the same way.  The main statement, `Validator.answer_afterwards`, says this of whole calls: a call
keeps its outcome and its evaluations for the rest of the session, unless a modifier of it had no
meaning; then the first rule registered later whose pattern matches that modifier decides it.

## Main definitions

- `Call`: a check of a parameter, with or without a class
- `SessionStep`: the registration of a rule, or a call
- `Validator.afterSteps`: the validator after the steps of a session
- `registered`: the rules that the steps of a session register
-/

namespace Clausal

/-- A check that is asked for: of a parameter against a rule, or for being an instance of a
class. -/
structure Call where
  param : Param
  rule : String
  /-- The class, if the check is for one. -/
  ofClass : Option ClassArg

/-- A step of a session. -/
inductive SessionStep where
  | register (rule : PartialRule)
  | call (c : Call)

/-- The rules that steps register, in order. -/
def registered : List SessionStep → List PartialRule
  | [] => []
  | .register rule :: rest => rule :: registered rest
  | .call _ :: rest => registered rest

namespace Validator

variable {v w : Validator} {value : Value} {cs : List Clause}

/-- The answer to a call. -/
def answer (v : Validator) (c : Call) : Report :=
  v.check c.param c.rule c.ofClass

/-- The validator after a step. -/
def afterStep (v : Validator) : SessionStep → Validator
  | .register rule => v.register rule
  | .call _ => v

/-- The validator after steps. -/
def afterSteps (v : Validator) (steps : List SessionStep) : Validator :=
  steps.foldl afterStep v

/-- A session leaves the phrases alone and appends the rules that it registers. -/
theorem afterSteps_eq (v : Validator) (steps : List SessionStep) :
    v.afterSteps steps = ⟨v.whole, ⟨v.partials.rules ++ registered steps⟩⟩ := by
  induction steps generalizing v with
  | nil => simp [afterSteps, registered]
  | cons step steps ih =>
    rw [afterSteps, List.foldl_cons]
    cases step with
    | register rule =>
      have h := ih (v.register rule)
      rw [afterSteps] at h
      rw [afterStep, h]
      simp [register, PartialRegistry.register, registered]
    | call c => exact ih v

theorem afterSteps_append (v : Validator) (earlier later : List SessionStep) :
    v.afterSteps (earlier ++ later) = (v.afterSteps earlier).afterSteps later :=
  List.foldl_append

/-- What decides a text after a session: what did before or, if nothing did, the first of the rules
registered since then whose pattern matches. -/
theorem decider?_afterSteps (v : Validator) (steps : List SessionStep) (text : String) :
    (v.afterSteps steps).decider? text = (v.decider? text).or
      (((registered steps).findIdx? (·.pattern.isMatch text)).bind fun i =>
        (registered steps)[i]?.map (.pattern (v.partials.size + i))) := by
  rw [afterSteps_eq, decider?, decider?]
  cases v.whole.resolve? text with
  | some rule => rfl
  | none => exact PartialRegistry.decider?_append _ _ _

theorem decider?_afterSteps_of_some {steps : List SessionStep} {text : String} {d : Decider}
    (h : v.decider? text = some d) : (v.afterSteps steps).decider? text = some d := by
  rw [decider?_afterSteps, h, Option.some_or]

/-- A text without a meaning stays without one if no rule registered since then matches it. -/
theorem decider?_afterSteps_of_not_isMatch {steps : List SessionStep} {text : String}
    (h : v.decider? text = none)
    (hmatch : ∀ rule ∈ registered steps, rule.pattern.isMatch text = false) :
    (v.afterSteps steps).decider? text = none := by
  have hfind : (registered steps).findIdx? (·.pattern.isMatch text) = none :=
    List.findIdx?_eq_none_iff.mpr hmatch
  rw [decider?_afterSteps, h, hfind]
  rfl

/-- Modifiers come out in the same way for a validator that decides all of them as another one does,
except perhaps some that the check does not get to. -/
theorem checkModifiers_eq_of_extends
    (hext : ∀ c ∈ cs, ∀ d, v.decider? c.text = some d → w.decider? c.text = some d)
    (hunknown : ∀ text, (v.checkModifiers value cs).1 = .unknown text → w.decider? text = none) :
    w.checkModifiers value cs = v.checkModifiers value cs := by
  induction cs with
  | nil => rfl
  | cons c cs ih =>
    -- A modifier that is gotten to without a meaning is the one that is reported.
    have hsame : w.decider? c.text = v.decider? c.text := by
      cases hd : v.decider? c.text with
      | some d => exact hext c List.mem_cons_self d hd
      | none =>
        refine hunknown c.text ?_
        have hc : ¬ v.Passes value c := fun h => h.decider?_ne_none hd
        rw [checkModifiers_cons_of_not_passes hc, if_pos hd]
    have hmodifier : w.decideModifier value c = v.decideModifier value c := by
      rw [decideModifier_eq, decideModifier_eq, hsame]
    by_cases hc : v.Passes value c
    · have hcw : w.Passes value c := by rwa [Passes, hmodifier]
      have hrest := ih (fun x hx => hext x (List.mem_cons_of_mem _ hx)) fun text htext => by
        refine hunknown text ?_
        rw [checkModifiers_cons_of_passes hc]
        exact htext
      rw [checkModifiers_cons_of_passes hc, checkModifiers_cons_of_passes hcw, hrest, hmodifier]
    · have hcw : ¬ w.Passes value c := by rwa [Passes, hmodifier]
      rw [checkModifiers_cons_of_not_passes hc, checkModifiers_cons_of_not_passes hcw, hsame,
        hmodifier]

/-- Two validators with the same phrases check a parameter alike if the modifiers of the rule come
out alike whenever the check gets to them. -/
theorem check_eq_of_checkModifiers_eq {p : Param} {rule : String} {ofClass : Option ClassArg}
    (hwhole : w.whole = v.whole)
    (h : ∀ r, v.resolveRule rule = .ok r → r.typeRule.test p.value = true →
      p.value.isVoid = false →
      w.checkModifiers p.value r.definition.modifiers =
        v.checkModifiers p.value r.definition.modifiers) :
    w.check p rule ofClass = v.check p rule ofClass := by
  cases ofClass with
  | some c => simp only [check]
  | none =>
    have hresolve : w.resolveRule rule = v.resolveRule rule := by
      rw [resolveRule, resolveRule, hwhole]
    rw [check_eq, check_eq, hresolve]
    cases hr : v.resolveRule rule with
    | error reason => rfl
    | ok r =>
      cases htest : r.typeRule.test p.value with
      | false => exact (checkValue_of_not_test htest).trans (checkValue_of_not_test htest).symm
      | true =>
        cases hvoid : p.value.isVoid with
        | true =>
          exact (checkValue_of_isVoid htest hvoid).trans (checkValue_of_isVoid htest hvoid).symm
        | false =>
          dsimp only
          rw [checkValue_of_supplied htest hvoid, checkValue_of_supplied htest hvoid,
            h r hr htest hvoid]

/-- A call reports an unknown modifier exactly when it is for no class, the rule is understood, the
value was supplied and is of the type, and the modifiers come out so. -/
theorem answer_eq_unknownModifier_iff {call : Call} {name text : String} :
    (v.answer call).outcome = .error (.format name (.unknownModifier text)) ↔
      call.ofClass = none ∧ name = call.param.name ∧ ∃ r, v.resolveRule call.rule = .ok r ∧
        r.typeRule.test call.param.value = true ∧ call.param.value.isVoid = false ∧
        (v.checkModifiers call.param.value r.definition.modifiers).1 = .unknown text := by
  obtain ⟨p, rule, ofClass⟩ := call
  simp only [answer]
  cases ofClass with
  | some c =>
    simp only [reduceCtorEq, false_and, iff_false, check]
    intro h
    cases hparse : RuleDefinition.parse rule with
    | error e => simp [hparse] at h
    | ok d =>
      simp only [hparse, checkClass] at h
      repeat' split at h
      all_goals cases h
  | none =>
    rw [check_eq]
    cases hr : v.resolveRule rule with
    | error reason =>
      constructor
      · intro h
        cases h
        exact absurd hr (resolveRule_ne_unknownModifier v rule text)
      · rintro ⟨-, -, _, h, -⟩
        cases h
    | ok r =>
      simp only [checkValue_eq_format_iff, true_and, Except.ok.injEq, exists_eq_left',
        FormatReason.unknownModifier.injEq]

/-- A call that reports no unknown modifier keeps its answer for the rest of a session. -/
theorem answer_afterSteps_of_known {steps : List SessionStep} {call : Call}
    (h : ∀ name text, (v.answer call).outcome ≠ .error (.format name (.unknownModifier text))) :
    (v.afterSteps steps).answer call = v.answer call := by
  obtain ⟨p, rule, ofClass⟩ := call
  cases ofClass with
  | some c => simp only [answer, check]
  | none =>
    refine check_eq_of_checkModifiers_eq (by rw [afterSteps_eq]) fun r hr htest hvoid => ?_
    refine checkModifiers_eq_of_extends (fun c _ d hd => decider?_afterSteps_of_some hd) ?_
    intro text htext
    exact absurd (answer_eq_unknownModifier_iff.mpr ⟨rfl, rfl, r, hr, htest, hvoid, htext⟩)
      (h p.name text)

/-- A call that reports an unknown modifier keeps its answer as long as no rule is registered whose
pattern matches the modifier. -/
theorem answer_afterSteps_of_not_isMatch {steps : List SessionStep} {call : Call}
    {name text : String}
    (h : (v.answer call).outcome = .error (.format name (.unknownModifier text)))
    (hmatch : ∀ rule ∈ registered steps, rule.pattern.isMatch text = false) :
    (v.afterSteps steps).answer call = v.answer call := by
  obtain ⟨p, rule, ofClass⟩ := call
  obtain ⟨hclass, -, r, hr, -, -, htext⟩ := answer_eq_unknownModifier_iff.mp h
  dsimp only at hclass hr htext
  subst hclass
  refine check_eq_of_checkModifiers_eq (by rw [afterSteps_eq]) fun r' hr' _ _ => ?_
  cases hr.symm.trans hr'
  refine checkModifiers_eq_of_extends (fun c _ d hd => decider?_afterSteps_of_some hd) ?_
  intro text' htext'
  cases htext.symm.trans htext'
  obtain ⟨_, c, _, _, _, hnone, rfl⟩ := checkModifiers_eq_unknown_iff.mp htext
  exact decider?_afterSteps_of_not_isMatch hnone hmatch

/-- The first rule registered since a text had no meaning whose pattern matches it decides it. -/
theorem decider?_afterSteps_of_isMatch {steps : List SessionStep} {text : String} {i : Nat}
    {rule : PartialRule} (h : v.decider? text = none) (hrule : (registered steps)[i]? = some rule)
    (hmatch : rule.pattern.isMatch text = true)
    (hfirst : ∀ j r, j < i → (registered steps)[j]? = some r → r.pattern.isMatch text = false) :
    (v.afterSteps steps).decider? text = some (.pattern (v.partials.size + i) rule) := by
  obtain ⟨hi, hget⟩ := List.getElem?_eq_some_iff.mp hrule
  have hfind : (registered steps).findIdx? (·.pattern.isMatch text) = some i := by
    rw [List.findIdx?_eq_some_iff_getElem]
    refine ⟨hi, by rwa [hget], fun j hj => ?_⟩
    simp [hfirst j _ hj (List.getElem?_eq_getElem (Nat.lt_trans hj hi))]
  rw [decider?_afterSteps, h, hfind, Option.none_or, Option.bind_some, hrule]
  rfl

/-- A value passes during a session what it passed before, by the same evaluations. -/
theorem passes_afterSteps {pre : List Clause} (steps : List SessionStep)
    (hpre : ∀ c ∈ pre, v.Passes value c) :
    (∀ c ∈ pre, (v.afterSteps steps).Passes value c) ∧
      (v.afterSteps steps).evaluations value pre = v.evaluations value pre := by
  have hsame : ∀ c ∈ pre, (v.afterSteps steps).decideModifier value c =
      v.decideModifier value c := by
    intro c hc
    obtain ⟨d, hd⟩ := Option.ne_none_iff_exists'.mp (hpre c hc).decider?_ne_none
    rw [decideModifier_eq, decideModifier_eq, hd, decider?_afterSteps_of_some hd]
  constructor
  · intro c hc
    rw [Passes, hsame c hc]
    exact hpre c hc
  · rw [evaluations, evaluations, List.flatMap_def, List.flatMap_def]
    exact congrArg List.flatten (List.map_congr_left fun c hc => by rw [hsame c hc])

/-- What a call is answered with once a rule has taken over the modifier `c` that had no meaning:
`r` is the rule of the call, and `post` are the modifiers after `c`. -/
def takenOver (v : Validator) (p : Param) (r : ResolvedRule) (earlier : List Evaluation)
    (index : Nat) (rule : PartialRule) (c : Clause) (post : List Clause) : Report :=
  if rule.evaluate p.value c then
    ⟨(v.checkModifiers p.value post).1.outcome p.name r.definition.declared,
      earlier ++ ⟨index, c⟩ :: (v.checkModifiers p.value post).2⟩
  else
    ⟨.error (.validation p.name r.definition.declared), earlier ++ [⟨index, c⟩]⟩

/-- A modifier that had no meaning is decided, when its call is made again, by the first rule
registered since then whose pattern matches it.  Before it everything is as it was, and after it the
check goes on. -/
theorem answer_afterSteps_of_isMatch {steps : List SessionStep} {call : Call} {name text : String}
    {i : Nat} {rule : PartialRule}
    (h : (v.answer call).outcome = .error (.format name (.unknownModifier text)))
    (hrule : (registered steps)[i]? = some rule) (hmatch : rule.pattern.isMatch text = true)
    (hfirst : ∀ j r, j < i → (registered steps)[j]? = some r → r.pattern.isMatch text = false) :
    ∃ r pre c post, v.resolveRule call.rule = .ok r ∧
      r.definition.modifiers = pre ++ c :: post ∧ c.text = text ∧
      (v.afterSteps steps).decideModifier call.param.value c =
        (some (rule.evaluate call.param.value c), some ⟨v.partials.size + i, c⟩) ∧
      (v.afterSteps steps).answer call = (v.afterSteps steps).takenOver call.param r
        (v.answer call).ran (v.partials.size + i) rule c post := by
  obtain ⟨p, ruleText, ofClass⟩ := call
  obtain ⟨hclass, -, r, hr, htest, hvoid, htext⟩ := answer_eq_unknownModifier_iff.mp h
  dsimp only at hclass hr htest hvoid htext ⊢
  subst hclass
  obtain ⟨pre, c, post, hmods, hpre, hnone, rfl⟩ := checkModifiers_eq_unknown_iff.mp htext
  -- The modifiers before `c` have been passed, so the check gets to `c` again.
  have hnow : (v.answer ⟨p, ruleText, none⟩).ran = v.evaluations p.value pre := by
    have hc : ¬ v.Passes p.value c := fun hc => hc.decider?_ne_none hnone
    rw [answer, check_eq_of_resolveRule hr htest hvoid, hmods, checkModifiers_append hpre,
      checkModifiers_cons_of_not_passes hc, decideModifier_eq, hnone]
    simp
  have hdecider := decider?_afterSteps_of_isMatch hnone hrule hmatch hfirst
  have hdecide : (v.afterSteps steps).decideModifier p.value c =
      (some (rule.evaluate p.value c), some ⟨v.partials.size + i, c⟩) := by
    rw [decideModifier_eq, hdecider]
    rfl
  have hr' : (v.afterSteps steps).resolveRule ruleText = .ok r := by
    rw [← hr, resolveRule, resolveRule, afterSteps_eq]
  obtain ⟨hpre', hevals⟩ := passes_afterSteps steps hpre
  refine ⟨r, pre, c, post, hr, hmods, rfl, hdecide, ?_⟩
  rw [answer, check_eq_of_resolveRule hr' htest hvoid, hnow, hmods, checkModifiers_append hpre',
    hevals, takenOver]
  by_cases hpass : rule.evaluate p.value c = true
  · have hc : (v.afterSteps steps).Passes p.value c := by rw [Passes, hdecide, hpass]
    rw [checkModifiers_cons_of_passes hc, hdecide, if_pos hpass]
    rfl
  · have hc : ¬ (v.afterSteps steps).Passes p.value c := by simpa [Passes, hdecide] using hpass
    rw [checkModifiers_cons_of_not_passes hc, if_neg hpass, hdecide, hdecider]
    rfl

/-- The rules that a call evaluates stand where they are for the rest of a session. -/
theorem getElem?_afterSteps_of_mem_ran {steps : List SessionStep} {call : Call} {e : Evaluation}
    (h : e ∈ (v.answer call).ran) : ∃ rule, v.partials.rules[e.rule]? = some rule ∧
      (v.afterSteps steps).partials.rules[e.rule]? = some rule := by
  obtain ⟨rule, -, hget, -⟩ := exists_rule_of_mem_ran h
  obtain ⟨hlt, -⟩ := List.getElem?_eq_some_iff.mp hget
  refine ⟨rule, hget, ?_⟩
  rw [afterSteps_eq, List.getElem?_append_left hlt]
  exact hget

/-- Registration is conservative.  Whatever a session does later, a call that reports no unknown
modifier keeps its answer, and the positions of the rules that it evaluates keep their rules.  A
call that reports an unknown modifier keeps its answer as well, unless a rule registered later has a
pattern that matches the modifier; then the first such rule decides it. -/
theorem answer_afterwards (v : Validator) (earlier later : List SessionStep) (call : Call) :
    ((∀ name text, ((v.afterSteps earlier).answer call).outcome ≠
        .error (.format name (.unknownModifier text))) →
      (v.afterSteps (earlier ++ later)).answer call = (v.afterSteps earlier).answer call) ∧
    (∀ e ∈ ((v.afterSteps earlier).answer call).ran, ∃ rule,
      (v.afterSteps earlier).partials.rules[e.rule]? = some rule ∧
      (v.afterSteps (earlier ++ later)).partials.rules[e.rule]? = some rule) ∧
    ∀ name text, ((v.afterSteps earlier).answer call).outcome =
        .error (.format name (.unknownModifier text)) →
      ((∀ rule ∈ registered later, rule.pattern.isMatch text = false) →
        (v.afterSteps (earlier ++ later)).answer call = (v.afterSteps earlier).answer call) ∧
      ∀ i rule, (registered later)[i]? = some rule → rule.pattern.isMatch text = true →
        (∀ j r, j < i → (registered later)[j]? = some r → r.pattern.isMatch text = false) →
        ∃ r pre c post, (v.afterSteps earlier).resolveRule call.rule = .ok r ∧
          r.definition.modifiers = pre ++ c :: post ∧ c.text = text ∧
          (v.afterSteps (earlier ++ later)).decideModifier call.param.value c =
            (some (rule.evaluate call.param.value c),
              some ⟨(v.afterSteps earlier).partials.size + i, c⟩) ∧
          (v.afterSteps (earlier ++ later)).answer call =
            (v.afterSteps (earlier ++ later)).takenOver call.param r
              ((v.afterSteps earlier).answer call).ran
              ((v.afterSteps earlier).partials.size + i) rule c post := by
  rw [afterSteps_append]
  refine ⟨answer_afterSteps_of_known, fun e he => getElem?_afterSteps_of_mem_ran he, ?_⟩
  intro name text h
  refine ⟨answer_afterSteps_of_not_isMatch h, fun i rule hrule hmatch hfirst => ?_⟩
  exact answer_afterSteps_of_isMatch h hrule hmatch hfirst

/-- A clause that no rule was for is decided by a rule for it that is registered. -/
theorem answer_afterwards_less_than :
    ∃ r pre c post, (ofRules .sensitive [⟨"any value", fun _ => true⟩] []).resolveRule
        "any value, less than 5" = .ok r ∧
      r.definition.modifiers = pre ++ c :: post ∧ c.text = "less than 5" ∧
      ((ofRules .sensitive [⟨"any value", fun _ => true⟩] []).afterSteps
        [.register (.ofPattern Grammar.lessThan fun _ _ => true)]).decideModifier .null c =
          (some true, some ⟨0, c⟩) := by
  obtain ⟨-, -, hunknown⟩ := answer_afterwards
    (ofRules .sensitive [⟨"any value", fun _ => true⟩] []) []
    [.register (.ofPattern Grammar.lessThan fun _ _ => true)]
    ⟨⟨"x", .null⟩, "any value, less than 5", none⟩
  obtain ⟨r, pre, c, post, hr, hmods, htext, hdecide, -⟩ := (hunknown "x" "less than 5" rfl).2 0
    (.ofPattern Grammar.lessThan fun _ _ => true) rfl (by decide +kernel) nofun
  exact ⟨r, pre, c, post, hr, hmods, htext, hdecide⟩

end Validator

end Clausal
