import Clausal.Proofs.Validator.Stages

/-!
# Rules with several modifiers

A rule with several modifiers is determined by the rules that have the same type text and one of the
modifiers each.  `Outcome.combined` says how: a regular expression that cannot be read counts most,
then a missing class, and otherwise the first outcome that is no success.  The main statement is
`Validator.validate_joined`.
-/

namespace Clausal

namespace Outcome

/-- Whether a regular expression of the rule cannot be read. -/
def isInvalidPattern : Outcome → Bool
  | .error (.format _ (.invalidPattern _ _)) => true
  | _ => false

/-- Whether the rule contains the token for a class without there being one. -/
def isMissingClass : Outcome → Bool
  | .error (.format _ (.missingClassReference _)) => true
  | _ => false

/-- The outcome with other clauses listed, if it lists clauses. -/
def withRules (rules : List String) : Outcome → Outcome
  | .error (.validation name _) => .error (.validation name rules)
  | o => o

/-- The outcome for a parameter of some name and a rule with certain clauses, from those for its
modifiers one by one. -/
def combined (name rule : String) (rules : List String) (outcomes : List Outcome) : Outcome :=
  match outcomes.find? isInvalidPattern with
  | some o => o
  | none =>
    if outcomes.any isMissingClass then .error (.format name (.missingClassReference rule))
    else
      match outcomes.find? fun o => !o.isOk with
      | some o => o.withRules rules
      | none => .ok ()

variable {name rule : String} {rules : List String} {o : Outcome} {pre post os : List Outcome}

theorem find?_isInvalidPattern_eq_none (h : ∀ x ∈ os, x.isInvalidPattern = false) :
    os.find? isInvalidPattern = none :=
  List.find?_eq_none.mpr fun x hx => by simp [h x hx]

theorem find?_not_isOk_eq_none (h : ∀ x ∈ os, x = .ok ()) : (os.find? fun o => !o.isOk) = none :=
  List.find?_eq_none.mpr fun x hx => by simp [h x hx, Except.isOk, Except.toBool]

/-- The first expression that cannot be read decides, whatever came before it. -/
theorem combined_of_isInvalidPattern (hpre : ∀ x ∈ pre, x.isInvalidPattern = false)
    (ho : o.isInvalidPattern = true) : combined name rule rules (pre ++ o :: post) = o := by
  rw [combined, List.find?_append, find?_isInvalidPattern_eq_none hpre, Option.none_or,
    List.find?_cons_of_pos ho]

/-- A missing class decides if all expressions can be read. -/
theorem combined_of_isMissingClass (hread : ∀ x ∈ os, x.isInvalidPattern = false)
    (hmem : o ∈ os) (ho : o.isMissingClass = true) :
    combined name rule rules os = .error (.format name (.missingClassReference rule)) := by
  rw [combined, find?_isInvalidPattern_eq_none hread]
  exact if_pos (List.any_eq_true.mpr ⟨o, hmem, ho⟩)

/-- Otherwise the first outcome decides that is no success. -/
theorem combined_of_first (hread : ∀ x ∈ pre ++ o :: post, x.isInvalidPattern = false)
    (hclass : ∀ x ∈ pre ++ o :: post, x.isMissingClass = false)
    (hpre : ∀ x ∈ pre, x = .ok ()) (ho : o.isOk = false) :
    combined name rule rules (pre ++ o :: post) = o.withRules rules := by
  have hnone : (pre ++ o :: post).any isMissingClass = false :=
    List.any_eq_false.mpr fun x hx => by simp [hclass x hx]
  have hfirst : (pre ++ o :: post).find? (fun o => !o.isOk) = some o := by
    rw [List.find?_append, find?_not_isOk_eq_none hpre, Option.none_or]
    exact List.find?_cons_of_pos (by simp [ho])
  simp only [combined, find?_isInvalidPattern_eq_none hread, hnone, hfirst, Bool.false_eq_true,
    if_false]

theorem combined_of_forall_eq (hne : os ≠ []) (h : ∀ x ∈ os, x = o)
    (hread : o.isInvalidPattern = false) (hclass : o.isMissingClass = false)
    (ho : o.isOk = false) : combined name rule rules os = o.withRules rules := by
  obtain ⟨x, post, rfl⟩ := List.exists_cons_of_ne_nil hne
  obtain ⟨rfl, hpost⟩ := List.forall_mem_cons.mp h
  rw [← List.nil_append (x :: post)]
  refine combined_of_first ?_ ?_ (by simp) ho
  · intro y hy
    rw [h y hy, hread]
  · intro y hy
    rw [h y hy, hclass]

theorem combined_of_forall_ok (h : ∀ x ∈ os, x = .ok ()) :
    combined name rule rules os = .ok () := by
  have hread : ∀ x ∈ os, x.isInvalidPattern = false := fun x hx => by rw [h x hx]; rfl
  have hnone : os.any isMissingClass = false :=
    List.any_eq_false.mpr fun x hx => by simp [h x hx, isMissingClass]
  simp only [combined, find?_isInvalidPattern_eq_none hread, hnone, find?_not_isOk_eq_none h,
    Bool.false_eq_true, if_false]

theorem all_isOk_of_mem (hmem : o ∈ os) (ho : o.isOk = false) : os.all Except.isOk = false :=
  List.all_eq_false.mpr ⟨o, hmem, by simp [ho]⟩

theorem isOk_of_isInvalidPattern_or (h : o.isInvalidPattern = true ∨ o.isMissingClass = true) :
    o.isOk = false := by
  cases o with
  | error _ => rfl
  | ok _ => rcases h with h | h <;> cases h

@[simp] theorem isOk_withRules : (o.withRules rules).isOk = o.isOk := by
  rcases o with (_ | _) | _ <;> rfl

theorem isOk_combined : (combined name rule rules os).isOk = os.all Except.isOk := by
  cases hinvalid : os.find? isInvalidPattern with
  | some o =>
    have ho : o.isOk = false := isOk_of_isInvalidPattern_or (.inl (List.find?_some hinvalid))
    rw [combined, hinvalid, all_isOk_of_mem (List.mem_of_find?_eq_some hinvalid) ho]
    exact ho
  | none =>
    rw [combined, hinvalid]
    cases hclass : os.any isMissingClass with
    | true =>
      obtain ⟨o, hmem, hmissing⟩ := List.any_eq_true.mp hclass
      exact (all_isOk_of_mem hmem (isOk_of_isInvalidPattern_or (.inr hmissing))).symm
    | false =>
      cases hfirst : os.find? fun o => !o.isOk with
      | some o =>
        have ho : o.isOk = false := by simpa using List.find?_some hfirst
        rw [all_isOk_of_mem (List.mem_of_find?_eq_some hfirst) ho]
        exact isOk_withRules.trans ho
      | none =>
        have hall := List.find?_eq_none.mp hfirst
        exact (List.all_eq_true.mpr fun o ho => by simpa using hall o ho).symm

end Outcome

namespace Validator

open RuleDefinition

variable {v : Validator} {p : Param} {type m : String} {ms : List String}

/-- A rule with a modifier that cannot be read fails for the first such modifier. -/
theorem validate_joined_of_error {pre post : List String} {e : ClauseError}
    (h : Joinable type (pre ++ m :: post)) (hpre : ∀ x ∈ pre, Clause.parse x = .ok (.ofText x))
    (hm : Clause.parse m = .error e) :
    v.validate p (joined type (pre ++ m :: post)) =
      .error (.format p.name (.invalidPattern e.clause e.cause.message)) := by
  have hparse : parse (joined type (pre ++ m :: post)) = .error e := by
    rw [parse_joined h, mapM_parse_of_error hpre hm]
    rfl
  exact validate_of_parse_error hparse

/-- Whether a word of a clause stands for a class. -/
def namesClass (c : Clause) : Bool := (words c.text).contains placeholder

/-- A rule all of whose modifiers can be read is understood from its type text, but for the tokens
that stand for a class. -/
theorem resolveRule_joined (h : Joinable type ms)
    (hread : ∀ x ∈ ms, Clause.parse x = .ok (.ofText x)) :
    v.resolveRule (joined type ms) =
      if namesClass (.ofType (typeText type)) || ms.any (fun x => namesClass (.ofText x)) then
        .error (.missingClassReference (joined type ms))
      else
        match v.whole.resolve? (trim (typeText type)) with
        | none => .error (.unknownType (trim (typeText type)))
        | some typeRule =>
          .ok ⟨⟨Clause.ofType (typeText type), ms.map .ofText⟩, typeRule⟩ := by
  have hparse : parse (joined type ms) =
      .ok ⟨Clause.ofType (typeText type), ms.map .ofText⟩ := by
    rw [parse_joined h, mapM_parse_of_forall_ok hread]
    rfl
  have hplaceholder : hasPlaceholder ⟨Clause.ofType (typeText type), ms.map .ofText⟩ =
      (namesClass (.ofType (typeText type)) || ms.any fun x => namesClass (.ofText x)) := by
    simp [hasPlaceholder, clauses, namesClass, Function.comp_def]
  rw [resolveRule, hparse]
  dsimp only
  rw [hplaceholder]
  rfl

/-- Holding a value against a rule never finds fault with an expression or a missing class. -/
theorem isInvalidPattern_checkValue (r : ResolvedRule) :
    (v.checkValue p r).outcome.isInvalidPattern = false ∧
      (v.checkValue p r).outcome.isMissingClass = false := by
  rcases outcome_checkValue_cases v p r with h | h | ⟨text, h⟩
  · exact h ▸ ⟨rfl, rfl⟩
  · exact h ▸ ⟨rfl, rfl⟩
  · exact h ▸ ⟨rfl, rfl⟩

/-- A rule that can be read comes out in one of three ways: without the class that it names, without
a type, or as the value makes it. -/
theorem validate_joined_of_forall_read (h : Joinable type ms)
    (hread : ∀ x ∈ ms, Clause.parse x = .ok (.ofText x)) :
    v.validate p (joined type ms) =
      if namesClass (.ofType (typeText type)) || ms.any (fun x => namesClass (.ofText x)) then
        .error (.format p.name (.missingClassReference (joined type ms)))
      else
        match v.whole.resolve? (trim (typeText type)) with
        | none => .error (.format p.name (.unknownType (trim (typeText type))))
        | some typeRule =>
          (v.checkValue p ⟨⟨Clause.ofType (typeText type), ms.map .ofText⟩, typeRule⟩).outcome := by
  rw [validate, check_eq, resolveRule_joined h hread]
  cases (namesClass (.ofType (typeText type)) || ms.any fun x => namesClass (.ofText x)) with
  | true => rfl
  | false => cases v.whole.resolve? (trim (typeText type)) <;> rfl

/-- The outcome of holding a value against one modifier of a rule alone. -/
def checkOne (v : Validator) (p : Param) (typeClause : Clause) (typeRule : WholeRule)
    (m : String) : Outcome :=
  (v.checkValue p ⟨⟨typeClause, [.ofText m]⟩, typeRule⟩).outcome

/-- Of modifiers that are held against a value one by one the first decides that is no success. -/
theorem combined_checkOne_of_first {pre post rules : List String} {typeClause : Clause}
    {typeRule : WholeRule} {rule : String}
    (hpre : ∀ x ∈ pre, v.checkOne p typeClause typeRule x = .ok ())
    (hm : (v.checkOne p typeClause typeRule m).isOk = false) :
    Outcome.combined p.name rule rules
        ((pre ++ m :: post).map (v.checkOne p typeClause typeRule)) =
      (v.checkOne p typeClause typeRule m).withRules rules := by
  have hkinds : ∀ o ∈ pre.map (v.checkOne p typeClause typeRule) ++
      v.checkOne p typeClause typeRule m :: post.map (v.checkOne p typeClause typeRule),
      o.isInvalidPattern = false ∧ o.isMissingClass = false := by
    intro o ho
    rw [← List.map_cons, ← List.map_append] at ho
    obtain ⟨x, -, rfl⟩ := List.mem_map.mp ho
    exact isInvalidPattern_checkValue _
  rw [List.map_append, List.map_cons]
  refine Outcome.combined_of_first (fun o ho => (hkinds o ho).1) (fun o ho => (hkinds o ho).2) ?_ hm
  intro o ho
  obtain ⟨x, hx, rfl⟩ := List.mem_map.mp ho
  exact hpre x hx

/-- A value that is not of the type breaks the rule with all modifiers as it does with each. -/
theorem combined_checkOne_of_not_test {typeClause : Clause} {typeRule : WholeRule} {rule : String}
    (hne : ms ≠ []) (htest : typeRule.test p.value = false) :
    Outcome.combined p.name rule (typeClause.text :: ms.map trim)
        (ms.map (v.checkOne p typeClause typeRule)) =
      .error (.validation p.name (typeClause.text :: ms.map trim)) := by
  have hone (m : String) : v.checkOne p typeClause typeRule m = .error (.validation p.name
      (RuleDefinition.mk typeClause [.ofText m]).declared) := by
    rw [checkOne, checkValue_of_not_test (r := ⟨⟨typeClause, _⟩, typeRule⟩) htest]
  obtain ⟨m, ms, rfl⟩ := List.exists_cons_of_ne_nil hne
  rw [← List.nil_append (m :: ms), combined_checkOne_of_first (by simp) (by rw [hone]; rfl), hone]
  rfl

/-- A value that was not supplied passes with all modifiers as it does with each. -/
theorem combined_checkOne_of_isVoid {typeClause : Clause} {typeRule : WholeRule} {rule : String}
    {rules : List String} (htest : typeRule.test p.value = true) (hvoid : p.value.isVoid = true) :
    Outcome.combined p.name rule rules (ms.map (v.checkOne p typeClause typeRule)) = .ok () := by
  refine Outcome.combined_of_forall_ok (List.forall_mem_map.mpr fun m _ => ?_)
  rw [checkOne, checkValue_of_isVoid (r := ⟨⟨typeClause, _⟩, typeRule⟩) htest hvoid]

/-- For any other value the first modifier decides that does not pass. -/
theorem combined_checkOne_of_supplied {typeClause : Clause} {typeRule : WholeRule} {rule : String}
    (htest : typeRule.test p.value = true) (hvoid : p.value.isVoid = false) :
    Outcome.combined p.name rule (typeClause.text :: ms.map trim)
        (ms.map (v.checkOne p typeClause typeRule)) =
      (v.checkModifiers p.value (ms.map .ofText)).1.outcome p.name
        (typeClause.text :: ms.map trim) := by
  have hone (m : String) : v.checkOne p typeClause typeRule m =
      (v.checkModifiers p.value [.ofText m]).1.outcome p.name
        (RuleDefinition.mk typeClause [.ofText m]).declared := by
    rw [checkOne, checkValue_of_supplied (r := ⟨⟨typeClause, _⟩, typeRule⟩) htest hvoid]
  have hpass {m : String} (hm : v.Passes p.value (.ofText m)) :
      v.checkOne p typeClause typeRule m = .ok () := by
    rw [hone, checkModifiers_eq_passed_iff.mpr (by simpa using hm)]
    rfl
  -- The first modifier that does not pass is the first one that fails alone.
  rcases forall_or_exists_first (fun m => v.Passes p.value (.ofText m)) ms with
    hall | ⟨pre, m, post, rfl, hpre, hm⟩
  · rw [checkModifiers_eq_passed_iff.mpr (by simpa using hall),
      Outcome.combined_of_forall_ok (List.forall_mem_map.mpr fun m hm => hpass (hall m hm))]
    rfl
  · have hclauses : (pre ++ m :: post).map Clause.ofText =
        pre.map .ofText ++ .ofText m :: post.map .ofText := by simp
    have hfails : (v.checkOne p typeClause typeRule m).isOk = false := by
      rw [hone, checkModifiers_cons_of_not_passes hm]
      split <;> rfl
    rw [combined_checkOne_of_first (fun x hx => hpass (hpre x hx)) hfails, hone, hclauses,
      checkModifiers_append (by simpa using hpre), checkModifiers_cons_of_not_passes hm,
      checkModifiers_cons_of_not_passes hm]
    split <;> rfl

/-- Held against a value, modifiers come out as they do one by one. -/
theorem outcome_checkValue (typeClause : Clause) (typeRule : WholeRule) (hne : ms ≠ [])
    (rule : String) :
    (v.checkValue p ⟨⟨typeClause, ms.map .ofText⟩, typeRule⟩).outcome =
      Outcome.combined p.name rule (typeClause.text :: ms.map trim)
        (ms.map (v.checkOne p typeClause typeRule)) := by
  have hdeclared := declared_mk_ofText typeClause ms
  cases htest : typeRule.test p.value with
  | false =>
    rw [checkValue_of_not_test (r := ⟨⟨typeClause, _⟩, typeRule⟩) htest, hdeclared,
      combined_checkOne_of_not_test hne htest]
  | true =>
    cases hvoid : p.value.isVoid with
    | true =>
      rw [checkValue_of_isVoid (r := ⟨⟨typeClause, _⟩, typeRule⟩) htest hvoid,
        combined_checkOne_of_isVoid htest hvoid]
    | false =>
      rw [checkValue_of_supplied (r := ⟨⟨typeClause, _⟩, typeRule⟩) htest hvoid, hdeclared,
        combined_checkOne_of_supplied htest hvoid]

/-- A rule with one modifier that can be read never finds fault with an expression. -/
theorem isInvalidPattern_validate_joined (h : Joinable type [m])
    (hread : Clause.parse m = .ok (.ofText m)) :
    (v.validate p (joined type [m])).isInvalidPattern = false := by
  rw [validate_joined_of_forall_read h (by simpa using hread)]
  split
  · rfl
  · cases v.whole.resolve? (trim (typeText type)) with
    | none => rfl
    | some typeRule => exact (isInvalidPattern_checkValue _).1

/-- Modifiers that can be read come out together as they do one by one. -/
theorem validate_joined_eq_combined_of_forall_read (h : Joinable type ms)
    (hread : ∀ x ∈ ms, Clause.parse x = .ok (.ofText x)) :
    v.validate p (joined type ms) =
      Outcome.combined p.name (joined type ms) (trim (typeText type) :: ms.map trim)
        (ms.map fun m => v.validate p (joined type [m])) := by
  have hone {m : String} (hm : m ∈ ms) :=
    validate_joined_of_forall_read (v := v) (p := p) (h.singleton hm)
      (by simpa using hread m hm)
  rw [validate_joined_of_forall_read h hread]
  by_cases hclass : (namesClass (.ofType (typeText type)) ||
      ms.any fun x => namesClass (.ofText x)) = true
  · -- The token of one modifier, or that of the type, is missing its class there as well.
    have htoken : ∃ m ∈ ms, (namesClass (.ofType (typeText type)) ||
        [m].any fun x => namesClass (.ofText x)) = true := by
      rcases Bool.or_eq_true_iff.mp hclass with htype | hmodifier
      · obtain ⟨m, hm⟩ := List.exists_mem_of_ne_nil ms h.ne_nil
        exact ⟨m, hm, by simp [htype]⟩
      · obtain ⟨m, hm, htoken⟩ := List.any_eq_true.mp hmodifier
        exact ⟨m, hm, by simp [htoken]⟩
    obtain ⟨m, hm, htoken⟩ := htoken
    rw [if_pos hclass, Outcome.combined_of_isMissingClass ?_ (List.mem_map_of_mem hm)]
    · rw [hone hm, if_pos htoken]
      rfl
    · intro o ho
      obtain ⟨x, hx, rfl⟩ := List.mem_map.mp ho
      exact isInvalidPattern_validate_joined (h.singleton hx) (hread x hx)
  · obtain ⟨htype, hmodifiers⟩ := Bool.or_eq_false_iff.mp (Bool.eq_false_iff.mpr hclass)
    have htoken {m : String} (hm : m ∈ ms) : ¬(namesClass (.ofType (typeText type)) ||
        [m].any fun x => namesClass (.ofText x)) = true := by
      have := List.any_eq_false.mp hmodifiers m hm
      simp [htype, this]
    rw [if_neg hclass]
    cases hresolve : v.whole.resolve? (trim (typeText type)) with
    | none =>
      -- An unknown type is unknown in each of the rules.
      have hunknown {m : String} (hm : m ∈ ms) : v.validate p (joined type [m]) =
          .error (.format p.name (.unknownType (trim (typeText type)))) := by
        rw [hone hm, if_neg (htoken hm), hresolve]
      rw [Outcome.combined_of_forall_eq (mt List.map_eq_nil_iff.mp h.ne_nil)
        (List.forall_mem_map.mpr fun m hm => hunknown hm) rfl rfl rfl]
      rfl
    | some typeRule =>
      have hcheck {m : String} (hm : m ∈ ms) : v.validate p (joined type [m]) =
          v.checkOne p (.ofType (typeText type)) typeRule m := by
        rw [hone hm, if_neg (htoken hm), hresolve]
        rfl
      rw [List.map_congr_left fun m hm => hcheck hm]
      exact outcome_checkValue _ typeRule h.ne_nil _

/-- A rule with several modifiers comes out as its modifiers one by one make it. -/
theorem validate_joined_eq_combined (v : Validator) (p : Param) (h : Joinable type ms) :
    v.validate p (joined type ms) =
      Outcome.combined p.name (joined type ms) (trim (typeText type) :: ms.map trim)
        (ms.map fun m => v.validate p (joined type [m])) := by
  rcases forall_parse_or_exists_error ms with hread | ⟨pre, m, post, e, rfl, hpre, hm⟩
  · exact validate_joined_eq_combined_of_forall_read h hread
  -- The modifiers before `m` can be read, so theirs is not the first such failure.
  · have hsingles : (pre ++ m :: post).map (fun m => v.validate p (joined type [m])) =
        pre.map (fun m => v.validate p (joined type [m])) ++
          .error (.format p.name (.invalidPattern e.clause e.cause.message)) ::
            post.map fun m => v.validate p (joined type [m]) := by
      rw [List.map_append, List.map_cons, ← List.nil_append [m],
        validate_joined_of_error (h.singleton (by simp)) (by simp) hm]
    rw [validate_joined_of_error h hpre hm, hsingles, Outcome.combined_of_isInvalidPattern]
    · intro o ho
      obtain ⟨x, hx, rfl⟩ := List.mem_map.mp ho
      exact isInvalidPattern_validate_joined (h.singleton (by simp [hx])) (hpre x hx)
    · rfl

/-- Modifiers that occur in each other's rules, in whatever order and however often, are satisfied
by the same values. -/
theorem isOk_validate_joined_congr {ms ms' : List String} (h : Joinable type ms)
    (h' : Joinable type ms') (hmem : ∀ m, m ∈ ms' ↔ m ∈ ms) :
    (v.validate p (joined type ms')).isOk = (v.validate p (joined type ms)).isOk := by
  rw [validate_joined_eq_combined v p h, validate_joined_eq_combined v p h',
    Outcome.isOk_combined, Outcome.isOk_combined, Bool.eq_iff_iff]
  simp only [List.all_eq_true, List.forall_mem_map, hmem]

/-- A rule of a type text and modifiers, none of which contains a comma, comes out as the rules with
one of the modifiers each make it, for every validator and every value; the clauses that a failure
lists are all of them.  So whether the value satisfies the rule does not depend on the order of the
modifiers and on how often they occur. -/
theorem validate_joined (v : Validator) (p : Param) (type : String) (ms : List String)
    (hne : ms ≠ []) (htype : ',' ∉ type.toList) (hms : ∀ m ∈ ms, ',' ∉ m.toList) :
    v.validate p (joined type ms) =
        Outcome.combined p.name (joined type ms) (trim (typeText type) :: ms.map trim)
          (ms.map fun m => v.validate p (joined type [m])) ∧
      (∀ d, parse (joined type ms) = .ok d →
        d.declared = trim (typeText type) :: ms.map trim) ∧
      ∀ ms', ms' ≠ [] → (∀ m, m ∈ ms' ↔ m ∈ ms) →
        (v.validate p (joined type ms')).isOk = (v.validate p (joined type ms)).isOk := by
  refine ⟨validate_joined_eq_combined v p ⟨hne, htype, hms⟩,
    fun d hd => declared_of_parse_joined ⟨hne, htype, hms⟩ hd, fun ms' hne' hmem => ?_⟩
  exact isOk_validate_joined_congr ⟨hne, htype, hms⟩
    ⟨hne', htype, fun m hm => hms m ((hmem m).mp hm)⟩ hmem

/-- Of two modifiers the second is unknown, and the rule fails as it does with that one alone. -/
theorem validate_joined_unknown_second :
    (Validator.ofRules .sensitive [⟨"any value", fun _ => true⟩] []).validate ⟨"x", .null⟩
        (joined "as any value " [" any value", " tall "]) =
      .error (.format "x" (.unknownModifier "tall")) :=
  (validate_joined _ _ _ _ (List.cons_ne_nil _ _) (by decide) (by decide)).1.trans rfl

end Validator

end Clausal
