import Clausal.Proofs.Builtin.PhraseCase
import Clausal.Proofs.Validator.Composition
import Clausal.Proofs.Validator.NormalForm

/-!
# Phrases for values that may be missing

A rule that begins with a phrase for a type consists of the phrase and a tail; the clauses of the
tail do not depend on the phrase (`RuleDefinition.parse_append`).  So two phrases with one tail
differ only in their tests, and the phrase for values of a kind that may be missing differs from
the one for values of the kind only if nothing was supplied
(`Validator.validate_optionalPhrase`).

## Main definitions

- `RuleDefinition.IsFirstClause`: a text that is the first clause of the rules that it begins
- `RuleDefinition.IsTail`: what can come after the first clause
- `Outcome.listingFirst`: the same outcome with another clause listed first
- `Validator.Opens`: a phrase that has a rule is the first clause of the rules that it begins
-/

namespace Clausal

/-- The same outcome with another clause listed first, if it lists any. -/
def Outcome.listingFirst (clause : String) : Outcome → Outcome
  | .error (.validation name (_ :: rest)) => .error (.validation name (clause :: rest))
  | o => o

namespace RuleDefinition

variable {phrase tail : String}

/-- A text is the first clause of the rules that it begins: reading takes nothing away from it, and
it names no class. -/
structure IsFirstClause (phrase : String) : Prop where
  trim_eq : trim phrase = phrase
  comma_not_mem : ',' ∉ phrase.toList
  not_as : ¬ "as ".toList <+: phrase.toList
  namesClass : Validator.namesClass (Clause.ofType phrase) = false

/-- What can come after the first clause: nothing, or a comma and the modifiers. -/
def IsTail (tail : String) : Prop :=
  tail = "" ∨ ∃ rest, tail = "," ++ rest

/-- The parts of a tail. -/
def tailParts (tail : String) : List String :=
  match tail.toList with
  | ',' :: rest => (allParts (Blank.trimRight rest)).map String.ofList
  | _ => []

theorem parts_append (h : IsFirstClause phrase) (htail : IsTail tail) :
    parts (phrase ++ tail) = (phrase, tailParts tail) := by
  have hdrop : dropAs phrase.toList = phrase.toList :=
    dropAs_of_forall_ne fun rest hrest => h.not_as ⟨rest, hrest.symm⟩
  rcases htail with rfl | ⟨rest, rfl⟩
  · rw [String.append_empty, parts, h.trim_eq, hdrop, splitCommas_of_not_mem h.comma_not_mem]
    dsimp only
    rw [String.ofList_toList]
    rfl
  · have htext : (phrase ++ ("," ++ rest)).toList = phrase.toList ++ ',' :: rest.toList := by
      simp
    have hleft : Blank.trimLeft phrase.toList = phrase.toList :=
      Blank.trimLeft_eq_self_iff.mpr (trim_eq_self_iff.mp h.trim_eq).head
    have htrim : (trim (phrase ++ ("," ++ rest))).toList =
        phrase.toList ++ ',' :: Blank.trimRight rest.toList := by
      rw [toList_trim, htext, Blank.trimChars, Blank.trimLeft_append_cons isBlank_comma, hleft,
        Blank.trimRight_append_cons isBlank_comma]
    have htailParts : tailParts ("," ++ rest) =
        (allParts (Blank.trimRight rest.toList)).map String.ofList := by
      rw [tailParts, String.toList_append]
      rfl
    rw [parts, htrim, dropAs_append_comma, hdrop, splitCommas_append_comma h.comma_not_mem,
      htailParts]
    dsimp only
    rw [String.ofList_toList]

theorem parse_append (h : IsFirstClause phrase) (htail : IsTail tail) :
    parse (phrase ++ tail) = ((tailParts tail).mapM Clause.parse).map
      (RuleDefinition.mk (Clause.ofType phrase)) := by
  rw [parse_eq, parts_append h htail]

end RuleDefinition

namespace Builtin

variable {article : String} {kind : Primitive} {rule : WholeRule}

theorem isFirstClause_phrase (h : rule ∈ phrases) : RuleDefinition.IsFirstClause rule.phrase := by
  have hall : ∀ phrase ∈ phrases.map (·.phrase), trim phrase = phrase ∧ ',' ∉ phrase.toList ∧
      ¬ "as ".toList <+: phrase.toList ∧ Validator.namesClass (Clause.ofType phrase) = false := by
    decide +kernel
  obtain ⟨htrim, hcomma, has, hclass⟩ := hall _ (List.mem_map_of_mem h)
  exact ⟨htrim, hcomma, has, hclass⟩

theorem requiredPhrase_mem_phrases (h : (article, kind) ∈ kinds) :
    requiredPhrase article kind ∈ phrases := by
  refine List.mem_append_left _ (List.mem_flatMap.mpr ⟨(article, kind), h, ?_⟩)
  exact List.mem_cons_of_mem _ List.mem_cons_self

theorem optionalPhrase_mem_phrases (h : (article, kind) ∈ kinds) :
    optionalPhrase kind ∈ phrases := by
  refine List.mem_append_left _ (List.mem_flatMap.mpr ⟨(article, kind), h, ?_⟩)
  exact List.mem_cons_self

theorem test_void_of_mem_kinds (h : (article, kind) ∈ kinds) : kind.test .void = false := by
  have hall : ∀ kind ∈ kinds.map (·.2), kind.test .void = false := by decide
  exact hall kind (List.mem_map_of_mem (f := Prod.snd) h)

theorem test_optionalPhrase (kind : Primitive) {value : Value} (h : value.isVoid = false) :
    (optionalPhrase kind).test value = kind.test value := by
  cases value with
  | void => cases h
  | _ => rfl

end Builtin

namespace Validator

variable {v : Validator} {p : Param} {phrase tail : String} {rule : WholeRule}

theorem exists_whole_of_ofConfig {c : Config} (h : ofConfig c = .ok v) :
    ∃ case, v.whole = (WholeRegistry.empty case).insertAll Builtin.phrases := by
  obtain ⟨bound, -, rfl⟩ := ofConfig_eq_ok_iff.mp h
  exact ⟨c.phraseCase, whole_ofRules _ _ _⟩

theorem Configured.exists_whole (h : v.Configured) :
    ∃ case, v.whole = (WholeRegistry.empty case).insertAll Builtin.phrases := by
  cases h with
  | standard => exact exists_whole_of_ofConfig ofConfig_empty
  | ofConfig h => exact exists_whole_of_ofConfig h
  | ofToml h =>
    obtain ⟨c, w, patterns, -, hw, -, rfl⟩ := exists_of_ofToml h
    obtain ⟨case, hwhole⟩ := exists_whole_of_ofConfig hw
    rw [registerAll_eq]
    exact ⟨case, hwhole⟩

/-- With a type clause that holds of the same supplied values, only the first clause that a failure
lists is another one. -/
theorem outcome_checkValue_of_test_eq {first second : Clause} {ms : List Clause}
    {firstRule secondRule : WholeRule} (hsupplied : p.value.isVoid = false)
    (htest : secondRule.test p.value = firstRule.test p.value) :
    (v.checkValue p ⟨⟨second, ms⟩, secondRule⟩).outcome =
      (v.checkValue p ⟨⟨first, ms⟩, firstRule⟩).outcome.listingFirst second.text := by
  cases hfirst : firstRule.test p.value with
  | false =>
    rw [checkValue_of_not_test (htest.trans hfirst), checkValue_of_not_test hfirst]
    rfl
  | true =>
    rw [checkValue_of_supplied (htest.trans hfirst) hsupplied,
      checkValue_of_supplied hfirst hsupplied]
    dsimp only
    cases (v.checkModifiers p.value ms).1 <;> rfl

/-- A phrase has a rule, and it is the first clause of the rules that it begins. -/
structure Opens (v : Validator) (phrase : String) (rule : WholeRule) : Prop where
  isFirstClause : RuleDefinition.IsFirstClause phrase
  resolve?_eq : v.whole.resolve? phrase = some rule

theorem Configured.opens (h : v.Configured) (hrule : rule ∈ Builtin.phrases) :
    v.Opens rule.phrase rule := by
  obtain ⟨case, hwhole⟩ := h.exists_whole
  refine ⟨Builtin.isFirstClause_phrase hrule, ?_⟩
  rw [hwhole, WholeRegistry.resolve?_insertAll_empty_eq_some_iff (Builtin.nodup_phrase_keys case)]
  exact ⟨hrule, rfl⟩

namespace Opens

variable {first second : String} {firstRule secondRule : WholeRule}

/-- A rule that begins with a phrase comes out as its tail makes it, until the value is held against
the type. -/
theorem validate_append (h : v.Opens phrase rule) (htail : RuleDefinition.IsTail tail) (p : Param) :
    v.validate p (phrase ++ tail) =
      match (RuleDefinition.tailParts tail).mapM Clause.parse with
      | .error e => .error (.format p.name (.invalidPattern e.clause e.cause.message))
      | .ok ms =>
        if ms.any namesClass then .error (.format p.name (.missingClassReference (phrase ++ tail)))
        else (v.checkValue p ⟨⟨Clause.ofType phrase, ms⟩, rule⟩).outcome := by
  have hparse := RuleDefinition.parse_append h.isFirstClause htail
  cases hms : (RuleDefinition.tailParts tail).mapM Clause.parse with
  | error e =>
    rw [hms] at hparse
    exact validate_of_parse_error hparse
  | ok ms =>
    rw [hms] at hparse
    have hread : RuleDefinition.parse (phrase ++ tail) = .ok ⟨Clause.ofType phrase, ms⟩ := hparse
    have hplaceholder : RuleDefinition.hasPlaceholder ⟨Clause.ofType phrase, ms⟩ =
        ms.any namesClass := by
      change (namesClass (Clause.ofType phrase) || ms.any namesClass) = ms.any namesClass
      rw [h.isFirstClause.namesClass, Bool.false_or]
    have htext : (Clause.ofType phrase).text = phrase := h.isFirstClause.trim_eq
    rw [validate, check_eq, resolveRule, hread]
    dsimp only
    rw [hplaceholder, htext, h.resolve?_eq]
    cases ms.any namesClass <;> rfl

/-- Where two phrases hold of a value that was supplied or both do not, they come out alike with one
tail: a failure lists another first clause, and quotes another rule. -/
theorem validate_append_eq (h : v.Opens first firstRule) (h' : v.Opens second secondRule)
    (htail : RuleDefinition.IsTail tail) (hsupplied : p.value.isVoid = false)
    (htest : secondRule.test p.value = firstRule.test p.value) :
    v.validate p (second ++ tail) =
      ((v.validate p (first ++ tail)).listingFirst second).quoting (second ++ tail) := by
  rw [h.validate_append htail, h'.validate_append htail]
  cases (RuleDefinition.tailParts tail).mapM Clause.parse with
  | error e => rfl
  | ok ms =>
    dsimp only
    cases ms.any namesClass with
    | true => rfl
    | false =>
      have htext : (Clause.ofType second).text = second := h'.isFirstClause.trim_eq
      have hvalue : (v.checkValue p ⟨⟨Clause.ofType second, ms⟩, secondRule⟩).outcome =
          (v.checkValue p ⟨⟨Clause.ofType first, ms⟩, firstRule⟩).outcome.listingFirst
            (Clause.ofType second).text :=
        outcome_checkValue_of_test_eq hsupplied htest
      rw [htext] at hvalue
      -- Once a rule was understood, no failure quotes it.
      simp only [Bool.false_eq_true, if_false]
      rw [← hvalue, quoting_outcome_checkValue]

/-- If nothing was supplied, the modifiers have a say only where they cannot be read or name a
class. -/
theorem validate_append_void (h : v.Opens first firstRule) (h' : v.Opens second secondRule)
    (htail : RuleDefinition.IsTail tail) (hmissing : firstRule.test .void = false)
    (hallowed : secondRule.test .void = true) (name : String) :
    (∃ clause message,
        v.validate ⟨name, .void⟩ (first ++ tail) =
          .error (.format name (.invalidPattern clause message)) ∧
        v.validate ⟨name, .void⟩ (second ++ tail) =
          .error (.format name (.invalidPattern clause message))) ∨
      (v.validate ⟨name, .void⟩ (first ++ tail) =
          .error (.format name (.missingClassReference (first ++ tail))) ∧
        v.validate ⟨name, .void⟩ (second ++ tail) =
          .error (.format name (.missingClassReference (second ++ tail)))) ∨
      ((∃ rules, v.validate ⟨name, .void⟩ (first ++ tail) =
          .error (.validation name (first :: rules))) ∧
        v.validate ⟨name, .void⟩ (second ++ tail) = .ok ()) := by
  rw [h.validate_append htail, h'.validate_append htail]
  cases (RuleDefinition.tailParts tail).mapM Clause.parse with
  | error e => exact .inl ⟨_, _, rfl, rfl⟩
  | ok ms =>
    dsimp only
    cases ms.any namesClass with
    | true => exact .inr (.inl ⟨rfl, rfl⟩)
    | false =>
      have htext : (Clause.ofType first).text = first := h.isFirstClause.trim_eq
      have hdeclared : RuleDefinition.declared ⟨Clause.ofType first, ms⟩ =
          first :: ms.map (·.text) := by
        change (Clause.ofType first).text :: ms.map (·.text) = first :: ms.map (·.text)
        rw [htext]
      simp only [Bool.false_eq_true, if_false]
      refine .inr (.inr ⟨⟨ms.map (·.text), ?_⟩, ?_⟩)
      · rw [checkValue_of_not_test hmissing, hdeclared]
      · rw [checkValue_of_isVoid hallowed rfl]

end Opens

/-- Rules that differ only in whether a value of a kind may be missing differ only for void.  For a
value that was supplied they come out alike: a failure lists another first clause, and quotes
another rule.  For void both fail, for the same reason, if a modifier cannot be read or names a
class; otherwise the value is not of the kind, but may be missing, whatever the modifiers are. -/
theorem validate_optionalPhrase (v : Validator) (h : v.Configured) (article : String)
    (kind : Primitive) (hkind : (article, kind) ∈ Builtin.kinds) (tail : String)
    (htail : tail = "" ∨ ∃ rest, tail = "," ++ rest) (name : String) (required optional : String)
    (hrequired : required = article ++ " " ++ kind.noun)
    (hoptional : optional = "an optional " ++ kind.noun) :
    (∀ value : Value, value.isVoid = false →
      v.validate ⟨name, value⟩ (optional ++ tail) =
        ((v.validate ⟨name, value⟩ (required ++ tail)).listingFirst optional).quoting
          (optional ++ tail)) ∧
    ((∃ clause message,
        v.validate ⟨name, .void⟩ (required ++ tail) =
          .error (.format name (.invalidPattern clause message)) ∧
        v.validate ⟨name, .void⟩ (optional ++ tail) =
          .error (.format name (.invalidPattern clause message))) ∨
      (v.validate ⟨name, .void⟩ (required ++ tail) =
          .error (.format name (.missingClassReference (required ++ tail))) ∧
        v.validate ⟨name, .void⟩ (optional ++ tail) =
          .error (.format name (.missingClassReference (optional ++ tail)))) ∨
      ((∃ rules, v.validate ⟨name, .void⟩ (required ++ tail) =
          .error (.validation name (required :: rules))) ∧
        v.validate ⟨name, .void⟩ (optional ++ tail) = .ok ())) := by
  have hopens : v.Opens required (Builtin.requiredPhrase article kind) :=
    hrequired ▸ h.opens (Builtin.requiredPhrase_mem_phrases hkind)
  have hopens' : v.Opens optional (Builtin.optionalPhrase kind) :=
    hoptional ▸ h.opens (Builtin.optionalPhrase_mem_phrases hkind)
  constructor
  · intro value hsupplied
    have htest : (Builtin.optionalPhrase kind).test value =
        (Builtin.requiredPhrase article kind).test value :=
      Builtin.test_optionalPhrase kind hsupplied
    exact hopens.validate_append_eq hopens' htail hsupplied htest
  · exact hopens.validate_append_void hopens' htail (Builtin.test_void_of_mem_kinds hkind) rfl name

/-- A modifier without a meaning is found only if a number was supplied. -/
theorem validate_optionalPhrase_unknown :
    standard.validate ⟨"x", .number .zero⟩ "an optional number, of no meaning" =
      .error (.format "x" (.unknownModifier "of no meaning")) ∧
    standard.validate ⟨"x", .void⟩ "an optional number, of no meaning" = .ok () := by
  have hkind : ("a", Primitive.number) ∈ Builtin.kinds := by decide
  obtain ⟨hsupplied, hvoid⟩ := validate_optionalPhrase standard .standard "a" .number hkind
    ", of no meaning" (.inr ⟨" of no meaning", by decide⟩) "x" "a number" "an optional number"
    (by decide) (by decide)
  have hunknown : standard.validate ⟨"x", .number .zero⟩ ("a number" ++ ", of no meaning") =
      .error (.format "x" (.unknownModifier "of no meaning")) := by decide +kernel
  have hfails : standard.validate ⟨"x", .void⟩ ("a number" ++ ", of no meaning") =
      .error (.validation "x" ["a number", "of no meaning"]) := by decide +kernel
  constructor
  · have hoptional := hsupplied (.number .zero) rfl
    rw [hunknown] at hoptional
    exact hoptional
  · rw [hfails] at hvoid
    rcases hvoid with ⟨_, _, hread, -⟩ | ⟨hclass, -⟩ | ⟨-, hok⟩
    · cases hread
    · cases hclass
    · exact hok

end Validator

end Clausal
