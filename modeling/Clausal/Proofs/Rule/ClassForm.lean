import Clausal.Proofs.Rule.NormalForm
import Clausal.Proofs.Text.Words

/-!
# Rules for classes

A rule for a class is an article and the token for the class.  `RuleDefinition.IsClassForm` says
which texts are such rules; `RuleDefinition.exists_classArticle?_iff` says that these are the ones
that are read as an article and the token.

## Main definitions

- `RuleDefinition.IsClassForm`: a text is an article and the token for a class, with blanks around
  and between them and perhaps `as ` in front
-/

namespace Clausal

namespace RuleDefinition

open Blank

variable {d : RuleDefinition} {rule article : String} {cs : List Char}

/-- A text is an article and the token for a class, with at least one blank between them.  There may
be blanks at both ends, and in front there may be `as `, which may be followed by blanks. -/
def IsClassForm (rule article : String) : Prop :=
  (article = "a" ∨ article = "an") ∧ ∃ before lead between after : List Char,
    (∀ c ∈ before, isBlank c = true) ∧
    (lead = [] ∨ ∃ b, (∀ c ∈ b, isBlank c = true) ∧ lead = "as ".toList ++ b) ∧
    (between ≠ [] ∧ ∀ c ∈ between, isBlank c = true) ∧
    (∀ c ∈ after, isBlank c = true) ∧
    rule.toList = before ++
      (lead ++ (article.toList ++ (between ++ ("\x7b\x7d".toList ++ after))))

/-- The article is found if the words of the only clause are it and the token for a class. -/
theorem classArticle?_eq_some_iff : d.classArticle? = some article ↔ d.modifiers = [] ∧
    (article = "a" ∨ article = "an") ∧ words d.typeClause.text = [article, placeholder] := by
  obtain ⟨typeClause, modifiers⟩ := d
  rw [classArticle?]
  constructor
  · intro h
    dsimp only at h
    split at h
    · next found token hwords =>
      split at h
      · next hclass =>
        cases h
        obtain ⟨rfl, harticle⟩ : token = placeholder ∧ (article = "a" ∨ article = "an") := by
          simpa [articles] using hclass
        exact ⟨rfl, harticle, hwords⟩
      · cases h
    · cases h
  · rintro ⟨hmodifiers, harticle, hwords⟩
    dsimp only at hmodifiers hwords
    subst hmodifiers
    simp [hwords, articles, harticle]

theorem hasPlaceholder_of_classArticle? (h : d.classArticle? = some article) :
    d.hasPlaceholder = true := by
  obtain ⟨-, -, hwords⟩ := classArticle?_eq_some_iff.mp h
  simp [hasPlaceholder, clauses, hwords]

theorem comma_not_mem_of_splitCommas (h : (splitCommas cs).2 = []) : ',' ∉ cs := by
  intro hmem
  obtain ⟨a, b, rfl, ha⟩ := List.eq_append_cons_of_mem hmem
  rw [splitCommas_append_comma ha] at h
  cases h

/-- A rule with one clause is that clause, without blanks at the ends and without `as `. -/
theorem words_typeClause_of_parse (h : parse rule = .ok d) (hmodifiers : d.modifiers = []) :
    words d.typeClause.text =
      (wordsFrom [] (dropAs (trimChars rule.toList))).map String.ofList := by
  have hdeclared := declared_of_parse h
  have hparts : (splitCommas (dropAs (trim rule).toList)).2 = [] := by
    have hlength := congrArg List.length hdeclared
    simpa [declared, clauses, hmodifiers, allParts] using hlength
  have hcomma := comma_not_mem_of_splitCommas hparts
  rw [allParts, splitCommas_of_not_mem hcomma, List.map_cons, List.map_cons, List.map_nil,
    List.map_nil] at hdeclared
  rw [(declared_eq_singleton_iff.mp hdeclared).2, words_trim, words, String.toList_ofList,
    toList_trim]

theorem isWord_placeholder : IsWord placeholder.toList :=
  isWord_of_all (by decide) (by decide)

theorem isWord_article (h : article = "a" ∨ article = "an") : IsWord article.toList := by
  rcases h with rfl | rfl <;> exact isWord_of_all (by decide) (by decide)

theorem trimmed_article {between : List Char} (h : article = "a" ∨ article = "an") :
    Trimmed (article.toList ++ (between ++ placeholder.toList)) := by
  constructor
  · rcases h with rfl | rfl <;> rintro c ⟨⟩ <;> decide
  · rw [← List.append_assoc, List.getLast?_append]
    rintro c ⟨⟩
    decide

theorem dropAs_article {between : List Char} (h : article = "a" ∨ article = "an")
    (hne : between ≠ []) (hbetween : ∀ c ∈ between, isBlank c = true) :
    dropAs (article.toList ++ (between ++ cs)) = article.toList ++ (between ++ cs) := by
  obtain ⟨c, between, rfl⟩ := List.exists_cons_of_ne_nil hne
  have hc : isBlank c = true := hbetween c List.mem_cons_self
  refine dropAs_of_forall_ne fun rest heq => ?_
  rcases h with rfl | rfl
  · -- The blank after `a` is no `s`.
    obtain rfl : c = 's' := (List.cons.inj (List.cons.inj heq).2).1
    exact absurd hc (by decide)
  · have hn : 'n' = 's' := (List.cons.inj (List.cons.inj heq).2).1
    exact absurd hn (by decide)

theorem IsClassForm.comma_not_mem (h : IsClassForm rule article) : ',' ∉ rule.toList := by
  obtain ⟨harticle, before, lead, between, after, hbefore, hlead, ⟨-, hbetween⟩, hafter, hrule⟩ := h
  have hblank {b : List Char} (hb : ∀ c ∈ b, isBlank c = true) : ',' ∉ b := fun hmem =>
    absurd (hb ',' hmem) (by decide)
  have hlead : ',' ∉ lead := by
    rcases hlead with rfl | ⟨b, hb, rfl⟩
    · exact List.not_mem_nil
    · simp [hblank hb]
  have harticle : ',' ∉ article.toList := by
    rcases harticle with rfl | rfl <;> decide
  simp [hrule, hblank hbefore, hlead, harticle, hblank hbetween, hblank hafter]

theorem IsClassForm.wordsFrom_eq (h : IsClassForm rule article) :
    wordsFrom [] (dropAs (trimChars rule.toList)) = [article.toList, placeholder.toList] := by
  obtain ⟨harticle, before, lead, between, after, hbefore, hlead, ⟨hne, hbetween⟩, hafter, hrule⟩ :=
    h
  have htrimmed : Trimmed (article.toList ++ (between ++ placeholder.toList)) :=
    trimmed_article harticle
  have hpair {b : List Char} (hb : ∀ c ∈ b, isBlank c = true) :
      wordsFrom [] (b ++ (article.toList ++ (between ++ placeholder.toList))) =
        [article.toList, placeholder.toList] :=
    wordsFrom_eq_pair_iff.mpr ⟨isWord_article harticle, isWord_placeholder, b, between, [], hb,
      ⟨hne, hbetween⟩, List.forall_mem_nil _, by rw [List.append_nil]⟩
  rcases hlead with rfl | ⟨b, hb, rfl⟩
  · have htext : rule.toList =
        before ++ ((article.toList ++ (between ++ placeholder.toList)) ++ after) := by
      simp [hrule, placeholder]
    rw [htext, trimChars_of_trimmed hbefore hafter htrimmed, dropAs_article harticle hne hbetween]
    exact hpair (List.forall_mem_nil _)
  · have htext : rule.toList = before ++ (('a' :: 's' :: ' ' ::
        (b ++ (article.toList ++ (between ++ placeholder.toList)))) ++ after) := by
      simp [hrule, placeholder]
    have htrimmed' : Trimmed ('a' :: 's' :: ' ' ::
        (b ++ (article.toList ++ (between ++ placeholder.toList)))) :=
      htrimmed.cons_append (by simp [placeholder]) (by decide) ('s' :: ' ' :: b)
    rw [htext, trimChars_of_trimmed hbefore hafter htrimmed', dropAs]
    exact hpair hb

/-- A text whose words are an article and the token for a class, with or without `as ` in front, is
a rule for a class. -/
theorem isClassForm_of_wordsFrom (harticle : article = "a" ∨ article = "an")
    (h : wordsFrom [] (dropAs (trimChars rule.toList)) = [article.toList, placeholder.toList]) :
    IsClassForm rule article := by
  obtain ⟨-, -, b, between, after, hb, hbetween, hafter, hdrop⟩ := wordsFrom_eq_pair_iff.mp h
  obtain ⟨before, after', hbefore, hafter', hrule⟩ := exists_trimChars_append rule.toList
  have happend {x y : List Char} (hx : ∀ c ∈ x, isBlank c = true)
      (hy : ∀ c ∈ y, isBlank c = true) : ∀ c ∈ x ++ y, isBlank c = true :=
    List.forall_mem_append.mpr ⟨hx, hy⟩
  refine ⟨harticle, ?_⟩
  by_cases has : ∃ rest, trimChars rule.toList = 'a' :: 's' :: ' ' :: rest
  · obtain ⟨rest, hrest⟩ := has
    rw [hrest, dropAs] at hdrop
    refine ⟨before, "as ".toList ++ b, between, after ++ after', hbefore, .inr ⟨b, hb, rfl⟩,
      hbetween, happend hafter hafter', ?_⟩
    rw [hrule, hrest, hdrop]
    simp [placeholder]
  · rw [dropAs_of_forall_ne fun rest hrest => has ⟨rest, hrest⟩] at hdrop
    refine ⟨before ++ b, [], between, after ++ after', happend hbefore hb, .inl rfl, hbetween,
      happend hafter hafter', ?_⟩
    rw [hrule, hdrop]
    simp [placeholder]

/-- A rule is read as an article and the token for a class exactly if it is of that form. -/
theorem exists_classArticle?_iff :
    (∃ d, parse rule = .ok d ∧ d.classArticle? = some article) ↔ IsClassForm rule article := by
  constructor
  · rintro ⟨d, hparse, hclass⟩
    obtain ⟨hmodifiers, harticle, hwords⟩ := classArticle?_eq_some_iff.mp hclass
    refine isClassForm_of_wordsFrom harticle ?_
    rw [words_typeClause_of_parse hparse hmodifiers] at hwords
    simpa [Function.comp_def] using congrArg (List.map String.toList) hwords
  · intro h
    have hparse := parse_of_comma_not_mem h.comma_not_mem
    refine ⟨_, hparse, classArticle?_eq_some_iff.mpr ⟨rfl, h.1, ?_⟩⟩
    rw [words_typeClause_of_parse hparse rfl, h.wordsFrom_eq]
    simp only [List.map_cons, List.map_nil, String.ofList_toList]

end RuleDefinition

end Clausal
