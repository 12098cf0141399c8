import Clausal.Proofs.Rule.Parts

/-!
# Normal forms of rules

The clauses of a rule, written one after the other with commas and spaces between them, make a rule
again.  It is read as the same clauses, as long as reading does not take the first clause for
something else: an `as ` that is put in front is left out again unless nothing follows it
(`RuleDefinition.parse_as_intercalate_declared_iff`), and without it the first clause must not begin
with `as ` itself (`RuleDefinition.parse_intercalate_declared_iff`).

## Main definitions

- `RuleDefinition.Readable`: what the clauses of a rule that was read have in common
- `RuleDefinition.firstText`: what a text says as the first part of a rule with or without others
-/

namespace Clausal

namespace RuleDefinition

variable {d : RuleDefinition} {rule lead text : String} {cs : List Char}

theorem comma_not_mem_of_mem_allParts {part : List Char} (h : part ∈ allParts cs) : ',' ∉ part := by
  induction cs generalizing part with
  | nil =>
    obtain rfl := List.mem_singleton.mp h
    exact List.not_mem_nil
  | cons c cs ih =>
    rw [allParts] at h ih
    by_cases hc : c = ','
    · subst hc
      rw [splitCommas_cons_comma, List.mem_cons] at h
      rcases h with rfl | h
      · exact List.not_mem_nil
      · exact ih h
    · rw [splitCommas_cons_of_ne hc] at h
      rcases List.mem_cons.mp h with rfl | h
      · rintro (_ | ⟨_, hmem⟩)
        · exact hc rfl
        · exact ih List.mem_cons_self hmem
      · exact ih (List.mem_cons_of_mem _ h)

/-- What the clauses of a rule that was read have in common: their texts have no blanks at the ends
and no commas, the type clause is of its kind, and the modifiers are what their texts are read
as. -/
structure Readable (d : RuleDefinition) : Prop where
  trim_eq : ∀ text ∈ d.declared, trim text = text
  comma_not_mem : ∀ text ∈ d.declared, ',' ∉ text.toList
  typeClause_eq : d.typeClause = .ofType d.typeClause.text
  parse_eq : ∀ c ∈ d.modifiers, Clause.parse c.text = .ok c

theorem cons_parts (rule : String) : (parts rule).1 :: (parts rule).2 =
    (allParts (dropAs (trim rule).toList)).map String.ofList := by
  rw [parts, allParts]
  generalize splitCommas (dropAs (trim rule).toList) = split
  rfl

theorem declared_of_parse (h : parse rule = .ok d) :
    d.declared = ((allParts (dropAs (trim rule).toList)).map String.ofList).map trim := by
  obtain ⟨-, rfl⟩ := modifiers_of_parse h
  rw [declared_mk_ofText, ← cons_parts, List.map_cons]
  rfl

theorem readable_of_parse (h : parse rule = .ok d) : d.Readable := by
  have hdeclared := declared_of_parse h
  obtain ⟨hread, hd⟩ := modifiers_of_parse h
  refine ⟨?_, ?_, ?_, ?_⟩
  · rw [hdeclared, List.forall_mem_map]
    exact fun text _ => trim_trim text
  · rw [hdeclared, List.map_map, List.forall_mem_map]
    intro part hpart hcomma
    rw [Function.comp_apply, toList_trim, String.toList_ofList] at hcomma
    exact comma_not_mem_of_mem_allParts hpart ((Blank.trimChars_infix part).subset hcomma)
  · rw [hd]
    exact (Clause.ofType_trim _).symm
  · rw [hd, List.forall_mem_map]
    intro m hm
    rw [Clause.text_ofText, Clause.parse_trim, hread m hm]

/-- What a text says as the first part of a rule: it loses the blanks at the ends of the rule and
`as `.  If there are no other parts, the end of the rule is its own. -/
def firstText (text : String) (others : List Clause) : String :=
  if others = [] then String.ofList (dropAs (trim text).toList) else typeText text

/-- A text without blanks at its ends loses nothing but `as `. -/
theorem firstText_of_trim_eq {others : List Clause} (h : trim text = text) :
    firstText text others = String.ofList (dropAs text.toList) := by
  have hleft : Blank.trimLeft text.toList = text.toList :=
    Blank.trimLeft_eq_self_iff.mpr (trim_eq_self_iff.mp h).head
  rw [firstText, typeText, h, hleft, ite_self]

/-- Leaving out `as ` changes the texts that begin with it, and only those. -/
theorem trim_dropAs_eq_self_iff (h : trim text = text) :
    trim (String.ofList (dropAs text.toList)) = text ↔ ¬ "as ".toList <+: text.toList := by
  constructor
  · rintro heq ⟨rest, hrest⟩
    -- What is left after `as ` is shorter than the text.
    have hdrop : dropAs text.toList = rest := by rw [← hrest]; rfl
    have hshort : (Blank.trimChars rest).length ≤ rest.length :=
      (Blank.trimChars_infix rest).length_le
    have hlength : text.toList.length = rest.length + 3 := by rw [← hrest]; rfl
    rw [hdrop, ← String.toList_inj, toList_trim, String.toList_ofList] at heq
    rw [heq] at hshort
    omega
  · intro has
    rw [dropAs_of_forall_ne fun rest hrest => has ⟨rest, hrest.symm⟩, String.ofList_toList, h]

theorem parse_of_comma_not_mem (h : ',' ∉ text.toList) :
    parse text = .ok ⟨Clause.ofType (firstText text []), []⟩ := by
  have hdrop : ',' ∉ dropAs (trim text).toList := by
    rw [toList_trim]
    exact fun hcomma =>
      h ((Blank.trimChars_infix _).subset ((dropAs_suffix _).subset hcomma))
  rw [parse_eq, parts, splitCommas_of_not_mem hdrop]
  rfl

/-- A text in front belongs to the first part, and spaces after commas to the others. -/
theorem append_intercalate_eq_joined (lead first : String) (others : List String) :
    lead ++ ", ".intercalate (first :: others) =
      joined (lead ++ first) (others.map (" " ++ ·)) := by
  induction others generalizing lead first with
  | nil => rw [String.intercalate_singleton, List.map_nil, joined, String.intercalate_singleton]
  | cons second others ih =>
    have hcomma : ", " = "," ++ " " := rfl
    rw [String.intercalate_cons_cons, List.map_cons, joined, String.intercalate_cons_cons, ← joined,
      ← ih, hcomma]
    simp only [String.append_assoc]

/-- Clauses are read one by one if commas and spaces stand between them. -/
theorem parse_append_intercalate_declared (h : d.Readable) (hlead : ',' ∉ lead.toList) :
    parse (lead ++ ", ".intercalate d.declared) =
      .ok ⟨Clause.ofType (firstText (lead ++ d.typeClause.text) d.modifiers), d.modifiers⟩ := by
  obtain ⟨typeClause, modifiers⟩ := d
  have hdeclared : (RuleDefinition.mk typeClause modifiers).declared =
      typeClause.text :: modifiers.map (·.text) := rfl
  have htype : ',' ∉ (lead ++ typeClause.text).toList := by
    rw [String.toList_append, List.mem_append, not_or]
    exact ⟨hlead, h.comma_not_mem _ (hdeclared ▸ List.mem_cons_self)⟩
  rw [hdeclared, append_intercalate_eq_joined]
  by_cases hnil : modifiers = []
  · subst hnil
    rw [List.map_nil, List.map_nil, joined, String.intercalate_singleton]
    exact parse_of_comma_not_mem htype
  · have hjoinable : Joinable (lead ++ typeClause.text)
        ((modifiers.map (·.text)).map (" " ++ ·)) := by
      refine ⟨by simpa using hnil, htype, fun m hm => ?_⟩
      obtain ⟨text, htext, rfl⟩ := List.mem_map.mp hm
      rw [String.toList_append, List.mem_append, not_or]
      exact ⟨by decide, h.comma_not_mem _ (hdeclared ▸ List.mem_cons_of_mem _ htext)⟩
    have hread : ((modifiers.map (·.text)).map (" " ++ ·)).mapM Clause.parse = .ok modifiers := by
      have hself : ∀ c ∈ modifiers, Clause.parse (" " ++ c.text) = .ok c := by
        intro c hc
        rw [← Clause.parse_trim, trim_space_append, Clause.parse_trim, h.parse_eq c hc]
      rw [List.map_map, List.mapM_map]
      exact (mapM_eq_ok_map hself).trans (congrArg Except.ok (List.map_id modifiers))
    rw [parse_joined hjoinable, hread, firstText, if_neg hnil]
    rfl

/-- A readable rule is what its clauses are read as, if the first of them is not taken for something
else. -/
theorem parse_append_intercalate_declared_iff (h : d.Readable) (hlead : ',' ∉ lead.toList) :
    parse (lead ++ ", ".intercalate d.declared) = .ok d ↔
      trim (firstText (lead ++ d.typeClause.text) d.modifiers) = d.typeClause.text := by
  rw [parse_append_intercalate_declared h hlead]
  obtain ⟨typeClause, modifiers⟩ := d
  have htype : Clause.ofType typeClause.text = typeClause := h.typeClause_eq.symm
  constructor
  · intro heq
    have hclause := congrArg RuleDefinition.typeClause (Except.ok.inj heq)
    exact congrArg Clause.text hclause
  · intro heq
    dsimp only at heq ⊢
    rw [← Clause.ofType_trim, heq, htype]

theorem declared_eq_singleton_iff : d.declared = [text] ↔
    d.modifiers = [] ∧ d.typeClause.text = text := by
  rw [declared, clauses, List.map_cons, List.cons.injEq, List.map_eq_nil_iff, and_comm]

/-- With `as ` in front the clauses of a rule make the same rule again, unless they are nothing but
one empty clause. -/
theorem parse_as_intercalate_declared_iff (h : d.Readable) :
    parse ("as " ++ ", ".intercalate d.declared) = .ok d ↔ d.declared ≠ [""] := by
  have htrim : trim d.typeClause.text = d.typeClause.text := h.trim_eq _ List.mem_cons_self
  have hlist : ("as " ++ d.typeClause.text).toList =
      'a' :: 's' :: ' ' :: d.typeClause.text.toList := String.toList_append
  rw [parse_append_intercalate_declared_iff h (by decide), Ne, declared_eq_singleton_iff]
  by_cases hnil : d.modifiers = []
  · by_cases hempty : d.typeClause.text = ""
    · -- Nothing follows `as `, so its space is lost and it stays.
      rw [hempty, hnil]
      decide
    · have hne : d.typeClause.text.toList ≠ [] := fun hnil =>
        hempty (String.toList_eq_nil_iff.mp hnil)
      have hboth : trim ("as " ++ d.typeClause.text) = "as " ++ d.typeClause.text := by
        rw [trim_eq_self_iff, hlist]
        constructor
        · rintro c ⟨⟩
          decide
        · rw [← hlist, String.toList_append, List.getLast?_append,
            Option.or_of_isSome (List.getLast?_isSome.mpr hne)]
          exact (trim_eq_self_iff.mp htrim).last
      rw [firstText_of_trim_eq hboth, hlist]
      simp [dropAs, htrim, hempty]
  · have hfirst : firstText ("as " ++ d.typeClause.text) d.modifiers = d.typeClause.text := by
      rw [firstText, if_neg hnil, typeText, hlist]
      exact String.ofList_toList
    simp [hfirst, htrim, hnil]

/-- By themselves the clauses of a rule make the same rule again exactly if the first one does not
begin with `as `. -/
theorem parse_intercalate_declared_iff (h : d.Readable) :
    parse (", ".intercalate d.declared) = .ok d ↔
      ¬ "as ".toList <+: d.typeClause.text.toList := by
  have htrim : trim d.typeClause.text = d.typeClause.text := h.trim_eq _ List.mem_cons_self
  have hlead : ',' ∉ "".toList := by decide
  have hiff := parse_append_intercalate_declared_iff h hlead
  rwa [String.empty_append, String.empty_append, firstText_of_trim_eq htrim,
    trim_dropAs_eq_self_iff htrim] at hiff

end RuleDefinition

end Clausal
