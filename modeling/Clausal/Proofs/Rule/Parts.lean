import Clausal.Proofs.Text.Blank
import Clausal.Rule.Definition

/-!
# The parts of a rule

Commas divide a rule, and blanks at the ends of its parts make no difference, nor do those at the
ends of the whole rule.  The main statement, `RuleDefinition.parse_joined`, says how a rule is read
that was put together from a type text and modifiers, none of which has a comma: the modifiers are
read one by one, and the type clause does not depend on them.
-/

namespace Clausal

/-- Either all members of a list have a property, or there is a first one that does not. -/
theorem forall_or_exists_first {α : Type} (P : α → Prop) (xs : List α) :
    (∀ x ∈ xs, P x) ∨
      ∃ pre x post, xs = pre ++ x :: post ∧ (∀ y ∈ pre, P y) ∧ ¬ P x := by
  induction xs with
  | nil => exact .inl fun x hx => absurd hx List.not_mem_nil
  | cons x xs ih =>
    by_cases hx : P x
    · rcases ih with hall | ⟨pre, y, post, rfl, hpre, hy⟩
      · exact .inl (List.forall_mem_cons.mpr ⟨hx, hall⟩)
      · exact .inr ⟨x :: pre, y, post, rfl, List.forall_mem_cons.mpr ⟨hx, hpre⟩, hy⟩
    · exact .inr ⟨[], x, xs, rfl, fun y hy => absurd hy List.not_mem_nil, hx⟩

theorem mapM_eq_ok_map {ε α β : Type} {f : α → Except ε β} {g : α → β} {xs : List α}
    (h : ∀ x ∈ xs, f x = .ok (g x)) : xs.mapM f = .ok (xs.map g) := by
  induction xs with
  | nil => rfl
  | cons x xs ih =>
    obtain ⟨hx, hrest⟩ := List.forall_mem_cons.mp h
    rw [List.mapM_cons, hx, ih hrest]
    rfl

@[simp] theorem Clause.parse_trim (text : String) :
    Clause.parse (trim text) = Clause.parse text := by
  rw [Clause.parse, Clause.parse, trim_trim]

@[simp] theorem Clause.ofType_trim (text : String) : ofType (trim text) = ofType text := by
  rw [ofType, ofType, trim_trim]

namespace Clause

/-- The clause of a text.  A text that cannot be read counts as one that names a type. -/
def ofText (text : String) : Clause :=
  (parse text).toOption.getD (ofType text)

theorem parse_eq_ofText {text : String} {c : Clause} (h : parse text = .ok c) :
    parse text = .ok (ofText text) := by
  simp [ofText, h, Except.toOption]

@[simp] theorem text_ofText (text : String) : (ofText text).text = trim text := by
  rw [ofText, parse]
  cases classify (trim text) <;> rfl

end Clause

namespace RuleDefinition

variable {a b : List Char} {first : List Char} {others : List (List Char)}

/-- The parts of a text between commas, the first one among them. -/
def allParts (cs : List Char) : List (List Char) :=
  (splitCommas cs).1 :: (splitCommas cs).2

theorem splitCommas_cons_comma (cs : List Char) : splitCommas (',' :: cs) = ([], allParts cs) := by
  simp [splitCommas, allParts]

theorem splitCommas_cons_of_ne {c : Char} (h : c ≠ ',') (cs : List Char) :
    splitCommas (c :: cs) = (c :: (splitCommas cs).1, (splitCommas cs).2) := by
  simp [splitCommas, h]

theorem splitCommas_of_not_mem (h : ',' ∉ a) : splitCommas a = (a, []) := by
  induction a with
  | nil => rfl
  | cons c a ih =>
    rw [splitCommas_cons_of_ne (fun hc => h (hc ▸ List.mem_cons_self)),
      ih fun ha => h (List.mem_cons_of_mem _ ha)]

theorem splitCommas_append_comma (h : ',' ∉ a) :
    splitCommas (a ++ ',' :: b) = (a, allParts b) := by
  induction a with
  | nil => exact splitCommas_cons_comma b
  | cons c a ih =>
    rw [List.cons_append, splitCommas_cons_of_ne (fun hc => h (hc ▸ List.mem_cons_self)),
      ih fun ha => h (List.mem_cons_of_mem _ ha)]

/-- Texts without commas are the parts of what they make with commas between them. -/
theorem allParts_intercalate (hfirst : ',' ∉ first) (hothers : ∀ cs ∈ others, ',' ∉ cs) :
    allParts ([','].intercalate (first :: others)) = first :: others := by
  induction others generalizing first with
  | nil => rw [List.intercalate_singleton, allParts, splitCommas_of_not_mem hfirst]
  | cons second others ih =>
    obtain ⟨hsecond, hrest⟩ := List.forall_mem_cons.mp hothers
    rw [List.intercalate_cons_cons, List.append_assoc, List.singleton_append, allParts,
      splitCommas_append_comma hfirst, ih hsecond hrest]

/-- A text without commas that comes last belongs to the last part. -/
theorem exists_allParts_append (h : ',' ∉ b) :
    ∃ init last, allParts a = init ++ [last] ∧ allParts (a ++ b) = init ++ [last ++ b] := by
  induction a with
  | nil => exact ⟨[], [], rfl, by rw [List.nil_append, allParts, splitCommas_of_not_mem h]; rfl⟩
  | cons c a ih =>
    obtain ⟨init, last, ha, hab⟩ := ih
    by_cases hc : c = ','
    · subst hc
      refine ⟨[] :: init, last, ?_, ?_⟩
      · rw [allParts, splitCommas_cons_comma, ha, List.cons_append]
      · rw [List.cons_append, allParts, splitCommas_cons_comma, hab, List.cons_append]
    · -- The character goes to the first part, which may be the last one as well.
      rw [List.cons_append, allParts, allParts, splitCommas_cons_of_ne hc,
        splitCommas_cons_of_ne hc]
      rw [allParts] at ha hab
      cases init with
      | nil =>
        obtain ⟨ha₁, ha₂⟩ := List.cons.inj ha
        obtain ⟨hab₁, hab₂⟩ := List.cons.inj hab
        exact ⟨[], c :: last, by simp [ha₁, ha₂], by simp [hab₁, hab₂]⟩
      | cons x init =>
        obtain ⟨ha₁, ha₂⟩ := List.cons.inj ha
        obtain ⟨hab₁, hab₂⟩ := List.cons.inj hab
        exact ⟨(c :: x) :: init, last, by simp [ha₁, ha₂], by simp [hab₁, hab₂]⟩

@[simp] theorem isBlank_comma : isBlank ',' = false := by decide

/-- Blanks at the end of a text do not survive trimming its parts. -/
theorem map_trim_allParts_trimRight (cs : List Char) :
    ((allParts (Blank.trimRight cs)).map String.ofList).map trim =
      ((allParts cs).map String.ofList).map trim := by
  obtain ⟨b, hcs, hb⟩ := Blank.exists_trimRight_append cs
  have hcomma : ',' ∉ b := fun h => by
    rw [← Bool.false_eq_true, ← isBlank_comma]
    exact hb ',' h
  have htrim (last : List Char) : trim (String.ofList (last ++ b)) = trim (String.ofList last) := by
    rw [trim, trim, String.toList_ofList, String.toList_ofList, Blank.trimChars_append_of_forall hb]
  obtain ⟨init, last, hshort, hlong⟩ := exists_allParts_append (a := Blank.trimRight cs) hcomma
  rw [← hcs] at hlong
  simp only [hshort, hlong, List.map_append, List.map_cons, List.map_nil, htrim]

theorem dropAs_of_forall_ne (h : ∀ rest, a ≠ 'a' :: 's' :: ' ' :: rest) : dropAs a = a := by
  unfold dropAs
  split
  · next rest => exact absurd rfl (h rest)
  · rfl

theorem dropAs_suffix (cs : List Char) : dropAs cs <:+ cs := by
  by_cases has : ∃ rest, cs = 'a' :: 's' :: ' ' :: rest
  · obtain ⟨rest, rfl⟩ := has
    exact ⟨['a', 's', ' '], rfl⟩
  · exact ⟨[], dropAs_of_forall_ne fun rest h => has ⟨rest, h⟩⟩

/-- Leaving out `as ` at the beginning does not get past the first comma. -/
theorem dropAs_append_comma (a b : List Char) :
    dropAs (a ++ ',' :: b) = dropAs a ++ ',' :: b := by
  by_cases has : ∃ rest, a = 'a' :: 's' :: ' ' :: rest
  · obtain ⟨rest, rfl⟩ := has
    rfl
  · rw [dropAs_of_forall_ne (a := a) fun rest h => has ⟨rest, h⟩, dropAs_of_forall_ne]
    intro rest heq
    -- The comma would have to be one of the characters of `as `.
    match a, heq with
    | [], heq => simp at heq
    | [_], heq => simp at heq
    | [_, _], heq => simp at heq
    | x :: y :: z :: a, heq =>
      simp only [List.cons_append, List.cons.injEq] at heq
      obtain ⟨rfl, rfl, rfl, -⟩ := heq
      exact has ⟨a, rfl⟩

/-- What a text says as the first part of a rule: it is trimmed at the beginning and loses `as `. -/
def typeText (type : String) : String :=
  String.ofList (dropAs (Blank.trimLeft type.toList))

/-- A rule put together from a type text and modifiers. -/
def joined (type : String) (modifiers : List String) : String :=
  ",".intercalate (type :: modifiers)

/-- A type text and modifiers that make a rule with that many clauses. -/
structure Joinable (type : String) (modifiers : List String) : Prop where
  ne_nil : modifiers ≠ []
  comma_not_mem_type : ',' ∉ type.toList
  comma_not_mem : ∀ m ∈ modifiers, ',' ∉ m.toList

theorem Joinable.singleton {type m : String} {ms : List String} (h : Joinable type ms)
    (hm : m ∈ ms) : Joinable type [m] :=
  ⟨List.cons_ne_nil m [], h.comma_not_mem_type, by simpa using h.comma_not_mem m hm⟩

/-- The parts of a rule that was put together, up to blanks at their ends. -/
theorem parts_joined {type : String} {ms : List String} (h : Joinable type ms) :
    (parts (joined type ms)).1 = typeText type ∧
      (parts (joined type ms)).2.map trim = ms.map trim := by
  obtain ⟨hne, htype, hms⟩ := h
  obtain ⟨m, ms, rfl⟩ := List.exists_cons_of_ne_nil hne
  have hrest : ∀ cs ∈ (m :: ms).map String.toList, ',' ∉ cs := by
    intro cs hcs
    obtain ⟨x, hx, rfl⟩ := List.mem_map.mp hcs
    exact hms x hx
  have htext : (joined type (m :: ms)).toList =
      type.toList ++ ',' :: [','].intercalate ((m :: ms).map String.toList) := by
    rw [joined, String.toList_intercalate]
    simp
  have htrim : (trim (joined type (m :: ms))).toList = Blank.trimLeft type.toList ++
      ',' :: Blank.trimRight ([','].intercalate ((m :: ms).map String.toList)) := by
    rw [trim, String.toList_ofList, htext, Blank.trimChars,
      Blank.trimLeft_append_cons isBlank_comma, Blank.trimRight_append_cons isBlank_comma]
  have hdrop : ',' ∉ dropAs (Blank.trimLeft type.toList) := fun h =>
    htype (List.dropWhile_subset _ ((dropAs_suffix _).subset h))
  rw [parts, htrim, dropAs_append_comma, splitCommas_append_comma hdrop]
  refine ⟨rfl, ?_⟩
  refine (map_trim_allParts_trimRight _).trans ?_
  rw [List.map_cons, allParts_intercalate (hrest _ List.mem_cons_self)
    fun cs hcs => hrest cs (List.mem_cons_of_mem _ hcs)]
  simp [Function.comp_def]

theorem parse_eq (rule : String) :
    parse rule = ((parts rule).2.mapM Clause.parse).map
      (RuleDefinition.mk (Clause.ofType (parts rule).1)) := by
  rw [parse]
  obtain ⟨first, others⟩ := parts rule
  dsimp only
  cases others.mapM Clause.parse <;> rfl

theorem mapM_parse_map_trim (texts : List String) :
    (texts.map trim).mapM Clause.parse = texts.mapM Clause.parse := by
  rw [List.mapM_map]
  exact congrArg (texts.mapM ·) (funext Clause.parse_trim)

/-- Of a rule that was put together the modifiers are read one by one, and the type clause comes
from the type text alone. -/
theorem parse_joined {type : String} {ms : List String} (h : Joinable type ms) :
    parse (joined type ms) = (ms.mapM Clause.parse).map
      (RuleDefinition.mk (Clause.ofType (typeText type))) := by
  obtain ⟨hfirst, hothers⟩ := parts_joined h
  rw [parse_eq, hfirst, ← mapM_parse_map_trim, hothers, mapM_parse_map_trim]

section Reading

variable {pre post ms : List String} {m : String} {e : ClauseError}

/-- A modifier that cannot be read, after others that can, is the error. -/
theorem mapM_parse_of_error (hpre : ∀ x ∈ pre, Clause.parse x = .ok (.ofText x))
    (hm : Clause.parse m = .error e) : (pre ++ m :: post).mapM Clause.parse = .error e := by
  induction pre with
  | nil =>
    rw [List.nil_append, List.mapM_cons, hm]
    rfl
  | cons x pre ih =>
    obtain ⟨hx, hrest⟩ := List.forall_mem_cons.mp hpre
    rw [List.cons_append, List.mapM_cons, hx, ih hrest]
    rfl

theorem mapM_parse_of_forall_ok (h : ∀ m ∈ ms, Clause.parse m = .ok (.ofText m)) :
    ms.mapM Clause.parse = .ok (ms.map .ofText) :=
  mapM_eq_ok_map h

/-- Either all modifiers can be read, or there is a first one that cannot. -/
theorem forall_parse_or_exists_error (ms : List String) :
    (∀ m ∈ ms, Clause.parse m = .ok (.ofText m)) ∨
      ∃ pre m post e, ms = pre ++ m :: post ∧
        (∀ x ∈ pre, Clause.parse x = .ok (.ofText x)) ∧ Clause.parse m = .error e := by
  rcases forall_or_exists_first (fun m => Clause.parse m = .ok (.ofText m)) ms with
    hall | ⟨pre, m, post, hms, hpre, hm⟩
  · exact .inl hall
  · cases hparse : Clause.parse m with
    | error e => exact .inr ⟨pre, m, post, e, hms, hpre, hparse⟩
    | ok c => exact absurd (Clause.parse_eq_ofText hparse) hm

theorem declared_mk_ofText (typeClause : Clause) (ms : List String) :
    (RuleDefinition.mk typeClause (ms.map .ofText)).declared =
      typeClause.text :: ms.map trim := by
  simp [declared, clauses, Function.comp_def]

/-- A rule that can be read has been read from modifiers that can be. -/
theorem modifiers_of_parse {rule : String} {d : RuleDefinition} (h : parse rule = .ok d) :
    (∀ m ∈ (parts rule).2, Clause.parse m = .ok (.ofText m)) ∧
      d = ⟨Clause.ofType (parts rule).1, (parts rule).2.map .ofText⟩ := by
  rw [parse_eq] at h
  rcases forall_parse_or_exists_error (parts rule).2 with
    hall | ⟨pre, m, post, e, hms, hpre, hm⟩
  · rw [mapM_parse_of_forall_ok hall, Except.map, Except.ok.injEq] at h
    exact ⟨hall, h.symm⟩
  · rw [hms, mapM_parse_of_error hpre hm] at h
    exact absurd h (by simp [Except.map])

/-- The clauses of a rule that was put together are its type text and its modifiers, trimmed. -/
theorem declared_of_parse_joined {type : String} {d : RuleDefinition} (h : Joinable type ms)
    (hd : parse (joined type ms) = .ok d) : d.declared = trim (typeText type) :: ms.map trim := by
  obtain ⟨hfirst, hothers⟩ := parts_joined h
  obtain ⟨-, rfl⟩ := modifiers_of_parse hd
  rw [declared_mk_ofText, hothers, hfirst]
  rfl

theorem exists_parse_of_mem_modifiers {rule : String} {d : RuleDefinition} {c : Clause}
    (h : parse rule = .ok d) (hc : c ∈ d.modifiers) : ∃ text, Clause.parse text = .ok c := by
  obtain ⟨hall, rfl⟩ := modifiers_of_parse h
  dsimp only at hc
  obtain ⟨m, hm, rfl⟩ := List.mem_map.mp hc
  exact ⟨m, hall m hm⟩

end Reading

end RuleDefinition

end Clausal
