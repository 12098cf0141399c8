import Clausal.Builtin.Phrases
import Clausal.Proofs.Clause.Shape
import Clausal.Proofs.Registry

/-!
# Phrases for types are no clauses with operands

A text that has a shape begins with a letter that no phrase for a type begins with, or with `and`.
That holds in either letter case: what a text begins with as a keyword, its lower-case form begins
with (`LowerCase.prefix_ofChars`).  So no phrase takes a clause from the rule for its shape
(`Builtin.resolve?_phrases_of_isText`).

## Main definitions

- `Shape.openings`: the beginnings of texts with shapes, letter case aside
-/

namespace Clausal

namespace Shape

variable {s : Shape} {u : List Char}

/-- The letters that texts with a shape begin with, in either letter case. -/
def openings : List String := ["w", "g", "l", "m", "and"]

theorem exists_opening_of_isText (h : s.IsText u) :
    ∃ o ∈ openings, o.toList <+: u.map Grammar.fold := by
  cases s with
  | range =>
    obtain ⟨low, high, w, t, c, hw, -, -, -, -, rfl⟩ := h
    rw [List.map_append, List.map_append, List.map_append, hw]
    exact ⟨"w", by decide, _, rfl⟩
  | atLeast =>
    obtain ⟨low, w, c, hw, -, -, rfl⟩ := h
    rw [List.map_append, List.map_append, hw]
    exact ⟨"w", by decide, _, rfl⟩
  | upTo =>
    obtain ⟨high, w, c, hw, -, -, rfl⟩ := h
    rw [List.map_append, List.map_append, hw]
    exact ⟨"w", by decide, _, rfl⟩
  | comparison op =>
    obtain ⟨w, d, rest, hw, -, rfl⟩ := h
    rw [List.map_append, hw]
    cases op with
    | greater | greaterOrEqual => exact ⟨"g", by decide, _, rfl⟩
    | less | lessOrEqual => exact ⟨"l", by decide, _, rfl⟩
  | inline =>
    obtain ⟨source, letter, a, w, rfl | ha, hw, -, -, -, rfl⟩ := h
    · rw [List.nil_append, List.map_append, hw]
      exact ⟨"m", by decide, _, rfl⟩
    · rw [List.map_append, ha]
      exact ⟨"and", by decide, _, rfl⟩

end Shape

/-- The lower-case form of a character that counts as an ASCII letter other than `s` is the
letter. -/
theorem LowerCase.ofChars_cons_of_fold {k c : Char} {before rest : List Char} (hk : k.toNat < 0x80)
    (hs : k ≠ 's') (h : Grammar.fold c = k) :
    ofChars before (c :: rest) = k :: ofChars (c :: before) rest := by
  have hlong : c ≠ 'ſ' := by
    rintro rfl
    exact hs h.symm
  have hascii : c.toNat < 0x80 := by
    have hnat := Grammar.toNat_fold c
    have hcode : c.toNat ≠ 0x17F := fun hcode => hlong (Char.toNat_inj.mp hcode)
    rw [h, if_neg hcode] at hnat
    split at hnat <;> omega
  have hsigma : c ≠ 'Σ' := by
    rintro rfl
    exact absurd hascii (by decide)
  rw [Grammar.fold, if_neg hlong] at h
  rw [ofChars, if_neg hsigma, ofChar, if_pos hascii, h]
  rfl

/-- What a text begins with, letter case aside, its lower-case form begins with. -/
theorem LowerCase.prefix_ofChars {k u before : List Char}
    (hk : ∀ c ∈ k, c.toNat < 0x80 ∧ c ≠ 's') (h : k <+: u.map Grammar.fold) :
    k <+: ofChars before u := by
  induction k generalizing u before with
  | nil => exact List.nil_prefix
  | cons a k ih =>
    obtain ⟨ha, hrest⟩ := List.forall_mem_cons.mp hk
    cases u with
    | nil => exact absurd (List.prefix_nil.mp h) (List.cons_ne_nil a k)
    | cons c u =>
      obtain ⟨hc, htail⟩ := List.cons_prefix_cons.mp h
      rw [ofChars_cons_of_fold ha.1 ha.2 hc.symm]
      exact List.cons_prefix_cons.mpr ⟨rfl, ih hrest htail⟩

theorem PhraseCase.lowerCase_eq_of_key_eq {case : PhraseCase} {a b : String}
    (h : case.key a = case.key b) : lowerCase a = lowerCase b := by
  cases case with
  | sensitive => exact congrArg lowerCase h
  | insensitive => exact h

namespace Builtin

/-- No phrase for a type begins, in lower case, as a text with a shape does. -/
theorem not_opening_prefix_lowerCase_phrase {rule : WholeRule} {o : String} (hrule : rule ∈ phrases)
    (ho : o ∈ Shape.openings) : ¬ o.toList <+: (lowerCase rule.phrase).toList := by
  have hall : ∀ phrase ∈ phrases.map (·.phrase), ∀ o ∈ Shape.openings,
      ¬ o.toList <+: (lowerCase phrase).toList := by decide +kernel
  exact hall _ (List.mem_map_of_mem hrule) o ho

/-- A text that has a shape is no phrase for a type, whether or not letter case counts. -/
theorem resolve?_phrases_of_isText {case : PhraseCase} {s : Shape} {text : String}
    (h : s.IsText text.toList) :
    ((WholeRegistry.empty case).insertAll phrases).resolve? text = none := by
  rw [← Option.not_isSome_iff_eq_none, WholeRegistry.isSome_resolve?_insertAll_empty]
  rintro ⟨rule, hrule, hkey⟩
  obtain ⟨o, ho, hprefix⟩ := Shape.exists_opening_of_isText h
  have hopening : ∀ o ∈ Shape.openings, ∀ c ∈ o.toList, c.toNat < 0x80 ∧ c ≠ 's' := by
    simp [Shape.openings]
  refine not_opening_prefix_lowerCase_phrase hrule ho ?_
  rw [PhraseCase.lowerCase_eq_of_key_eq hkey, lowerCase, String.toList_ofList]
  exact LowerCase.prefix_ofChars (hopening o ho) hprefix

end Builtin

end Clausal
