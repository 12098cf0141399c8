import Clausal.Proofs.PatternRule.Entries
import Clausal.Proofs.Value.Equality

/-!
# What the entries of a document mean

An entry matches clauses and accepts values.  The rule that it describes does the same
(`PatternEntry.Describes.matches_iff`, `PatternEntry.Describes.accepts_iff`), and the first of
several entries that matches a clause stands where the first rule does that matches it
(`PatternEntry.exists_first_rule`).

## Main definitions

- `PatternEntry.Matches`: the pattern of an entry finds a match in a text
- `PatternEntry.Accepts`: a value is what the check of an entry asks for
- `PatternEntry.FirstEntry`: the first entry that matches a text
-/

namespace Clausal

theorem forall₂_getElem? {α β : Type} {R : α → β → Prop} {xs : List α} {ys : List β}
    (h : List.Forall₂ R xs ys) (i : Nat) :
    (xs[i]? = none ∧ ys[i]? = none) ∨ ∃ x y, xs[i]? = some x ∧ ys[i]? = some y ∧ R x y := by
  induction h generalizing i with
  | nil => exact .inl ⟨rfl, rfl⟩
  | @cons x y xs ys hxy _ ih =>
    cases i with
    | zero => exact .inr ⟨x, y, rfl, rfl, hxy⟩
    | succ i => exact ih i

namespace PatternEntry

variable {e : PatternEntry} {r : PatternRule} {value : Value} {text : String}

/-- The pattern of an entry finds a match in a text. -/
def Matches (e : PatternEntry) (text : String) : Prop :=
  ∃ p, Pattern.compile e.pattern e.ignoreCase = .ok p ∧ p.isMatch text = true

/-- A value is what the check of an entry asks for. -/
inductive Accepts (e : PatternEntry) (value : Value) : Prop
  | equals {t : Toml.Value} (h : e.equals = some t) (heq : (value == Value.ofToml t) = true)
  | oneOf {t : Toml.Value} {ts : List Toml.Value} (h : e.oneOf = some ts) (hmem : t ∈ ts)
      (heq : (value == Value.ofToml t) = true)
  | matching {source s : String} {p : Pattern} (h : e.matching = some source)
      (hcompile : Pattern.compile source false = .ok p) (hvalue : value = .string s)
      (hmatch : p.isMatch s = true)

/-- An entry is the first one, in order, whose pattern finds a match in a text. -/
structure FirstEntry (entries : List PatternEntry) (text : String) (i : Nat) (e : PatternEntry) :
    Prop where
  getElem? : entries[i]? = some e
  isMatch : e.Matches text
  not_before : ∀ j (x : PatternEntry), j < i → entries[j]? = some x → ¬ x.Matches text

theorem Describes.matches_iff (h : e.Describes r) :
    e.Matches text ↔ r.toPartialRule.pattern.isMatch text = true := by
  have hcompile : Pattern.compile e.pattern e.ignoreCase = .ok r.pattern :=
    Pattern.compile_eq_ok_iff.mpr ⟨h.pattern, h.ignoreCase⟩
  constructor
  · rintro ⟨p, hp, hmatch⟩
    cases hp.symm.trans hcompile
    exact hmatch
  · intro hmatch
    exact ⟨r.pattern, hcompile, hmatch⟩

theorem Describes.accepts_iff (h : e.Describes r) (hone : e.HasOneCheck) :
    e.Accepts value ↔ r.check.holds value = true := by
  have hcheck := h.check
  generalize r.check = c at hcheck
  cases hcheck with
  | @equals t ht =>
    obtain ⟨hvs, hsource⟩ := hone.others_of_equals ht
    constructor
    · rintro (⟨ht', heq⟩ | ⟨hvs', -, -⟩ | ⟨hsource', -, -, -⟩)
      · cases ht.symm.trans ht'
        exact heq
      · cases hvs.symm.trans hvs'
      · cases hsource.symm.trans hsource'
    · exact .equals ht
  | @oneOf ts hts =>
    obtain ⟨hv, hsource⟩ := hone.others_of_oneOf hts
    rw [Check.holds, List.any_map, List.any_eq_true]
    constructor
    · rintro (⟨hv', -⟩ | ⟨hts', hmem, heq⟩ | ⟨hsource', -, -, -⟩)
      · cases hv.symm.trans hv'
      · cases hts.symm.trans hts'
        exact ⟨_, hmem, Value.beq_symm heq⟩
      · cases hsource.symm.trans hsource'
    · rintro ⟨t, hmem, heq⟩
      exact .oneOf hts hmem (Value.beq_symm heq)
  | @matching p hsource hcase =>
    obtain ⟨hv, hvs⟩ := hone.others_of_matching hsource
    have hcompile : Pattern.compile p.source false = .ok p :=
      Pattern.compile_eq_ok_iff.mpr ⟨rfl, hcase⟩
    constructor
    · rintro (⟨hv', -⟩ | ⟨hvs', -, -⟩ | ⟨hsource', hcompile', rfl, hmatch⟩)
      · cases hv.symm.trans hv'
      · cases hvs.symm.trans hvs'
      · cases hsource.symm.trans hsource'
        cases hcompile.symm.trans hcompile'
        exact hmatch
    · intro hholds
      cases value with
      | string s => exact .matching hsource hcompile rfl hholds
      | _ => cases hholds

section Rules

variable {entries : List PatternEntry} {rules : List PatternRule}

/-- The first entry that matches makes the first rule that does. -/
theorem exists_first_rule (hrules : List.Forall₂ Describes entries rules) {i : Nat}
    (h : FirstEntry entries text i e) :
    ∃ r, e.Describes r ∧ (rules.map (·.toPartialRule))[i]? = some r.toPartialRule ∧
      r.toPartialRule.pattern.isMatch text = true ∧
      ∀ j x, j < i → (rules.map (·.toPartialRule))[j]? = some x →
        x.pattern.isMatch text = false := by
  rcases forall₂_getElem? hrules i with ⟨hnone, -⟩ | ⟨e', r, he', hr, hdescribes⟩
  · cases h.getElem?.symm.trans hnone
  · cases h.getElem?.symm.trans he'
    refine ⟨r, hdescribes, by simp [hr], hdescribes.matches_iff.mp h.isMatch, fun j x hj hx => ?_⟩
    rw [List.getElem?_map] at hx
    obtain ⟨r', hr', rfl⟩ := Option.map_eq_some_iff.mp hx
    rcases forall₂_getElem? hrules j with ⟨-, hnone⟩ | ⟨e', r'', he', hr'', hdescribes'⟩
    · cases hr'.symm.trans hnone
    · cases hr'.symm.trans hr''
      exact Bool.eq_false_iff.mpr fun hmatch =>
        h.not_before j e' hj he' (hdescribes'.matches_iff.mpr hmatch)

theorem exists_isMatch_iff (hrules : List.Forall₂ Describes entries rules) :
    (∃ x ∈ rules.map (·.toPartialRule), x.pattern.isMatch text = true) ↔
      ∃ e ∈ entries, e.Matches text := by
  induction hrules with
  | nil => simp
  | cons hr _ ih =>
    rw [List.map_cons, List.exists_mem_cons_iff, List.exists_mem_cons_iff, ih, hr.matches_iff]

end Rules

end PatternEntry

end Clausal
