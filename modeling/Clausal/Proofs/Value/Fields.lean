import Clausal.Proofs.Value.Equality
import Mathlib.Data.List.Induction
import Mathlib.Data.String.Basic

/-!
# The fields of objects

Putting a value into fields changes only what is found under its own key.  So an object that is made
of entries in any order has, under each key, the last of their values
(`Value.Fields.lookup_ofEntries`), and two objects are equal exactly if they have the same keys and
equal values under them (`Value.Fields.toValue_beq_toValue_iff`).

## Main definitions

- `Value.SameFields`: the same keys, and equal values under them
-/

namespace Clausal

namespace Value

variable {key k l : String} {value x y : Value} {f : String × Value}
  {fields fs gs entries : List (String × Value)}

theorem lookup_cons_eq_ite {α : Type} (key k : String) (a : α) (rest : List (String × α)) :
    ((k, a) :: rest).lookup key = if key = k then some a else rest.lookup key := by
  by_cases h : key = k
  · rw [h, List.lookup_cons_self, if_pos rfl]
  · rw [List.lookup_cons, beq_false_of_ne h, if_neg h]

theorem mem_of_lookup_eq_some {α : Type} {a : α} {rest : List (String × α)}
    (h : rest.lookup key = some a) : (key, a) ∈ rest := by
  obtain ⟨before, after, rfl, -⟩ := List.lookup_eq_some_iff.mp h
  exact List.mem_append_right before List.mem_cons_self

namespace Increasing

theorem tail (h : Increasing (f :: fields)) : Increasing fields :=
  h.of_cons

theorem lookup_tail_eq_none (h : Increasing ((k, x) :: fields)) (hkey : key ≤ k) :
    fields.lookup key = none := by
  rw [List.lookup_eq_none_iff]
  intro g hg
  have hlt : k < g.1 := List.rel_of_pairwise_cons h hg
  have hne : key ≠ g.1 := (hkey.trans_lt hlt).ne
  simpa using hne

theorem lookup_eq_some_iff (h : Increasing fields) :
    fields.lookup key = some x ↔ (key, x) ∈ fields := by
  constructor
  · exact mem_of_lookup_eq_some
  · intro hmem
    induction fields with
    | nil => cases hmem
    | cons g fields ih =>
      rcases List.mem_cons.mp hmem with rfl | hrest
      · exact List.lookup_cons_self
      · have hlt : g.1 < key := List.rel_of_pairwise_cons h hrest
        rw [lookup_cons_eq_ite, if_neg hlt.ne']
        exact ih h.tail hrest

theorem le_of_isSome_lookup (h : Increasing ((k, x) :: fields))
    (hkey : (((k, x) :: fields).lookup key).isSome = true) : k ≤ key := by
  by_contra hlt
  have hle : key ≤ k := (not_le.mp hlt).le
  have hne : key ≠ k := (not_le.mp hlt).ne
  rw [lookup_cons_eq_ite, if_neg hne, h.lookup_tail_eq_none hle] at hkey
  cases hkey

end Increasing

theorem lookup_putField (k : String) (value : Value) (fields : List (String × Value))
    (key : String) : (putField k value fields).lookup key =
      if key = k then some value else fields.lookup key := by
  induction fields with
  | nil => exact lookup_cons_eq_ite key k value []
  | cons g fields ih =>
    obtain ⟨l, x⟩ := g
    rw [putField]
    by_cases hlt : k < l
    · rw [if_pos hlt, lookup_cons_eq_ite]
    · rw [if_neg hlt]
      by_cases heq : k = l
      · subst heq
        rw [if_pos rfl, lookup_cons_eq_ite, lookup_cons_eq_ite]
        by_cases hkey : key = k
        · rw [if_pos hkey, if_pos hkey]
        · rw [if_neg hkey, if_neg hkey, if_neg hkey]
      · rw [if_neg heq, lookup_cons_eq_ite, lookup_cons_eq_ite, ih]
        by_cases hkey : key = l
        · have hne : key ≠ k := hkey ▸ Ne.symm heq
          rw [if_pos hkey, if_neg hne, if_pos hkey]
        · rw [if_neg hkey, if_neg hkey]

namespace Fields

theorem ofEntries_append_singleton (entries : List (String × Value)) (k : String)
    (value : Value) : ofEntries (entries ++ [(k, value)]) = (ofEntries entries).put k value := by
  simp only [ofEntries, List.foldl_append, List.foldl_cons, List.foldl_nil]

theorem lookup_ofEntries (entries : List (String × Value)) (key : String) :
    (ofEntries entries).entries.lookup key = entries.reverse.lookup key := by
  induction entries using List.reverseRecOn with
  | nil => rfl
  | append_singleton entries f ih =>
    obtain ⟨k, value⟩ := f
    have hreverse : (entries ++ [(k, value)]).reverse = (k, value) :: entries.reverse := by simp
    rw [ofEntries_append_singleton, put, lookup_putField, ih, hreverse, lookup_cons_eq_ite]

theorem mem_of_mem_ofEntries (h : f ∈ (ofEntries entries).entries) : f ∈ entries := by
  have hlookup := (ofEntries entries).increasing.lookup_eq_some_iff.mpr h
  rw [lookup_ofEntries] at hlookup
  exact List.mem_reverse.mp (mem_of_lookup_eq_some hlookup)

end Fields

/-- Fields have the same keys, and equal values under them. -/
structure SameFields (fs gs : List (String × Value)) : Prop where
  keys : ∀ key, (fs.lookup key).isSome = (gs.lookup key).isSome
  values : ∀ key x y, fs.lookup key = some x → gs.lookup key = some y → (x == y) = true

theorem sameFields_of_forall₂ (h : fs.Forall₂ EqualField gs) : SameFields fs gs := by
  induction h with
  | nil => exact ⟨fun key => rfl, nofun⟩
  | @cons f g fs gs hfg _ ih =>
    obtain ⟨k, x⟩ := f
    obtain ⟨l, y⟩ := g
    obtain ⟨rfl, hxy⟩ : k = l ∧ (x == y) = true := hfg
    constructor
    · intro key
      rw [lookup_cons_eq_ite, lookup_cons_eq_ite]
      split_ifs
      · rfl
      · exact ih.keys key
    · intro key u v hu hv
      rw [lookup_cons_eq_ite] at hu hv
      split_ifs at hu hv
      · cases hu
        cases hv
        exact hxy
      · exact ih.values key u v hu hv

namespace SameFields

theorem head_eq (h : SameFields ((k, x) :: fs) ((l, y) :: gs)) (hfs : Increasing ((k, x) :: fs))
    (hgs : Increasing ((l, y) :: gs)) : k = l := by
  apply le_antisymm
  · apply hfs.le_of_isSome_lookup
    rw [h.keys, List.lookup_cons_self]
    rfl
  · apply hgs.le_of_isSome_lookup
    rw [← h.keys, List.lookup_cons_self]
    rfl

theorem tail (h : SameFields ((k, x) :: fs) ((k, y) :: gs)) (hfs : Increasing ((k, x) :: fs))
    (hgs : Increasing ((k, y) :: gs)) : SameFields fs gs := by
  constructor
  · intro key
    by_cases hkey : key = k
    · rw [hfs.lookup_tail_eq_none hkey.le, hgs.lookup_tail_eq_none hkey.le]
    · have hsame := h.keys key
      rwa [lookup_cons_eq_ite, lookup_cons_eq_ite, if_neg hkey, if_neg hkey] at hsame
  · intro key u v hu hv
    have hkey : key ≠ k := by
      rintro rfl
      rw [hfs.lookup_tail_eq_none le_rfl] at hu
      cases hu
    apply h.values key u v
    · rwa [lookup_cons_eq_ite, if_neg hkey]
    · rwa [lookup_cons_eq_ite, if_neg hkey]

theorem forall₂ (h : SameFields fs gs) (hfs : Increasing fs) (hgs : Increasing gs) :
    fs.Forall₂ EqualField gs := by
  -- The least keys of both are the same, so the fields go in step.
  induction fs generalizing gs with
  | nil =>
    cases gs with
    | nil => exact .nil
    | cons g gs =>
      have hkey := h.keys g.1
      rw [List.lookup_cons_self] at hkey
      cases hkey
  | cons f fs ih =>
    cases gs with
    | nil =>
      have hkey := h.keys f.1
      rw [List.lookup_cons_self] at hkey
      cases hkey
    | cons g gs =>
      obtain ⟨k, x⟩ := f
      obtain ⟨l, y⟩ := g
      obtain rfl : k = l := h.head_eq hfs hgs
      have hxy : (x == y) = true := h.values k x y List.lookup_cons_self List.lookup_cons_self
      exact .cons ⟨rfl, hxy⟩ (ih (h.tail hfs hgs) hfs.tail hgs.tail)

end SameFields

theorem Fields.toValue_beq_toValue_iff {fs gs : Fields} :
    (fs.toValue == gs.toValue) = true ↔ SameFields fs.entries gs.entries := by
  rw [beq_iff_equal]
  constructor
  · rintro (_ | _ | _ | _ | _ | _ | h)
    exact sameFields_of_forall₂ h
  · exact fun h => .object (h.forall₂ fs.increasing gs.increasing)

end Value

end Clausal
