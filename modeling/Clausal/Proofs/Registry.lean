import Clausal.Registry
import Mathlib.Data.List.Nodup

/-!
# Looking up phrases

A registry of whole rules keeps for each key the position of its rule.  `WholeRegistry.Indexed` is
the invariant that holds this together: the keys are those of the rules, in order, and no two rules
have one key.  So looking a phrase up finds the rule that was inserted last under its key
(`WholeRegistry.resolve?_insertAll`).

## Main definitions

- `WholeRegistry.keyOf`: the key of a rule
- `WholeRegistry.Indexed`: the positions are those of the rules, and each key has one rule
-/

namespace Clausal

namespace WholeRegistry

variable {w : WholeRegistry} {rule : WholeRule} {phrase : String}

/-- The key of a rule. -/
def keyOf (w : WholeRegistry) (rule : WholeRule) : String :=
  w.case.key rule.phrase

/-- The positions of a registry are those of its rules, and no two rules have one key. -/
structure Indexed (w : WholeRegistry) : Prop where
  slots_eq : w.slots = (w.rules.map w.keyOf).zipIdx
  nodup : (w.rules.map w.keyOf).Nodup

/-- Looking a key up in a list of keys with positions finds its position. -/
theorem lookup_zipIdx (keys : List String) (key : String) (n : Nat) :
    (keys.zipIdx n).lookup key = (keys.findIdx? (· == key)).map (· + n) := by
  induction keys generalizing n with
  | nil => rfl
  | cons k keys ih =>
    rw [List.zipIdx_cons, List.findIdx?_cons]
    by_cases h : k = key
    · subst h
      simp
    · rw [List.lookup_cons, beq_false_of_ne (Ne.symm h), ih, if_neg (by simpa using h),
        Option.map_map]
      exact congrArg (Option.map · _) (funext fun i => by simp [Nat.add_comm, Nat.add_left_comm])

theorem indexed_empty (case : PhraseCase) : (empty case).Indexed :=
  ⟨rfl, List.nodup_nil⟩

namespace Indexed

theorem lookup_eq (h : w.Indexed) (key : String) :
    w.slots.lookup key = (w.rules.map w.keyOf).findIdx? (· == key) := by
  rw [h.slots_eq, lookup_zipIdx]
  simp

theorem resolve?_eq (h : w.Indexed) (phrase : String) :
    w.resolve? phrase = ((w.rules.map w.keyOf).findIdx? (· == w.case.key phrase)).bind
      fun i => w.rules[i]? := by
  rw [resolve?, h.lookup_eq]

end Indexed

theorem insert_of_none (h : w.Indexed)
    (hkey : (w.rules.map w.keyOf).findIdx? (· == w.keyOf rule) = none) :
    w.insert rule = ⟨w.case, w.rules ++ [rule], w.slots ++ [(w.keyOf rule, w.rules.length)]⟩ := by
  rw [← h.lookup_eq] at hkey
  simp only [insert]
  rw [show w.case.key rule.phrase = w.keyOf rule from rfl, hkey]

theorem insert_of_some {i : Nat} (h : w.Indexed)
    (hkey : (w.rules.map w.keyOf).findIdx? (· == w.keyOf rule) = some i) :
    w.insert rule = ⟨w.case, w.rules.set i rule, w.slots⟩ := by
  rw [← h.lookup_eq] at hkey
  simp only [insert]
  rw [show w.case.key rule.phrase = w.keyOf rule from rfl, hkey]

theorem map_keyOf_set {i : Nat}
    (hkey : (w.rules.map w.keyOf).findIdx? (· == w.keyOf rule) = some i) :
    (w.rules.set i rule).map w.keyOf = w.rules.map w.keyOf := by
  obtain ⟨hi, hget, -⟩ := List.findIdx?_eq_some_iff_getElem.mp hkey
  rw [List.map_set, ← beq_iff_eq.mp hget, List.set_getElem_self]

theorem Indexed.insert (h : w.Indexed) (rule : WholeRule) : (w.insert rule).Indexed := by
  cases hkey : (w.rules.map w.keyOf).findIdx? (· == w.keyOf rule) with
  | none =>
    rw [insert_of_none h hkey]
    -- The new key comes last, and is none of those before it.
    have hkeys : (w.rules ++ [rule]).map w.keyOf = w.rules.map w.keyOf ++ [w.keyOf rule] := by
      simp
    constructor
    · change w.slots ++ _ = ((w.rules ++ [rule]).map w.keyOf).zipIdx
      rw [hkeys, List.zipIdx_append, h.slots_eq]
      simp
    · change ((w.rules ++ [rule]).map w.keyOf).Nodup
      rw [hkeys, List.nodup_append]
      refine ⟨h.nodup, by simp, fun a ha b hb => ?_⟩
      obtain rfl := List.mem_singleton.mp hb
      exact by simpa using List.findIdx?_eq_none_iff.mp hkey a ha
  | some i =>
    rw [insert_of_some h hkey]
    constructor
    · change w.slots = ((w.rules.set i rule).map w.keyOf).zipIdx
      rw [map_keyOf_set hkey, h.slots_eq]
    · change ((w.rules.set i rule).map w.keyOf).Nodup
      rw [map_keyOf_set hkey]
      exact h.nodup

@[simp] theorem case_insert (w : WholeRegistry) (rule : WholeRule) :
    (w.insert rule).case = w.case := by
  rw [insert]
  split <;> rfl

theorem Indexed.eq_of_keyOf_eq {i j : Nat} {r r' : WholeRule} (h : w.Indexed)
    (hi : w.rules[i]? = some r) (hj : w.rules[j]? = some r') (hkey : w.keyOf r = w.keyOf r') :
    i = j := by
  obtain ⟨hlt, -⟩ := List.getElem?_eq_some_iff.mp hi
  refine (List.getElem?_inj (by rwa [List.length_map]) h.nodup).mp ?_
  rw [List.getElem?_map, List.getElem?_map, hi, hj, Option.map_some, Option.map_some, hkey]

/-- The position of a key is that of a rule with the key. -/
theorem getElem?_of_findIdx?_eq_some {i : Nat} {key : String}
    (hkey : (w.rules.map w.keyOf).findIdx? (· == key) = some i) :
    ∃ r, w.rules[i]? = some r ∧ w.keyOf r = key := by
  obtain ⟨hlt, hget, -⟩ := List.findIdx?_eq_some_iff_getElem.mp hkey
  rw [List.length_map] at hlt
  exact ⟨w.rules[i], List.getElem?_eq_getElem hlt, by simpa using hget⟩

/-- The rules of a registry in order are found exactly under their keys. -/
theorem resolve?_eq_some_iff (h : w.Indexed) {r : WholeRule} :
    w.resolve? phrase = some r ↔ r ∈ w.rules ∧ w.keyOf r = w.case.key phrase := by
  rw [h.resolve?_eq, Option.bind_eq_some_iff]
  constructor
  · rintro ⟨i, hi, hr⟩
    obtain ⟨r', hr', hkey⟩ := getElem?_of_findIdx?_eq_some hi
    cases hr.symm.trans hr'
    exact ⟨List.mem_of_getElem? hr, hkey⟩
  · rintro ⟨hr, hkey⟩
    obtain ⟨j, hj⟩ := List.mem_iff_getElem?.mp hr
    -- Some position has the key, and since no two have, it is the one of the rule.
    cases hfind : (w.rules.map w.keyOf).findIdx? (· == w.case.key phrase) with
    | none =>
      have hne := List.findIdx?_eq_none_iff.mp hfind _ (List.mem_map_of_mem hr)
      simp [hkey] at hne
    | some i =>
      obtain ⟨r', hr', hkey'⟩ := getElem?_of_findIdx?_eq_some hfind
      obtain rfl := h.eq_of_keyOf_eq hj hr' (hkey.trans hkey'.symm)
      exact ⟨j, rfl, hj⟩

/-- What a registry has after a rule has been inserted: the rule, and what it had under other
keys. -/
theorem mem_rules_insert_iff (h : w.Indexed) {r : WholeRule} :
    r ∈ (w.insert rule).rules ↔ r = rule ∨ (r ∈ w.rules ∧ w.keyOf r ≠ w.keyOf rule) := by
  cases hkey : (w.rules.map w.keyOf).findIdx? (· == w.keyOf rule) with
  | none =>
    have hne : r ∈ w.rules → w.keyOf r ≠ w.keyOf rule := fun hr => by
      simpa using List.findIdx?_eq_none_iff.mp hkey _ (List.mem_map_of_mem hr)
    rw [insert_of_none h hkey, List.mem_append, List.mem_singleton, or_comm]
    exact or_congr_right ⟨fun hr => ⟨hr, hne hr⟩, And.left⟩
  | some i =>
    obtain ⟨old, hold, holdKey⟩ := getElem?_of_findIdx?_eq_some hkey
    obtain ⟨hlt, -⟩ := List.getElem?_eq_some_iff.mp hold
    rw [insert_of_some h hkey]
    -- The rule at position `i` goes; no other one had its key.
    constructor
    · intro hr
      obtain ⟨j, hj⟩ := List.mem_iff_getElem?.mp hr
      rw [List.getElem?_set] at hj
      split at hj
      · exact .inl (Option.some.inj hj).symm
      · next hij =>
        exact .inr ⟨List.mem_of_getElem? hj,
          fun hr => hij (h.eq_of_keyOf_eq hold hj (holdKey.trans hr.symm))⟩
    · rintro (rfl | ⟨hr, hne⟩)
      · exact List.mem_set hlt _
      · obtain ⟨j, hj⟩ := List.mem_iff_getElem?.mp hr
        have hij : i ≠ j := by
          rintro rfl
          cases hold.symm.trans hj
          exact hne holdKey
        exact List.mem_iff_getElem?.mpr ⟨j, by rw [List.getElem?_set_ne hij, hj]⟩

/-- A rule that has been inserted is found under its key, and under all other keys what was. -/
theorem resolve?_insert (h : w.Indexed) (rule : WholeRule) (phrase : String) :
    (w.insert rule).resolve? phrase =
      if w.keyOf rule = w.case.key phrase then some rule else w.resolve? phrase := by
  ext r
  have hkeyOf : (w.insert rule).keyOf r = w.keyOf r := by rw [keyOf, case_insert, keyOf]
  rw [resolve?_eq_some_iff (h.insert rule), mem_rules_insert_iff h, hkeyOf, case_insert]
  split
  · next hkey =>
    constructor
    · rintro ⟨rfl | ⟨-, hne⟩, hr⟩
      · rfl
      · exact absurd (hr.trans hkey.symm) hne
    · rintro ⟨⟩
      exact ⟨.inl rfl, hkey⟩
  · next hkey =>
    rw [resolve?_eq_some_iff h]
    constructor
    · rintro ⟨rfl | ⟨hr, -⟩, hr'⟩
      · exact absurd hr' hkey
      · exact ⟨hr, hr'⟩
    · rintro ⟨hr, hr'⟩
      exact ⟨.inr ⟨hr, fun h => hkey (h.symm.trans hr')⟩, hr'⟩

/-- Of rules that are inserted in turn the last one with the key of a phrase is found, and if there
is none then what was. -/
theorem resolve?_insertAll (h : w.Indexed) (rules : List WholeRule) (phrase : String) :
    (w.insertAll rules).resolve? phrase =
      (rules.reverse.find? fun r => w.keyOf r == w.case.key phrase).or (w.resolve? phrase) := by
  -- Each insertion changes what is found under one key, and the later ones come after it.
  induction rules generalizing w with
  | nil => rfl
  | cons rule rules ih =>
    rw [insertAll, List.foldl_cons, ← insertAll, ih (h.insert rule), resolve?_insert h,
      List.reverse_cons, List.find?_append, List.find?_singleton, Option.or_assoc]
    simp only [keyOf, case_insert]
    by_cases hkey : w.case.key rule.phrase = w.case.key phrase <;> simp [hkey]

/-- In a registry made of rules a phrase is found if it has the key of one of them. -/
theorem isSome_resolve?_insertAll_empty (case : PhraseCase) (rules : List WholeRule)
    (phrase : String) : (((empty case).insertAll rules).resolve? phrase).isSome = true ↔
      ∃ r ∈ rules, case.key r.phrase = case.key phrase := by
  rw [resolve?_insertAll (indexed_empty case), show (empty case).resolve? phrase = none from rfl,
    Option.or_none, List.find?_isSome]
  simp only [List.mem_reverse, beq_iff_eq]
  rfl

/-- In a registry made of rules whose keys differ a phrase has the rule with its key. -/
theorem resolve?_insertAll_empty_eq_some_iff {case : PhraseCase} {rules : List WholeRule}
    (hnodup : (rules.map fun r => case.key r.phrase).Nodup) :
    ((empty case).insertAll rules).resolve? phrase = some rule ↔
      rule ∈ rules ∧ case.key rule.phrase = case.key phrase := by
  have hkey (r : WholeRule) : (empty case).keyOf r = case.key r.phrase := rfl
  have hcase : (empty case).case = case := rfl
  rw [resolve?_insertAll (indexed_empty case), show (empty case).resolve? phrase = none from rfl,
    Option.or_none]
  simp only [hkey, hcase]
  constructor
  · intro h
    exact ⟨List.mem_reverse.mp (List.mem_of_find?_eq_some h), by simpa using List.find?_some h⟩
  · rintro ⟨hrule, hphrase⟩
    cases hfind : rules.reverse.find? fun r => case.key r.phrase == case.key phrase with
    | none =>
      have hne := List.find?_eq_none.mp hfind rule (List.mem_reverse.mpr hrule)
      simp [hphrase] at hne
    | some found =>
      have hmem : found ∈ rules := List.mem_reverse.mp (List.mem_of_find?_eq_some hfind)
      have hfound : case.key found.phrase = case.key phrase := by simpa using List.find?_some hfind
      rw [List.inj_on_of_nodup_map hnodup hmem hrule (hfound.trans hphrase.symm)]

end WholeRegistry

end Clausal
