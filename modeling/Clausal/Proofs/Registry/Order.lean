import Clausal.Proofs.Registry
import Mathlib.Data.Finset.Card
import Mathlib.Data.List.Induction

/-!
# A registry as an ordered map

A registry of whole rules that comes about by insertions is a map from keys to rules which keeps the
order in which the keys came up.  A step either writes to the position of a known key, and leaves
all keys where they are, or puts a new key after all others (`WholeRegistry.map_keyOf_insert`).  So
after any insertions the positions are those of the rules, a phrase has the rule that was inserted
last under its key, and the keys stand in the order of their first insertions
(`WholeRegistry.insertAll_isOrderedMap`).

## Main definitions

- `PhraseCase.Alike`: phrases that count as one
- `WholeRegistry.IsLatest`: the rule that was inserted last for a phrase
-/

namespace Clausal

/-- Of a list with one more element the first occurrences are those before, and the new element if
it is none of them. -/
theorem eraseDups_append_singleton {α : Type} [DecidableEq α] (xs : List α) (x : α) :
    (xs ++ [x]).eraseDups = if x ∈ xs then xs.eraseDups else xs.eraseDups ++ [x] := by
  rw [List.eraseDups_append, List.removeAll]
  by_cases hmem : x ∈ xs
  · simp [hmem]
  · have hfilter : [x].filter (fun y => !xs.contains y) = [x] := by simp [hmem]
    have hone : [x].eraseDups = [x] := by simp [List.eraseDups_cons]
    rw [if_neg hmem]
    exact congrArg (xs.eraseDups ++ ·) ((congrArg List.eraseDups hfilter).trans hone)

/-- Phrases count as one: they are the same text, or they are the same in lower case where letter
case does not count. -/
def PhraseCase.Alike : PhraseCase → String → String → Prop
  | .sensitive, phrase, other => phrase = other
  | .insensitive, phrase, other => lowerCase phrase = lowerCase other

theorem PhraseCase.key_eq_key_iff {case : PhraseCase} {phrase other : String} :
    case.key phrase = case.key other ↔ case.Alike phrase other := by
  cases case with
  | sensitive => exact Iff.rfl
  | insensitive => exact Iff.rfl

namespace WholeRegistry

variable {w : WholeRegistry} {rules : List WholeRule} {rule : WholeRule} {phrase : String}

/-- Of rules that are inserted in turn, one is the last whose phrase counts as a certain one. -/
def IsLatest (case : PhraseCase) (rules : List WholeRule) (phrase : String) (rule : WholeRule) :
    Prop :=
  ∃ earlier later, rules = earlier ++ rule :: later ∧ case.Alike rule.phrase phrase ∧
    ∀ r ∈ later, ¬ case.Alike r.phrase phrase

theorem insertAll_append_singleton (w : WholeRegistry) (rules : List WholeRule)
    (rule : WholeRule) : w.insertAll (rules ++ [rule]) = (w.insertAll rules).insert rule := by
  simp only [insertAll, List.foldl_append, List.foldl_cons, List.foldl_nil]

@[simp] theorem case_insertAll (w : WholeRegistry) (rules : List WholeRule) :
    (w.insertAll rules).case = w.case := by
  induction rules using List.reverseRecOn with
  | nil => rfl
  | append_singleton rules rule ih => rw [insertAll_append_singleton, case_insert, ih]

theorem Indexed.insertAll (h : w.Indexed) (rules : List WholeRule) :
    (w.insertAll rules).Indexed := by
  induction rules using List.reverseRecOn with
  | nil => exact h
  | append_singleton rules rule ih =>
    rw [insertAll_append_singleton]
    exact ih.insert rule

theorem keyOf_insertAll_empty (case : PhraseCase) (rules : List WholeRule) :
    ((empty case).insertAll rules).keyOf = fun r => case.key r.phrase := by
  funext r
  rw [keyOf, case_insertAll]
  rfl

/-- An insertion leaves the keys as they are, or adds a new one after all others. -/
theorem map_keyOf_insert (h : w.Indexed) (rule : WholeRule) :
    (w.insert rule).rules.map w.keyOf =
      if w.keyOf rule ∈ w.rules.map w.keyOf then w.rules.map w.keyOf
      else w.rules.map w.keyOf ++ [w.keyOf rule] := by
  cases hkey : (w.rules.map w.keyOf).findIdx? (· == w.keyOf rule) with
  | none =>
    have hnew : w.keyOf rule ∉ w.rules.map w.keyOf := by
      intro hmem
      have hne := List.findIdx?_eq_none_iff.mp hkey _ hmem
      simp at hne
    rw [insert_of_none h hkey, if_neg hnew]
    simp
  | some slot =>
    obtain ⟨r, hr, hrkey⟩ := getElem?_of_findIdx?_eq_some hkey
    have hold : w.keyOf rule ∈ w.rules.map w.keyOf := by
      rw [← hrkey]
      exact List.mem_map_of_mem (List.mem_of_getElem? hr)
    rw [insert_of_some h hkey, if_pos hold]
    exact map_keyOf_set hkey

/-- The keys of a registry made of rules are those of the rules, each where it comes up first. -/
theorem map_keyOf_insertAll_empty (case : PhraseCase) (rules : List WholeRule) :
    ((empty case).insertAll rules).rules.map (fun r => case.key r.phrase) =
      (rules.map fun r => case.key r.phrase).eraseDups := by
  induction rules using List.reverseRecOn with
  | nil => rfl
  | append_singleton rules rule ih =>
    have hindexed := (indexed_empty case).insertAll rules
    have hstep := map_keyOf_insert hindexed rule
    rw [keyOf_insertAll_empty, ih] at hstep
    simp only [List.mem_eraseDups] at hstep
    rw [insertAll_append_singleton, hstep, List.map_append]
    exact (eraseDups_append_singleton _ _).symm

/-- A phrase has the rule that was inserted last for it. -/
theorem resolve?_insertAll_empty_iff_isLatest (case : PhraseCase) (rules : List WholeRule)
    (phrase : String) : ((empty case).insertAll rules).resolve? phrase = some rule ↔
      IsLatest case rules phrase rule := by
  simp only [IsLatest, ← PhraseCase.key_eq_key_iff]
  have hresolve := resolve?_insertAll (indexed_empty case) rules phrase
  rw [show (empty case).resolve? phrase = none from rfl, Option.or_none] at hresolve
  simp only [keyOf, show (empty case).case = case from rfl] at hresolve
  rw [hresolve, List.find?_eq_some_iff_append]
  constructor
  · rintro ⟨hkey, before, after, hsplit, hbefore⟩
    refine ⟨after.reverse, before.reverse, ?_, by simpa using hkey, ?_⟩
    · rw [← List.reverse_reverse rules, hsplit]
      simp
    · intro r hr
      simpa using hbefore r (List.mem_reverse.mp hr)
  · rintro ⟨earlier, later, rfl, hkey, hlater⟩
    refine ⟨by simpa using hkey, later.reverse, earlier.reverse, by simp, ?_⟩
    intro r hr
    simpa using hlater r (List.mem_reverse.mp hr)

namespace Indexed

variable {key : String} {slot : Nat}

/-- The positions that a registry in order knows are those of its rules. -/
theorem lookup_eq_some_iff (h : w.Indexed) :
    w.slots.lookup key = some slot ↔
      ∃ hlt : slot < w.rules.length, w.keyOf w.rules[slot] = key := by
  rw [h.lookup_eq]
  constructor
  · intro hfind
    obtain ⟨r, hr, hkey⟩ := getElem?_of_findIdx?_eq_some hfind
    obtain ⟨hlt, rfl⟩ := List.getElem?_eq_some_iff.mp hr
    exact ⟨hlt, hkey⟩
  · rintro ⟨hlt, rfl⟩
    have hmem : w.keyOf w.rules[slot] ∈ w.rules.map w.keyOf :=
      List.mem_map_of_mem (List.getElem_mem hlt)
    cases hfind : (w.rules.map w.keyOf).findIdx? (· == w.keyOf w.rules[slot]) with
    | none =>
      have hne := List.findIdx?_eq_none_iff.mp hfind _ hmem
      simp at hne
    | some other =>
      obtain ⟨r, hr, hkey⟩ := getElem?_of_findIdx?_eq_some hfind
      rw [h.eq_of_keyOf_eq hr (List.getElem?_eq_getElem hlt) hkey]

theorem mem_slots_iff (h : w.Indexed) :
    (key, slot) ∈ w.slots ↔ w.slots.lookup key = some slot := by
  rw [h.lookup_eq_some_iff, h.slots_eq, List.mem_zipIdx_iff_getElem?, List.getElem?_map]
  constructor
  · intro hget
    obtain ⟨r, hr, hkey⟩ := Option.map_eq_some_iff.mp hget
    obtain ⟨hlt, rfl⟩ := List.getElem?_eq_some_iff.mp hr
    exact ⟨hlt, hkey⟩
  · rintro ⟨hlt, rfl⟩
    rw [List.getElem?_eq_getElem hlt]
    rfl

end Indexed

/-- A registry is an ordered map from keys to rules, whatever rules are inserted.  The positions
that it knows are those of its rules, each of them under the key of its rule and under no other, so
an insertion never writes outside.  Two phrases have one key exactly if they are the same, in lower
case if letter case does not count.  A phrase has the rule that was inserted last for a phrase with
its key, and none if no rule was.  There is one rule for each key, the latest one, in the order in
which the keys were first inserted, and the size is the number of different keys. -/
theorem insertAll_isOrderedMap (case : PhraseCase) (rules : List WholeRule) :
    (∀ phrase other, case.key phrase = case.key other ↔ case.Alike phrase other) ∧
    (∀ key slot, ((empty case).insertAll rules).slots.lookup key = some slot →
      ∃ hlt : slot < ((empty case).insertAll rules).rules.length,
        case.key ((empty case).insertAll rules).rules[slot].phrase = key) ∧
    (∀ slot < ((empty case).insertAll rules).rules.length,
      ∃! key, ((empty case).insertAll rules).slots.lookup key = some slot) ∧
    (∀ key slot, (key, slot) ∈ ((empty case).insertAll rules).slots ↔
      ((empty case).insertAll rules).slots.lookup key = some slot) ∧
    (∀ phrase rule, ((empty case).insertAll rules).resolve? phrase = some rule ↔
      IsLatest case rules phrase rule) ∧
    (∀ phrase, ((empty case).insertAll rules).resolve? phrase = none ↔
      ∀ r ∈ rules, ¬ case.Alike r.phrase phrase) ∧
    ((empty case).insertAll rules).rules.map (fun r => case.key r.phrase) =
      (rules.map fun r => case.key r.phrase).eraseDups ∧
    (∀ r ∈ ((empty case).insertAll rules).rules, IsLatest case rules r.phrase r) ∧
    ((empty case).insertAll rules).size = (rules.map fun r => case.key r.phrase).toFinset.card := by
  have hindexed := (indexed_empty case).insertAll rules
  have hkeys := map_keyOf_insertAll_empty case rules
  have hkeyOf : ((empty case).insertAll rules).keyOf = fun r => case.key r.phrase :=
    keyOf_insertAll_empty case rules
  have hslots {key : String} {slot : Nat} :
      ((empty case).insertAll rules).slots.lookup key = some slot ↔
        ∃ hlt : slot < ((empty case).insertAll rules).rules.length,
          case.key ((empty case).insertAll rules).rules[slot].phrase = key := by
    rw [hindexed.lookup_eq_some_iff, hkeyOf]
  refine ⟨fun phrase other => PhraseCase.key_eq_key_iff, fun key slot => hslots.mp, ?_,
    fun key slot => hindexed.mem_slots_iff,
    fun phrase rule => resolve?_insertAll_empty_iff_isLatest case rules phrase, ?_, hkeys, ?_, ?_⟩
  · intro slot hlt
    refine ⟨_, hslots.mpr ⟨hlt, rfl⟩, ?_⟩
    intro key hkey
    obtain ⟨-, rfl⟩ := hslots.mp hkey
    rfl
  · intro phrase
    rw [← Option.not_isSome_iff_eq_none, isSome_resolve?_insertAll_empty]
    push Not
    simp only [ne_eq, PhraseCase.key_eq_key_iff]
  · intro r hr
    rw [← resolve?_insertAll_empty_iff_isLatest, resolve?_eq_some_iff hindexed]
    exact ⟨hr, by rw [keyOf]⟩
  · -- The keys of the rules differ, so there are as many of them as there are rules.
    have hnodup : (((empty case).insertAll rules).rules.map fun r => case.key r.phrase).Nodup := by
      rw [← hkeyOf]
      exact hindexed.nodup
    have hsame : (((empty case).insertAll rules).rules.map fun r => case.key r.phrase).toFinset =
        (rules.map fun r => case.key r.phrase).toFinset := by
      ext key
      rw [hkeys, List.mem_toFinset, List.mem_toFinset, List.mem_eraseDups]
    rw [← hsame, List.toFinset_card_of_nodup hnodup, List.length_map, size]

/-- A rule takes the place of one whose phrase differs in letter case only, if case does not
count. -/
theorem insertAll_isOrderedMap_cases :
    ((empty .insensitive).insertAll [⟨"Even", fun _ => true⟩, ⟨"odd", fun _ => true⟩,
        ⟨"EVEN", fun _ => false⟩]).resolve? "eVen" = some ⟨"EVEN", fun _ => false⟩ ∧
      ((empty .insensitive).insertAll [⟨"Even", fun _ => true⟩, ⟨"odd", fun _ => true⟩,
        ⟨"EVEN", fun _ => false⟩]).rules.map (fun r => lowerCase r.phrase) = ["even", "odd"] ∧
      ((empty .sensitive).insertAll [⟨"Even", fun _ => true⟩, ⟨"odd", fun _ => true⟩,
        ⟨"EVEN", fun _ => false⟩]).resolve? "eVen" = none := by
  obtain ⟨-, -, -, -, hlatest, -, hkeys, -⟩ := insertAll_isOrderedMap .insensitive
    [⟨"Even", fun _ => true⟩, ⟨"odd", fun _ => true⟩, ⟨"EVEN", fun _ => false⟩]
  obtain ⟨-, -, -, -, -, hnone, -⟩ := insertAll_isOrderedMap .sensitive
    [⟨"Even", fun _ => true⟩, ⟨"odd", fun _ => true⟩, ⟨"EVEN", fun _ => false⟩]
  have hcase : lowerCase "EVEN" = lowerCase "eVen" := by decide +kernel
  have hfirst : ["Even", "odd", "EVEN"].map lowerCase = ["even", "odd", "even"] := by
    decide +kernel
  refine ⟨(hlatest "eVen" _).mpr ⟨[⟨"Even", fun _ => true⟩, ⟨"odd", fun _ => true⟩], [], rfl,
    hcase, nofun⟩, hkeys.trans (congrArg List.eraseDups hfirst), (hnone "eVen").mpr ?_⟩
  simp [PhraseCase.Alike]

end WholeRegistry

end Clausal
