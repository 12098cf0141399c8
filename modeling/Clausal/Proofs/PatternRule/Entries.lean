import Clausal.Proofs.PatternRule.Entry
import Mathlib.Data.Finset.Card
import Mathlib.Data.List.Dedup

/-!
# What the entries of a document become

Entries make rules if each of them is valid and no two have the same name
(`PatternRules.ofEntries_outcome`).  The rules are then those that the entries describe, in order.
Otherwise the error is the first fault of the first entry that is not valid, or, if all are, it
lists the names that occur before.

## Main definitions

- `repeats`: the members of a list that occur earlier in it
-/

namespace Clausal

namespace PatternEntry

variable {e : PatternEntry} {position : Nat} {err : PatternsError}
  {entries : List PatternEntry} {rules : List PatternRule}

theorem toRules_eq_ok_iff : toRules position entries = .ok rules ↔
    (∀ e ∈ entries, e.Valid) ∧ List.Forall₂ Describes entries rules := by
  induction entries generalizing position rules with
  | nil => simp [toRules, eq_comm]
  | cons e entries ih =>
    simp only [toRules, bind_eq_ok_iff, toRule_eq_ok_iff, ih, List.forall_mem_cons,
      List.forall₂_cons_left_iff]
    constructor
    · rintro ⟨r, ⟨hvalid, hr⟩, rest, ⟨hall, hrest⟩, hrules⟩
      cases hrules
      exact ⟨⟨hvalid, hall⟩, r, rest, hr, hrest, rfl⟩
    · rintro ⟨⟨hvalid, hall⟩, r, rest, hr, hrest, rfl⟩
      exact ⟨r, ⟨hvalid, hr⟩, rest, ⟨hall, hrest⟩, rfl⟩

/-- The first entry that is not valid gives the error, whatever comes after it. -/
theorem toRules_append {pre post : List PatternEntry} (hpre : ∀ x ∈ pre, x.Valid)
    (h : e.FirstFault (place (position + pre.length)) err) :
    toRules position (pre ++ e :: post) = .error err := by
  induction pre generalizing position with
  | nil =>
    have hr : e.toRule position = .error err := toRule_eq_error_iff.mpr h
    rw [List.nil_append, toRules, hr]
    rfl
  | cons x pre ih =>
    obtain ⟨hx, hpre⟩ := List.forall_mem_cons.mp hpre
    obtain ⟨r, hr⟩ := hx.exists_describes
    have hplace : position + (x :: pre).length = position + 1 + pre.length := by
      rw [List.length_cons]
      omega
    rw [List.cons_append, toRules, toRule_eq_ok_iff.mpr ⟨hx, hr⟩, ih hpre (hplace ▸ h)]
    rfl

end PatternEntry

section Repeats

variable {α β : Type} [DecidableEq α] [DecidableEq β]

/-- The members of a list that occur earlier in it, in order. -/
def repeats (xs : List α) : List α :=
  (xs.zipIdx.filter fun p => p.1 ∈ xs.take p.2).map (·.1)

theorem repeats_append_singleton (xs : List α) (x : α) :
    repeats (xs ++ [x]) = if x ∈ xs then repeats xs ++ [x] else repeats xs := by
  have hbefore : (xs.zipIdx.filter fun p => p.1 ∈ (xs ++ [x]).take p.2) =
      xs.zipIdx.filter fun p => p.1 ∈ xs.take p.2 := by
    apply List.filter_congr
    intro p hp
    have hlt : p.2 < xs.length := by
      simpa using List.snd_lt_of_mem_zipIdx hp
    rw [List.take_append_of_le_length hlt.le]
  simp only [repeats, List.zipIdx_append, List.filter_append, List.map_append, hbefore]
  split <;> simp [*]

theorem repeats_map {f : α → β} (hf : Function.Injective f) (xs : List α) :
    repeats (xs.map f) = (repeats xs).map f := by
  induction xs using List.reverseRecOn with
  | nil => rfl
  | append_singleton xs x ih =>
    have hmem : f x ∈ xs.map f ↔ x ∈ xs := List.mem_map_of_injective hf
    rw [List.map_append, List.map_singleton, repeats_append_singleton, repeats_append_singleton, ih]
    by_cases hx : x ∈ xs
    · rw [if_pos hx, if_pos (hmem.mpr hx), List.map_append, List.map_singleton]
    · rw [if_neg hx, if_neg (mt hmem.mp hx)]

theorem repeats_eq_nil_iff {xs : List α} : repeats xs = [] ↔ xs.Nodup := by
  induction xs using List.reverseRecOn with
  | nil => simp [repeats]
  | append_singleton xs x ih =>
    have hnodup : (xs ++ [x]).Nodup ↔ x ∉ xs ∧ xs.Nodup := by
      rw [← List.concat_eq_append, List.nodup_concat]
    rw [repeats_append_singleton, hnodup, ← ih]
    split <;> simp [*]

/-- Every member of a list occurs earlier in it, or occurs for the first time. -/
theorem length_repeats_add_card (xs : List α) :
    (repeats xs).length + xs.toFinset.card = xs.length := by
  induction xs using List.reverseRecOn with
  | nil => rfl
  | append_singleton xs x ih =>
    have hset : (xs ++ [x]).toFinset = insert x xs.toFinset := by
      ext
      simp
    rw [repeats_append_singleton, hset, List.length_append, List.length_singleton, ← ih]
    by_cases hx : x ∈ xs
    · rw [if_pos hx, Finset.insert_eq_of_mem (List.mem_toFinset.mpr hx), List.length_append,
        List.length_singleton]
      omega
    · rw [if_neg hx, Finset.card_insert_of_notMem (mt List.mem_toFinset.mp hx)]
      omega

end Repeats

theorem repeatedNames_append_singleton (seen names : List RuleName) (n : RuleName) :
    repeatedNames seen (names ++ [n]) =
      repeatedNames seen names ++ if n ∈ seen ∨ n ∈ names then [n] else [] := by
  induction names generalizing seen with
  | nil => simp only [List.nil_append, repeatedNames, List.not_mem_nil, or_false]
  | cons m names ih =>
    rw [List.cons_append, repeatedNames, repeatedNames]
    by_cases hm : m ∈ seen
    · have hseen : (n ∈ seen ∨ n ∈ m :: names) ↔ (n ∈ seen ∨ n ∈ names) := by
        rw [List.mem_cons]
        constructor
        · rintro (h | rfl | h)
          exacts [.inl h, .inl hm, .inr h]
        · exact Or.imp_right .inr
      rw [if_pos hm, if_pos hm, ih, List.cons_append]
      simp only [hseen]
    · have hseen : (n ∈ m :: seen ∨ n ∈ names) ↔ (n ∈ seen ∨ n ∈ m :: names) := by
        rw [List.mem_cons, List.mem_cons, or_assoc, or_left_comm]
      rw [if_neg hm, if_neg hm, ih]
      simp only [hseen]

theorem repeatedNames_nil (names : List RuleName) : repeatedNames [] names = repeats names := by
  induction names using List.reverseRecOn with
  | nil => rfl
  | append_singleton names n ih =>
    rw [repeatedNames_append_singleton, repeats_append_singleton, ih]
    by_cases hn : n ∈ names <;> simp [hn]

namespace PatternRules

variable {entries : List PatternEntry}

theorem map_text_of_describes {rules : List PatternRule}
    (h : List.Forall₂ PatternEntry.Describes entries rules) :
    (rules.map (·.name)).map (·.text) = entries.map (·.name) := by
  induction h with
  | nil => rfl
  | cons hr _ ih => simp only [List.map_cons, hr.name, ih]

/-- Rules go together if no two have the same name; otherwise there is an error for each name that
occurs before. -/
theorem ofList_eq (rules : List PatternRule) :
    (∃ rs, ofList rules = .ok rs ∧ rs.rules = rules ∧ (rules.map (·.name)).Nodup) ∨
      (ofList rules = .error ((repeats (rules.map (·.name))).map .duplicateName) ∧
        ¬ (rules.map (·.name)).Nodup) := by
  rw [← repeats_eq_nil_iff, ← repeatedNames_nil, ofList]
  by_cases hnil : repeatedNames [] (rules.map (·.name)) = []
  · rw [dif_pos hnil]
    exact .inl ⟨_, rfl, rfl, hnil⟩
  · rw [dif_neg hnil]
    exact .inr ⟨rfl, hnil⟩

theorem exists_forall₂_describes (hvalid : ∀ e ∈ entries, e.Valid) :
    ∃ rules, List.Forall₂ PatternEntry.Describes entries rules := by
  induction entries with
  | nil => exact ⟨[], .nil⟩
  | cons e entries ih =>
    obtain ⟨he, hrest⟩ := List.forall_mem_cons.mp hvalid
    obtain ⟨r, hr⟩ := he.exists_describes
    obtain ⟨rules, hrules⟩ := ih hrest
    exact ⟨r :: rules, .cons hr hrules⟩

/-- Valid entries make rules unless a name occurs twice. -/
theorem ofEntries_of_valid (hvalid : ∀ e ∈ entries, e.Valid) :
    (∃ rs, ofEntries entries = .ok rs ∧ List.Forall₂ PatternEntry.Describes entries rs.rules ∧
        (entries.map (·.name)).Nodup) ∨
      ∃ names : List RuleName,
        ofEntries entries = .error (.conflicting (names.map .duplicateName)) ∧
        names.map (·.text) = repeats (entries.map (·.name)) ∧
        ¬ (entries.map (·.name)).Nodup := by
  obtain ⟨rules, hrules⟩ := exists_forall₂_describes hvalid
  have hentries : ofEntries entries = (ofList rules).mapError .conflicting := by
    rw [ofEntries, PatternEntry.toRules_eq_ok_iff.mpr ⟨hvalid, hrules⟩]
    rfl
  have hnodup : (entries.map (·.name)).Nodup ↔ (rules.map (·.name)).Nodup := by
    rw [← map_text_of_describes hrules]
    exact List.nodup_map_iff RuleName.text_injective
  rw [hentries, hnodup]
  rcases ofList_eq rules with ⟨rs, hrs, hsame, hnames⟩ | ⟨hrs, hnames⟩
  · refine .inl ⟨rs, ?_, hsame ▸ hrules, hnames⟩
    rw [hrs, mapError_ok]
  · refine .inr ⟨repeats (rules.map (·.name)), ?_, ?_, hnames⟩
    · rw [hrs, mapError_error]
    · rw [← map_text_of_describes hrules, repeats_map RuleName.text_injective]

theorem valid_of_ofEntries {rs : PatternRules} (h : ofEntries entries = .ok rs) :
    ∀ e ∈ entries, e.Valid := by
  simp only [ofEntries, bind_eq_ok_iff] at h
  obtain ⟨rules, hrules, -⟩ := h
  exact (PatternEntry.toRules_eq_ok_iff.mp hrules).1

theorem describes_of_ofEntries {rs : PatternRules} (h : ofEntries entries = .ok rs) :
    List.Forall₂ PatternEntry.Describes entries rs.rules := by
  rcases ofEntries_of_valid (valid_of_ofEntries h) with
    ⟨rs', hrs', hdescribes, -⟩ | ⟨names, hnames, -⟩
  · cases h.symm.trans hrs'
    exact hdescribes
  · cases h.symm.trans hnames

/-- The first entry that is not valid gives the error, even if names occur twice. -/
theorem ofEntries_of_not_valid {pre post : List PatternEntry} {e : PatternEntry}
    {err : PatternsError} (hpre : ∀ x ∈ pre, x.Valid)
    (h : e.FirstFault (PatternEntry.place pre.length) err) :
    ofEntries (pre ++ e :: post) = .error err := by
  have hplace : e.FirstFault (PatternEntry.place (0 + pre.length)) err := by rwa [Nat.zero_add]
  rw [ofEntries, PatternEntry.toRules_append hpre hplace]
  rfl

theorem ofEntries_of_getElem? {i : Nat} {e : PatternEntry} {err : PatternsError}
    (he : entries[i]? = some e)
    (hbefore : ∀ j (x : PatternEntry), j < i → entries[j]? = some x → x.Valid)
    (h : e.FirstFault (PatternEntry.place i) err) : ofEntries entries = .error err := by
  obtain ⟨hlt, rfl⟩ := List.getElem?_eq_some_iff.mp he
  have hsplit : entries.take i ++ entries[i] :: entries.drop (i + 1) = entries := by
    rw [List.getElem_cons_drop, List.take_append_drop]
  have hlength : (entries.take i).length = i := List.length_take_of_le hlt.le
  have hpre : ∀ x ∈ entries.take i, x.Valid := by
    intro x hx
    obtain ⟨j, hj, rfl⟩ := List.mem_iff_getElem.mp hx
    have hji : j < i := hlength ▸ hj
    exact hbefore j _ hji (by simp [List.getElem_take, hji.trans hlt])
  rw [← hsplit]
  exact ofEntries_of_not_valid hpre (hlength.symm ▸ h)

/-- Entries make rules exactly if each is valid and their names differ, and the rules are then what
the entries describe, in order.  Otherwise the error is the first fault of the first entry that is
not valid; if all are, it lists the names that occur in earlier entries. -/
theorem ofEntries_outcome (entries : List PatternEntry) :
    ((∃ rs, ofEntries entries = .ok rs) ↔
      (∀ e ∈ entries, e.Valid) ∧ (entries.map (·.name)).Nodup) ∧
    (∀ rs, ofEntries entries = .ok rs → List.Forall₂ PatternEntry.Describes entries rs.rules) ∧
    (∀ i (e : PatternEntry), entries[i]? = some e →
      (∀ j (x : PatternEntry), j < i → entries[j]? = some x → x.Valid) → ¬ e.Valid →
        ∃ err, ofEntries entries = .error err ∧
          ∀ err', e.FirstFault (PatternEntry.place i) err' ↔ err' = err) ∧
    ((∀ e ∈ entries, e.Valid) → ¬ (entries.map (·.name)).Nodup →
      ∃ names : List RuleName,
        ofEntries entries = .error (.conflicting (names.map .duplicateName)) ∧
        names.map (·.text) = repeats (entries.map (·.name)) ∧
        names.length + (entries.map (·.name)).toFinset.card = entries.length) := by
  refine ⟨⟨?_, ?_⟩, ?_, ?_, ?_⟩
  · rintro ⟨rs, hrs⟩
    have hvalid := valid_of_ofEntries hrs
    rcases ofEntries_of_valid hvalid with ⟨_, -, -, hnodup⟩ | ⟨names, hnames, -⟩
    · exact ⟨hvalid, hnodup⟩
    · rw [hrs] at hnames
      cases hnames
  · rintro ⟨hvalid, hnodup⟩
    rcases ofEntries_of_valid hvalid with ⟨rs, hrs, -⟩ | ⟨_, -, -, hnot⟩
    · exact ⟨rs, hrs⟩
    · exact absurd hnodup hnot
  · exact fun rs => describes_of_ofEntries
  · intro i e he hbefore hnot
    obtain ⟨err, herr⟩ := PatternEntry.exists_firstFault hnot i
    exact ⟨err, ofEntries_of_getElem? he hbefore herr, fun err' => ⟨(·.unique herr), (· ▸ herr)⟩⟩
  · intro hvalid hnot
    rcases ofEntries_of_valid hvalid with ⟨_, -, -, hnodup⟩ | ⟨names, hnames, htexts, -⟩
    · exact absurd hnodup hnot
    · have hcount := length_repeats_add_card (entries.map (·.name))
      rw [← htexts, List.length_map, List.length_map] at hcount
      exact ⟨names, hnames, htexts, hcount⟩

/-- The second of two entries with the same name lacks a check, which is what the error says. -/
theorem ofEntries_outcome_ambiguous :
    ofEntries [⟨"a", "^is", false, none, some (.boolean true), none, none⟩,
      ⟨"a", "^is", false, none, none, none, none⟩] = .error (.ambiguousCheck "patterns[1]") := by
  have hname : IsRuleName "a" := isRuleName_iff.mpr (by decide)
  have hpattern : IsPattern "^is" false := by
    have hcompile : (Pattern.compile "^is" false).toOption.isSome = true := by decide +kernel
    refine ⟨by decide, ?_⟩
    cases hp : Pattern.compile "^is" false with
    | ok p => exact ⟨p, rfl⟩
    | error cause =>
      rw [hp] at hcompile
      cases hcompile
  have hnone : ¬ PatternEntry.HasOneCheck ⟨"a", "^is", false, none, none, none, none⟩ := by decide
  obtain ⟨err, herr, hfault⟩ := (ofEntries_outcome
    [⟨"a", "^is", false, none, some (.boolean true), none, none⟩,
      ⟨"a", "^is", false, none, none, none, none⟩]).2.2.1 1 _ rfl
    (fun j x hj hx => by
      obtain rfl : j = 0 := by omega
      cases hx
      exact ⟨hname, hpattern, rfl, nofun⟩)
    (fun h => hnone h.check)
  have hplace : err = .ambiguousCheck (PatternEntry.place 1) :=
    ((hfault _).mp (.check hname hpattern hnone)).symm
  rw [herr, hplace]
  rfl

end PatternRules

end Clausal
