import Clausal.Proofs.Regex.Search

/-!
# Sequences, runs and groups

What the expressions match that are put together from others: sequences of several parts, runs of
characters of one set, and groups.  A group captures the text between its marks
(`Regex.captured_of_reads`).
-/

namespace Clausal

namespace Regex

variable {r : Regex} {rs : List Regex} {p q : Place} {m n : Marks}

theorem matches_seqs_cons_iff : Matches (seqs (r :: rs)) p m q n ↔
    ∃ t k, Matches r p m t k ∧ Matches (seqs rs) t k q n := by
  cases rs with
  | nil =>
    constructor
    · exact fun h => ⟨q, n, h, .empty⟩
    · rintro ⟨t, k, h, ⟨⟩⟩
      exact h
  | cons s rs => exact matches_seq_iff

theorem matches_repeated_chars_iff {set : CharSet} {min : Nat} {greedy : Bool} :
    Matches (.repeated min none greedy (.chars set)) p m q n ↔
      ∃ cs, min ≤ cs.length ∧ (∀ c ∈ cs, set.contains c = true) ∧ p.Reads cs q ∧ n = m := by
  constructor
  · intro h
    generalize hre : Regex.repeated min none greedy (.chars set) = re at h
    induction h generalizing min with
    | empty | chars | assert | mark | seq | altLeft | altRight => cases hre
    | repeatedDone =>
      cases hre
      exact ⟨[], Nat.le_refl 0, by simp, .refl _, rfl⟩
    | repeatedMore limit first _ _ ih =>
      cases hre
      obtain ⟨c, hc, hread, rfl⟩ := matches_chars_iff.mp first
      obtain ⟨cs, hmin, hcs, hreads, rfl⟩ := ih rfl
      refine ⟨c :: cs, ?_, List.forall_mem_cons.mpr ⟨hc, hcs⟩, hread.trans hreads, rfl⟩
      rw [List.length_cons]
      omega
  · rintro ⟨cs, hmin, hcs, hreads, rfl⟩
    induction cs generalizing min p with
    | nil =>
      obtain rfl := hreads.eq_of_nil
      obtain rfl := Nat.le_zero.mp hmin
      exact .repeatedDone
    | cons c cs ih =>
      obtain ⟨hc, hcs⟩ := List.forall_mem_cons.mp hcs
      obtain ⟨t, hfirst, hothers⟩ := hreads.split_cons
      rw [List.length_cons] at hmin
      exact .repeatedMore (by simp) (matches_chars_iff.mpr ⟨c, hc, hfirst, rfl⟩)
        (ih (by omega) hcs hothers)

theorem matches_optional_iff {greedy : Bool} :
    Matches (.repeated 0 (some 1) greedy r) p m q n ↔ (q = p ∧ n = m) ∨ Matches r p m q n := by
  constructor
  · intro h
    rcases matches_repeated_iff.mp h with ⟨-, hq, hn⟩ | ⟨-, t, k, hround, hothers⟩
    · exact .inl ⟨hq, hn⟩
    · rcases matches_repeated_iff.mp hothers with ⟨-, rfl, rfl⟩ | ⟨hlimit, -⟩
      · exact .inr hround
      · exact absurd rfl hlimit
  · rintro (⟨rfl, rfl⟩ | hround)
    · exact .repeatedDone
    · exact .repeatedMore (by simp) hround .repeatedDone

theorem matches_group_iff {index : Nat} : Matches (group index r) p m q n ↔
    ∃ k, Matches r p ((openSlot index, p.offset) :: m) q k ∧
      n = (closeSlot index, q.offset) :: k := by
  rw [group]
  constructor
  · intro h
    obtain ⟨t, k, hopen, h⟩ := matches_seq_iff.mp h
    obtain ⟨u, k', hbody, hclose⟩ := matches_seq_iff.mp h
    obtain ⟨rfl, rfl⟩ := matches_mark_iff.mp hopen
    obtain ⟨rfl, rfl⟩ := matches_mark_iff.mp hclose
    exact ⟨k', hbody, rfl⟩
  · rintro ⟨k, h, rfl⟩
    exact .seq .mark (.seq h .mark)

theorem matches_run_iff {set : CharSet} {index : Nat} {greedy : Bool} :
    Matches (seqs (group index (.repeated 1 none greedy (.chars set)) :: rs)) p m q n ↔
      ∃ cs t, (cs ≠ [] ∧ ∀ c ∈ cs, set.contains c = true) ∧ p.Reads cs t ∧
        Matches (seqs rs) t ((closeSlot index, t.offset) :: (openSlot index, p.offset) :: m)
          q n := by
  simp only [matches_seqs_cons_iff, matches_group_iff, matches_repeated_chars_iff,
    Nat.succ_le_iff, List.length_pos_iff]
  constructor
  · rintro ⟨t, _, ⟨_, ⟨cs, hne, hcs, hread, rfl⟩, rfl⟩, h⟩
    exact ⟨cs, t, ⟨hne, hcs⟩, hread, h⟩
  · rintro ⟨cs, t, ⟨hne, hcs⟩, hread, h⟩
    exact ⟨t, _, ⟨_, ⟨cs, hne, hcs, hread, rfl⟩, rfl⟩, h⟩

theorem matches_group_chars_iff {set : CharSet} {index : Nat} :
    Matches (seqs (group index (.chars set) :: rs)) p m q n ↔
      ∃ c t, set.contains c = true ∧ p.Reads [c] t ∧
        Matches (seqs rs) t ((closeSlot index, t.offset) :: (openSlot index, p.offset) :: m)
          q n := by
  simp only [matches_seqs_cons_iff, matches_group_iff, matches_chars_iff]
  constructor
  · rintro ⟨t, _, ⟨_, ⟨c, hc, hread, rfl⟩, rfl⟩, h⟩
    exact ⟨c, t, hc, hread, h⟩
  · rintro ⟨c, t, hc, hread, h⟩
    exact ⟨t, _, ⟨_, ⟨c, hc, hread, rfl⟩, rfl⟩, h⟩

theorem captured_of_reads {text pre cs : List Char} {t u : Place} {marks : Marks} {index : Nat}
    (hpre : (Place.start text).Reads pre t) (hcs : t.Reads cs u)
    (hopen : marks.lookup (openSlot index) = some t.offset)
    (hclose : marks.lookup (closeSlot index) = some u.offset) :
    captured text marks index = some cs := by
  have htext : text = pre ++ (cs ++ u.after) := by rw [hpre.of_start.1, hcs.1]
  have ht : t.offset = pre.length := by rw [hpre.offset_eq]; exact Nat.zero_add _
  rw [captured, hopen, hclose]
  simp [hcs.offset_eq, ht, htext]

end Regex

end Clausal
