import Clausal.Proofs.Regex.Matching

/-!
# The moves of an expression

`Regex.moves` lists what an expression can do next at a place.  The moves are right: whatever one of
them leads to is a match (`Regex.matches_of_moves`).  And they are enough: whatever the expression
spans, one of them leads to (`Regex.exists_moves_of_spans`), though perhaps by other marks, since
only the preferred move that reads nothing is kept.

## Main definitions

- `Regex.Move.Leads`: a move, and a match of its remainder after it, lead from one place to another
- `Regex.Move.Reaches`: the same without the marks
-/

namespace Clausal

namespace Regex

/-- A move at a place leads, by a match of its remainder, to another place, and records marks. -/
def Move.Leads (move : Move) (p : Place) (m : Marks) (q : Place) (n : Marks) : Prop :=
  match move with
  | .accept k => q = p ∧ n = k ++ m
  | .read set rest k =>
    ∃ c t, set.contains c = true ∧ p.Reads [c] t ∧ Matches rest t (k ++ m) q n

/-- A move at a place leads, by a match of its remainder, to another place. -/
def Move.Reaches (move : Move) (p q : Place) : Prop :=
  match move with
  | .accept _ => q = p
  | .read set rest _ => ∃ c t, set.contains c = true ∧ p.Reads [c] t ∧ Spans rest t q

variable {r s rest next : Regex} {p q t : Place} {m n k : Marks} {move : Move}
  {first second : List Move}

namespace Move

@[simp] theorem leads_after_iff : (move.after k).Leads p m q n ↔ move.Leads p (k ++ m) q n := by
  cases move <;> simp [after, Leads]

@[simp] theorem reaches_after_iff : (move.after k).Reaches p q ↔ move.Reaches p q := by
  cases move <;> rfl

end Move

theorem matches_andThen_iff :
    Matches (rest.andThen next) p m q n ↔ Matches (.seq rest next) p m q n := by
  rw [andThen]
  split
  · next h =>
    subst h
    constructor
    · exact .seq .empty
    · rintro (_ | _ | _ | _ | ⟨⟨⟩, second⟩)
      exact second
  · rfl

theorem spans_andThen_iff :
    Spans (rest.andThen next) p q ↔ ∃ t, Spans rest p t ∧ Spans next t q := by
  rw [← spans_seq_iff]
  simp only [Spans, matches_andThen_iff]

/-- Moves that are chained lead where the first ones lead and the others from there. -/
theorem leads_of_mem_chain (hmove : move ∈ chain first next second) (h : move.Leads p m q n)
    (hnext : ∀ x ∈ second, ∀ k, x.Leads p k q n → Matches next p k q n) :
    ∃ x ∈ first, ∃ t k, x.Leads p m t k ∧ Matches next t k q n := by
  obtain ⟨x, hx, hmove⟩ := List.mem_flatMap.mp hmove
  refine ⟨x, hx, ?_⟩
  cases x with
  | accept k =>
    refine ⟨p, k ++ m, ⟨rfl, rfl⟩, ?_⟩
    dsimp only at hmove
    -- The first expression is done here, so the move is one of the others.
    by_cases hk : k.isEmpty = true
    · obtain rfl := List.isEmpty_iff.mp hk
      exact hnext move hmove m h
    · rw [if_neg hk] at hmove
      obtain ⟨y, hy, rfl⟩ := List.mem_map.mp hmove
      exact hnext y hy (k ++ m) (Move.leads_after_iff.mp h)
  | read set rest k =>
    obtain rfl := List.mem_singleton.mp hmove
    obtain ⟨c, t, hc, hread, h⟩ := h
    obtain ⟨u, k', hrest, hnext⟩ := matches_seq_iff.mp (matches_andThen_iff.mp h)
    exact ⟨u, k', ⟨c, t, hc, hread, hrest⟩, hnext⟩

/-- Moves that are chained lead wherever the first ones and then the others lead. -/
theorem exists_mem_chain_of_reaches {x : Move} (hx : x ∈ first) (h : x.Reaches p t)
    (hspans : Spans next t q)
    (hnext : first.any Move.isAccept = true → Spans next p q → ∃ y ∈ second, y.Reaches p q) :
    ∃ move ∈ chain first next second, move.Reaches p q := by
  cases x with
  | accept k =>
    obtain rfl : t = p := h
    obtain ⟨y, hy, hreach⟩ := hnext (List.any_eq_true.mpr ⟨_, hx, rfl⟩) hspans
    by_cases hk : k.isEmpty = true
    · exact ⟨y, List.mem_flatMap.mpr ⟨_, hx, by simpa [hk] using hy⟩, hreach⟩
    · refine ⟨y.after k, List.mem_flatMap.mpr ⟨_, hx, ?_⟩, Move.reaches_after_iff.mpr hreach⟩
      simpa [hk] using ⟨y, hy, rfl⟩
  | read set rest k =>
    obtain ⟨c, u, hc, hread, hrest⟩ := h
    exact ⟨_, List.mem_flatMap.mpr ⟨_, hx, List.mem_singleton_self _⟩, c, u, hc, hread,
      spans_andThen_iff.mpr ⟨t, hrest, hspans⟩⟩

/-- A repetition that needs no more rounds is done or goes on by a move of its body that reads. -/
theorem mem_repeatMoves_zero_iff {greedy : Bool} {max : Option Nat} (hmax : max ≠ some 0) :
    move ∈ repeatMoves r greedy first 0 max ↔ move = .accept [] ∨
      ∃ set rest k, .read set rest k ∈ first ∧
        move = .read set (rest.andThen (.repeated 0 (max.map (· - 1)) greedy r)) k := by
  have hagain : move ∈ (first.filterMap fun
        | .accept _ => none
        | .read set rest m =>
          some (.read set (rest.andThen (.repeated 0 (max.map (· - 1)) greedy r)) m)) ↔
      ∃ set rest k, .read set rest k ∈ first ∧
        move = .read set (rest.andThen (.repeated 0 (max.map (· - 1)) greedy r)) k := by
    rw [List.mem_filterMap]
    constructor
    · rintro ⟨x, hx, hmove⟩
      cases x with
      | accept k => cases hmove
      | read set rest k => exact ⟨set, rest, k, hx, (Option.some.inj hmove).symm⟩
    · rintro ⟨set, rest, k, hx, rfl⟩
      exact ⟨_, hx, rfl⟩
  rw [repeatMoves]
  -- Greed decides only which of the two is preferred.
  · cases greedy
    · exact List.mem_cons.trans (or_congr_right hagain)
    · exact List.mem_append.trans ((or_congr hagain List.mem_singleton).trans or_comm)
  · exact hmax

theorem repeatMoves_succ {greedy : Bool} {min : Nat} {max : Option Nat} (hmax : max ≠ some 0) :
    repeatMoves r greedy first (min + 1) max =
      chain first (.repeated min (max.map (· - 1)) greedy r)
        (if first.any Move.isAccept then repeatMoves r greedy first min (max.map (· - 1))
          else []) := by
  rw [repeatMoves]
  exact hmax

/-- Where moves of an expression lead to its matches, moves of a repetition do so to those of the
repetition. -/
theorem matches_of_mem_repeatMoves {greedy : Bool} {min : Nat} {max : Option Nat}
    (hfirst : ∀ x ∈ first, ∀ m t k, x.Leads p m t k → Matches r p m t k)
    (hmove : move ∈ repeatMoves r greedy first min max) (h : move.Leads p m q n) :
    Matches (.repeated min max greedy r) p m q n := by
  -- The induction is on the rounds that are still needed.
  induction min generalizing max move m with
  | zero =>
    have hdone (h : (Move.accept []).Leads p m q n) :
        Matches (.repeated 0 max greedy r) p m q n := by
      obtain ⟨rfl, rfl⟩ := h
      exact .repeatedDone
    by_cases hmax : max = some 0
    · subst hmax
      obtain rfl := List.mem_singleton.mp hmove
      exact hdone h
    · rcases (mem_repeatMoves_zero_iff hmax).mp hmove with rfl | ⟨set, rest, k, hmem, rfl⟩
      · exact hdone h
      · obtain ⟨c, t, hc, hread, h⟩ := h
        obtain ⟨u, k', hrest, hothers⟩ := matches_seq_iff.mp (matches_andThen_iff.mp h)
        exact .repeatedMore hmax (hfirst _ hmem _ _ _ ⟨c, t, hc, hread, hrest⟩) hothers
  | succ min ih =>
    by_cases hmax : max = some 0
    · subst hmax
      cases hmove
    · rw [repeatMoves_succ hmax] at hmove
      obtain ⟨x, hx, t, k, hlead, hothers⟩ := leads_of_mem_chain hmove h fun y hy k hlead => by
        split at hy
        · exact ih hy hlead
        · cases hy
      exact .repeatedMore hmax (hfirst x hx _ _ _ hlead) hothers

/-- Where moves of an expression lead wherever it spans, moves of a repetition lead wherever the
repetition spans. -/
theorem exists_mem_repeatMoves_of_spans {greedy : Bool} {min : Nat} {max : Option Nat}
    (hfirst : ∀ t, Spans r p t → ∃ x ∈ first, x.Reaches p t)
    (h : Spans (.repeated min max greedy r) p q) :
    ∃ move ∈ repeatMoves r greedy first min max, move.Reaches p q := by
  -- As long as rounds are needed the first one may read nothing; after that it has to read.
  induction min generalizing max with
  | zero =>
    by_cases hmax : max = some 0
    · subst hmax
      rcases spans_repeated_iff.mp h with ⟨-, rfl⟩ | ⟨hlimit, -⟩
      · exact ⟨.accept [], List.mem_singleton_self _, rfl⟩
      · exact absurd rfl hlimit
    · simp only [mem_repeatMoves_zero_iff hmax]
      rcases h.repeated_zero with rfl | ⟨-, t, cs, hcs, hread, hround, hothers⟩
      · exact ⟨.accept [], .inl rfl, rfl⟩
      -- The first round reads, so the move that it begins with does not accept.
      · obtain ⟨x, hx, hreach⟩ := hfirst t hround
        cases x with
        | accept k =>
          obtain rfl : t = p := hreach
          exact absurd hread.eq_nil hcs
        | read set rest k =>
          obtain ⟨c, u, hc, hread, hrest⟩ := hreach
          exact ⟨_, .inr ⟨set, rest, k, hx, rfl⟩, c, u, hc, hread,
            spans_andThen_iff.mpr ⟨t, hrest, hothers⟩⟩
  | succ min ih =>
    rcases spans_repeated_iff.mp h with ⟨hmin, -⟩ | ⟨hmax, t, hround, hothers⟩
    · cases hmin
    · obtain ⟨x, hx, hreach⟩ := hfirst t hround
      rw [repeatMoves_succ hmax]
      refine exists_mem_chain_of_reaches hx hreach hothers fun hany hnext => ?_
      rw [if_pos hany]
      exact ih hnext

theorem keepFirstAccept_subset : keepFirstAccept first ⊆ first := by
  induction first with
  | nil => exact List.Subset.refl _
  | cons move first ih =>
    cases move with
    | accept k => exact List.cons_subset_cons _ List.filter_sublist.subset
    | read set rest k => exact List.cons_subset_cons _ ih

/-- Dropping all but the first move that is done changes nothing about where the moves lead. -/
theorem exists_mem_keepFirstAccept {x : Move} (hx : x ∈ first) (h : x.Reaches p q) :
    ∃ y ∈ keepFirstAccept first, y.Reaches p q := by
  induction first with
  | nil => cases hx
  | cons move first ih =>
    cases move with
    | accept k =>
      -- A move that accepts leads nowhere else than the one that is kept.
      cases hacc : x.isAccept with
      | true =>
        cases x with
        | accept k' => exact ⟨_, List.mem_cons_self, h⟩
        | read set rest k' => cases hacc
      | false =>
        rcases List.mem_cons.mp hx with rfl | hx
        · cases hacc
        · exact ⟨x, List.mem_cons_of_mem _ (List.mem_filter.mpr ⟨hx, by simp [hacc]⟩), h⟩
    | read set rest k =>
      rcases List.mem_cons.mp hx with rfl | hx
      · exact ⟨_, List.mem_cons_self, h⟩
      · obtain ⟨y, hy, hreach⟩ := ih hx
        exact ⟨y, List.mem_cons_of_mem _ hy, hreach⟩

/-- Whatever a move of an expression leads to is a match of it. -/
theorem matches_of_moves (hmove : move ∈ moves p r) (h : move.Leads p m q n) :
    Matches r p m q n := by
  induction r generalizing move m q n with
  | empty =>
    obtain rfl := List.mem_singleton.mp hmove
    exact matches_empty_iff.mpr h
  | chars set =>
    obtain rfl := List.mem_singleton.mp hmove
    obtain ⟨c, t, hc, hread, h⟩ := h
    obtain ⟨rfl, rfl⟩ := matches_empty_iff.mp h
    exact matches_chars_iff.mpr ⟨c, hc, hread, rfl⟩
  | assert a =>
    rw [moves] at hmove
    split at hmove
    · next ha =>
      obtain rfl := List.mem_singleton.mp hmove
      exact matches_assert_iff.mpr ⟨ha, h⟩
    · cases hmove
  | mark slot =>
    obtain rfl := List.mem_singleton.mp hmove
    exact matches_mark_iff.mpr h
  | seq r s ihr ihs =>
    obtain ⟨x, hx, t, k, hlead, hnext⟩ := leads_of_mem_chain hmove h fun y hy k hlead => by
      split at hy
      · exact ihs hy hlead
      · cases hy
    exact .seq (ihr hx hlead) hnext
  | alt r s ihr ihs =>
    rcases List.mem_append.mp (keepFirstAccept_subset hmove) with hmove | hmove
    · exact .altLeft (ihr hmove h)
    · exact .altRight (ihs hmove h)
  | repeated min max greedy r ih =>
    exact matches_of_mem_repeatMoves (fun x hx m t k hlead => ih hx hlead) hmove h

/-- Whatever an expression spans, a move of it leads to. -/
theorem exists_moves_of_spans (h : Spans r p q) : ∃ move ∈ moves p r, move.Reaches p q := by
  induction r generalizing q with
  | empty =>
    obtain ⟨m, n, h⟩ := h
    exact ⟨_, List.mem_singleton_self _, (matches_empty_iff.mp h).1⟩
  | chars set =>
    obtain ⟨m, n, h⟩ := h
    obtain ⟨c, hc, hread, -⟩ := matches_chars_iff.mp h
    exact ⟨_, List.mem_singleton_self _, c, q, hc, hread, [], [], .empty⟩
  | assert a =>
    obtain ⟨m, n, h⟩ := h
    obtain ⟨ha, hq, -⟩ := matches_assert_iff.mp h
    rw [moves, if_pos ha]
    exact ⟨_, List.mem_singleton_self _, hq⟩
  | mark slot =>
    obtain ⟨m, n, h⟩ := h
    exact ⟨_, List.mem_singleton_self _, (matches_mark_iff.mp h).1⟩
  | seq r s ihr ihs =>
    obtain ⟨t, hr, hs⟩ := spans_seq_iff.mp h
    obtain ⟨x, hx, hreach⟩ := ihr hr
    refine exists_mem_chain_of_reaches hx hreach hs fun hany hnext => ?_
    rw [if_pos hany]
    exact ihs hnext
  | alt r s ihr ihs =>
    have hmem : ∃ x ∈ moves p r ++ moves p s, x.Reaches p q := by
      rcases spans_alt_iff.mp h with h | h
      · obtain ⟨x, hx, hreach⟩ := ihr h
        exact ⟨x, List.mem_append_left _ hx, hreach⟩
      · obtain ⟨x, hx, hreach⟩ := ihs h
        exact ⟨x, List.mem_append_right _ hx, hreach⟩
    obtain ⟨x, hx, hreach⟩ := hmem
    exact exists_mem_keepFirstAccept hx hreach
  | repeated min max greedy r ih =>
    exact exists_mem_repeatMoves_of_spans (fun t ht => ih ht) h

end Regex

end Clausal
