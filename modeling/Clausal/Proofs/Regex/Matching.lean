import Clausal.Regex.Search

/-!
# Matches between two places

What `Regex.Matches` says of each form of expression, and what holds of all of them: a match reads
the characters between its places, and records its marks on top of those that were there before,
whatever they were.  So whether there is a match is a question about places alone, which
`Regex.Spans` asks.

## Main definitions

- `Place.Reads`: some characters lie between two places
- `Regex.Spans`: an expression matches from one place to another
-/

namespace Clausal

namespace Place

/-- Between two places of a text lie the characters `cs`. -/
def Reads (p : Place) (cs : List Char) (q : Place) : Prop :=
  p.after = cs ++ q.after ∧ q.before = cs.reverse ++ p.before

variable {p q t : Place} {cs ds : List Char}

theorem Reads.refl (p : Place) : p.Reads [] p :=
  ⟨rfl, rfl⟩

theorem Reads.eq_of_nil (h : p.Reads [] q) : q = p := by
  obtain ⟨hafter, hbefore⟩ := h
  cases p
  cases q
  simp_all

theorem Reads.eq_nil (h : p.Reads cs p) : cs = [] :=
  List.append_left_eq_self.mp h.1.symm

theorem Reads.trans (h : p.Reads cs t) (h' : t.Reads ds q) : p.Reads (cs ++ ds) q := by
  constructor
  · rw [h.1, h'.1, List.append_assoc]
  · rw [h'.2, h.2, List.reverse_append, List.append_assoc]

theorem Reads.single (before after : List Char) (c : Char) :
    Reads ⟨before, c :: after⟩ [c] ⟨c :: before, after⟩ :=
  ⟨rfl, rfl⟩

theorem Reads.eq_of_single {before after : List Char} {c d : Char}
    (h : Reads ⟨before, c :: after⟩ [d] q) : c = d ∧ q = ⟨c :: before, after⟩ := by
  obtain ⟨before', after'⟩ := q
  obtain ⟨hafter, hbefore⟩ := h
  obtain ⟨rfl, rfl⟩ := List.cons.inj hafter
  exact ⟨rfl, congrArg (Place.mk · after) hbefore⟩

theorem Reads.of_append (before cs after : List Char) :
    Reads ⟨before, cs ++ after⟩ cs ⟨cs.reverse ++ before, after⟩ :=
  ⟨rfl, rfl⟩

theorem Reads.to_end (before cs : List Char) :
    Reads ⟨before, cs⟩ cs ⟨cs.reverse ++ before, []⟩ :=
  ⟨(List.append_nil cs).symm, rfl⟩

/-- The first of some characters lies between the first place and one before the others. -/
theorem Reads.split_cons {c : Char} (h : p.Reads (c :: cs) q) :
    ∃ t, p.Reads [c] t ∧ t.Reads cs q := by
  refine ⟨⟨c :: p.before, cs ++ q.after⟩, ⟨h.1, rfl⟩, rfl, ?_⟩
  rw [h.2, List.reverse_cons, List.append_assoc]
  rfl

/-- Places with characters between them are places of one text. -/
theorem Reads.text_eq (h : p.Reads cs q) :
    q.before.reverse ++ q.after = p.before.reverse ++ p.after := by
  rw [h.1, h.2, List.reverse_append, List.reverse_reverse, List.append_assoc]

theorem Reads.offset_eq (h : p.Reads cs q) : q.offset = p.offset + cs.length := by
  rw [offset, offset, h.2, List.length_append, List.length_reverse, Nat.add_comm]

/-- From the start of a text, what has been read and what is left make up the text. -/
theorem Reads.of_start {text : List Char} (h : (start text).Reads cs q) :
    text = cs ++ q.after ∧ q.before = cs.reverse :=
  ⟨h.1, h.2.trans (List.append_nil _)⟩

end Place

namespace Regex

variable {r s : Regex} {p q t : Place} {m n : Marks}

@[simp] theorem matches_empty_iff : Matches .empty p m q n ↔ q = p ∧ n = m := by
  constructor
  · rintro ⟨⟩
    exact ⟨rfl, rfl⟩
  · rintro ⟨rfl, rfl⟩
    exact .empty

@[simp] theorem matches_chars_iff {set : CharSet} :
    Matches (.chars set) p m q n ↔ ∃ c, set.contains c = true ∧ p.Reads [c] q ∧ n = m := by
  constructor
  · rintro ⟨⟩
    exact ⟨_, ‹_›, .single _ _ _, rfl⟩
  · obtain ⟨before, after⟩ := p
    obtain ⟨before', after'⟩ := q
    rintro ⟨c, hc, ⟨hafter, hbefore⟩, rfl⟩
    obtain rfl : after = c :: after' := hafter
    obtain rfl : before' = c :: before := hbefore
    exact .chars hc

@[simp] theorem matches_assert_iff {a : Assertion} :
    Matches (.assert a) p m q n ↔ a.holdsAt p = true ∧ q = p ∧ n = m := by
  constructor
  · rintro ⟨⟩
    exact ⟨‹_›, rfl, rfl⟩
  · rintro ⟨ha, rfl, rfl⟩
    exact .assert ha

@[simp] theorem matches_mark_iff {slot : Nat} :
    Matches (.mark slot) p m q n ↔ q = p ∧ n = (slot, p.offset) :: m := by
  constructor
  · rintro ⟨⟩
    exact ⟨rfl, rfl⟩
  · rintro ⟨rfl, rfl⟩
    exact .mark

theorem matches_seq_iff :
    Matches (.seq r s) p m q n ↔ ∃ t k, Matches r p m t k ∧ Matches s t k q n := by
  constructor
  · rintro (_ | _ | _ | _ | ⟨first, second⟩)
    exact ⟨_, _, first, second⟩
  · rintro ⟨t, k, first, second⟩
    exact .seq first second

theorem matches_alt_iff : Matches (.alt r s) p m q n ↔ Matches r p m q n ∨ Matches s p m q n := by
  constructor
  · intro h
    cases h with
    | altLeft left => exact .inl left
    | altRight right => exact .inr right
  · rintro (left | right)
    · exact .altLeft left
    · exact .altRight right

theorem matches_repeated_iff {min : Nat} {max : Option Nat} {greedy : Bool} :
    Matches (.repeated min max greedy r) p m q n ↔ (min = 0 ∧ q = p ∧ n = m) ∨
      (max ≠ some 0 ∧ ∃ t k, Matches r p m t k ∧
        Matches (.repeated (min - 1) (max.map (· - 1)) greedy r) t k q n) := by
  constructor
  · intro h
    cases h with
    | repeatedDone => exact .inl ⟨rfl, rfl, rfl⟩
    | repeatedMore limit first others => exact .inr ⟨limit, _, _, first, others⟩
  · rintro (⟨rfl, rfl, rfl⟩ | ⟨limit, t, k, first, others⟩)
    · exact .repeatedDone
    · exact .repeatedMore limit first others

theorem Matches.reads (h : Matches r p m q n) : ∃ cs, p.Reads cs q := by
  induction h with
  | empty | assert | mark | repeatedDone => exact ⟨[], .refl _⟩
  | chars => exact ⟨_, .single _ _ _⟩
  | altLeft _ ih | altRight _ ih => exact ih
  | seq _ _ ih ih' | repeatedMore _ _ _ ih ih' =>
    obtain ⟨cs, hcs⟩ := ih
    obtain ⟨ds, hds⟩ := ih'
    exact ⟨cs ++ ds, hcs.trans hds⟩

/-- A match puts its marks on top of those recorded before, whatever they are. -/
theorem Matches.marks (h : Matches r p m q n) :
    ∃ k, n = k ++ m ∧ ∀ m', Matches r p m' q (k ++ m') := by
  -- Nothing that a match asks for depends on the marks, so each step is taken again over `m'`.
  induction h with
  | empty => exact ⟨[], rfl, fun _ => .empty⟩
  | chars mem => exact ⟨[], rfl, fun _ => .chars mem⟩
  | assert holds => exact ⟨[], rfl, fun _ => .assert holds⟩
  | mark => exact ⟨[_], rfl, fun _ => .mark⟩
  | repeatedDone => exact ⟨[], rfl, fun _ => .repeatedDone⟩
  | altLeft _ ih =>
    obtain ⟨k, rfl, hk⟩ := ih
    exact ⟨k, rfl, fun m' => .altLeft (hk m')⟩
  | altRight _ ih =>
    obtain ⟨k, rfl, hk⟩ := ih
    exact ⟨k, rfl, fun m' => .altRight (hk m')⟩
  | seq _ _ ih ih' =>
    obtain ⟨k, rfl, hk⟩ := ih
    obtain ⟨k', rfl, hk'⟩ := ih'
    refine ⟨k' ++ k, (List.append_assoc ..).symm, fun m' => ?_⟩
    rw [List.append_assoc]
    exact .seq (hk m') (hk' _)
  | repeatedMore limit _ _ ih ih' =>
    obtain ⟨k, rfl, hk⟩ := ih
    obtain ⟨k', rfl, hk'⟩ := ih'
    refine ⟨k' ++ k, (List.append_assoc ..).symm, fun m' => ?_⟩
    rw [List.append_assoc]
    exact .repeatedMore limit (hk m') (hk' _)

/-- An expression matches from one place to another. -/
def Spans (r : Regex) (p q : Place) : Prop :=
  ∃ m n, Matches r p m q n

/-- A match is one whatever marks were recorded before. -/
theorem Spans.exists_matches (h : Spans r p q) (m : Marks) : ∃ n, Matches r p m q n := by
  obtain ⟨m₀, n, h⟩ := h
  obtain ⟨k, -, hk⟩ := h.marks
  exact ⟨_, hk m⟩

theorem spans_seq_iff : Spans (.seq r s) p q ↔ ∃ t, Spans r p t ∧ Spans s t q := by
  constructor
  · rintro ⟨m, n, h⟩
    obtain ⟨t, k, first, second⟩ := matches_seq_iff.mp h
    exact ⟨t, ⟨m, k, first⟩, k, n, second⟩
  · rintro ⟨t, ⟨m, k, first⟩, second⟩
    -- The second part is matched again, over the marks of the first.
    obtain ⟨n, second⟩ := second.exists_matches k
    exact ⟨m, n, .seq first second⟩

theorem spans_alt_iff : Spans (.alt r s) p q ↔ Spans r p q ∨ Spans s p q := by
  simp only [Spans, matches_alt_iff, exists_or]

theorem spans_repeated_iff {min : Nat} {max : Option Nat} {greedy : Bool} :
    Spans (.repeated min max greedy r) p q ↔ (min = 0 ∧ q = p) ∨
      (max ≠ some 0 ∧ ∃ t, Spans r p t ∧
        Spans (.repeated (min - 1) (max.map (· - 1)) greedy r) t q) := by
  constructor
  · rintro ⟨m, n, h⟩
    rcases matches_repeated_iff.mp h with ⟨hmin, hq, -⟩ | ⟨limit, t, k, first, others⟩
    · exact .inl ⟨hmin, hq⟩
    · exact .inr ⟨limit, t, ⟨m, k, first⟩, k, n, others⟩
  · rintro (⟨rfl, rfl⟩ | ⟨limit, t, ⟨m, k, first⟩, others⟩)
    · exact ⟨[], [], .repeatedDone⟩
    · obtain ⟨n, others⟩ := others.exists_matches k
      exact ⟨m, n, .repeatedMore limit first others⟩

/-- What spans a repetition of one expression spans that of another one that spans as much. -/
theorem Spans.repeated_mono {min : Nat} {max : Option Nat} {greedy : Bool}
    (h : Spans (.repeated min max greedy r) p q) (hrs : ∀ p q, Spans r p q → Spans s p q) :
    Spans (.repeated min max greedy s) p q := by
  obtain ⟨m, n, h⟩ := h
  -- The induction is on the match, whose expression is a repetition with other bounds each round.
  generalize hre : Regex.repeated min max greedy r = re at h
  induction h generalizing min max with
  | empty | chars | assert | mark | seq | altLeft | altRight => cases hre
  | repeatedDone =>
    cases hre
    exact ⟨[], [], .repeatedDone⟩
  | repeatedMore limit first _ _ ih =>
    cases hre
    exact spans_repeated_iff.mpr (.inr ⟨limit, _, hrs _ _ ⟨_, _, first⟩, ih rfl⟩)

/-- A repetition that needs no rounds may have a higher limit. -/
theorem Spans.repeated_limit {max max' : Option Nat} {greedy : Bool}
    (h : Spans (.repeated 0 max greedy r) p q)
    (hmax : ∀ b, max' = some b → ∃ a, max = some a ∧ a ≤ b) :
    Spans (.repeated 0 max' greedy r) p q := by
  obtain ⟨m, n, h⟩ := h
  generalize hre : Regex.repeated 0 max greedy r = re at h
  induction h generalizing max max' with
  | empty | chars | assert | mark | seq | altLeft | altRight => cases hre
  | repeatedDone => exact ⟨[], [], .repeatedDone⟩
  | repeatedMore limit first _ _ ih =>
    cases hre
    refine spans_repeated_iff.mpr (.inr ⟨?_, _, ⟨_, _, first⟩, ih ?_ rfl⟩)
    -- The limits go down together, so the higher one is not used up first.
    · rintro rfl
      obtain ⟨a, rfl, ha⟩ := hmax 0 rfl
      exact limit (congrArg some (Nat.le_zero.mp ha))
    · intro b hb
      obtain ⟨b', rfl, rfl⟩ := Option.map_eq_some_iff.mp hb
      obtain ⟨a, rfl, ha⟩ := hmax b' rfl
      exact ⟨a - 1, rfl, Nat.sub_le_sub_right ha 1⟩

/-- A repetition that needs no rounds spans nothing, or can begin with a round that reads. -/
theorem Spans.repeated_zero {max : Option Nat} {greedy : Bool}
    (h : Spans (.repeated 0 max greedy r) p q) : q = p ∨ (max ≠ some 0 ∧ ∃ t cs, cs ≠ [] ∧
      p.Reads cs t ∧ Spans r p t ∧ Spans (.repeated 0 (max.map (· - 1)) greedy r) t q) := by
  obtain ⟨m, n, h⟩ := h
  -- Rounds that read nothing are passed over.
  generalize hre : Regex.repeated 0 max greedy r = re at h
  induction h generalizing max with
  | empty | chars | assert | mark | seq | altLeft | altRight => cases hre
  | repeatedDone => exact .inl rfl
  | repeatedMore limit first others _ ih =>
    cases hre
    obtain ⟨cs, hcs⟩ := first.reads
    by_cases hnil : cs = []
    · subst hnil
      obtain rfl := hcs.eq_of_nil
      rcases ih rfl with rfl | ⟨-, t, ds, hds, hread, hround, hothers⟩
      · exact .inl rfl
      · refine .inr ⟨limit, t, ds, hds, hread, hround, hothers.repeated_limit fun b hb => ?_⟩
        obtain ⟨a, rfl, rfl⟩ := Option.map_eq_some_iff.mp hb
        exact ⟨a - 1 - 1, rfl, Nat.sub_le _ _⟩
    · exact .inr ⟨limit, _, cs, hnil, hcs, ⟨_, _, first⟩, _, _, others⟩

theorem spans_join_iff : Spans (join r s) p q ↔ Spans (.seq r s) p q := by
  have hempty {p q : Place} : Spans .empty p q ↔ q = p := by
    simp [Spans]
  rw [join, spans_seq_iff]
  split
  · next hr => simp [hr, hempty]
  · split
    · next hs => simp [hs, hempty]
    · exact spans_seq_iff

@[simp] theorem spans_unmarked_iff : Spans r.unmarked p q ↔ Spans r p q := by
  induction r generalizing p q with
  | empty | chars | assert => rfl
  | mark => simp [unmarked, Spans]
  | seq r s ihr ihs => simp only [unmarked, spans_join_iff, spans_seq_iff, ihr, ihs]
  | alt r s ihr ihs => simp only [unmarked, spans_alt_iff, ihr, ihs]
  | repeated min max greedy r ih =>
    exact ⟨fun h => h.repeated_mono fun _ _ => ih.mp, fun h => h.repeated_mono fun _ _ => ih.mpr⟩

theorem matchesIn_iff {text : List Char} :
    r.MatchesIn text ↔ ∃ p q : Place, p.before.reverse ++ p.after = text ∧ Spans r p q := by
  constructor
  · rintro ⟨p, q, m, htext, h⟩
    exact ⟨p, q, htext, [], m, h⟩
  · rintro ⟨p, q, htext, h⟩
    obtain ⟨m, h⟩ := h.exists_matches []
    exact ⟨p, q, m, htext, h⟩

@[simp] theorem matchesIn_unmarked_iff {text : List Char} :
    r.unmarked.MatchesIn text ↔ r.MatchesIn text := by
  simp only [matchesIn_iff, spans_unmarked_iff]

end Regex

end Clausal
