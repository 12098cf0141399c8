import Clausal.Proofs.Regex.Moves

/-!
# What a search finds

The search for a match is right: the marks that it returns are those of a match
(`Regex.exists_matches_of_find?`).  And it is complete: it returns some exactly if a part of the
text is matched (`Regex.find?_isSome_iff`).  Both are carried from one character to the next by the
threads: whatever can still be matched can be matched from one of them, or from a place further on.

## Main definitions

- `Regex.Thread.Leads`: what a thread can still match
- `Regex.Waiting.move`: what a waiting thread can do next
- `Regex.MayReturn`: what a search with some threads may return
- `Regex.MatchesFrom`: an expression matches from a place on or from one further on
-/

namespace Clausal

namespace Regex

namespace Buckets

variable {r x : Regex} {bits key key' : Nat} {b : Buckets}

@[simp] theorem containsAt_empty : containsAt x bits key empty = false := by
  cases bits <;> rfl

/-- What is in a set after an expression has been added was there before, or is that expression. -/
theorem of_containsAt_insertAt (h : containsAt x bits key' (insertAt r bits key b) = true) :
    x = r ∨ containsAt x bits key' b = true := by
  induction bits generalizing key key' b with
  | zero =>
    cases b with
    | members rs => simpa [insertAt, containsAt] using h
    | empty | branch => simpa [insertAt, containsAt] using h
  | succ bits ih =>
    cases b with
    | branch even odd =>
      rw [insertAt] at h
      -- If the keys part here, the half that is looked into has not been changed.
      by_cases hkey : key % 2 = 0 <;> by_cases hkey' : key' % 2 = 0 <;>
        simp only [hkey, hkey', containsAt, if_true, if_false] at h ⊢
      · exact ih h
      · exact .inr h
      · exact .inr h
      · exact ih h
    | empty | members =>
      rw [insertAt] at h
      · by_cases hkey : key % 2 = 0 <;> by_cases hkey' : key' % 2 = 0 <;>
          simp only [hkey, hkey', containsAt, if_true, if_false, containsAt_empty,
            Bool.false_eq_true] at h ⊢
        · exact (ih h).imp_right fun h => by simp at h
        · exact (ih h).imp_right fun h => by simp at h
      · simp

@[simp] theorem contains_empty : empty.contains x = false :=
  containsAt_empty

theorem of_contains_insert (h : (b.insert r).contains x = true) : x = r ∨ b.contains x = true :=
  of_containsAt_insertAt h

end Buckets

variable {r : Regex} {p q : Place} {m n : Marks} {c : Char} {ts : List Thread} {ws : List Waiting}

/-- A thread at a place leads, by a match of its remainder, to another place and to marks. -/
def Thread.Leads (t : Thread) (p q : Place) (n : Marks) : Prop :=
  Matches t.rest p t.marks q n

/-- The move that a waiting thread waits to make. -/
def Waiting.move (w : Waiting) : Move := .read w.set w.thread.rest w.thread.marks

/-- An expression matches from a place on, or from one further on in the text. -/
def MatchesFrom (r : Regex) (p : Place) : Prop :=
  ∃ cs t q, p.Reads cs t ∧ Spans r t q

/-- An expression matches from a place on exactly if it spans something there or after the next
character. -/
theorem matchesFrom_cons_iff {before after : List Char} :
    MatchesFrom r ⟨before, c :: after⟩ ↔
      (∃ q, Spans r ⟨before, c :: after⟩ q) ∨ MatchesFrom r ⟨c :: before, after⟩ := by
  constructor
  · rintro ⟨cs, t, q, hread, hspans⟩
    cases cs with
    | nil =>
      obtain rfl := hread.eq_of_nil
      exact .inl ⟨q, hspans⟩
    | cons d cs =>
      obtain ⟨u, hfirst, hread⟩ := hread.split_cons
      obtain ⟨rfl, rfl⟩ := hfirst.eq_of_single
      exact .inr ⟨cs, t, q, hread, hspans⟩
  · rintro (⟨q, hspans⟩ | ⟨cs, t, q, hread, hspans⟩)
    · exact ⟨[], _, q, .refl _, hspans⟩
    · exact ⟨c :: cs, t, q, (Place.Reads.single before after c).trans hread, hspans⟩

theorem matchesFrom_nil_iff {before : List Char} :
    MatchesFrom r ⟨before, []⟩ ↔ ∃ q, Spans r ⟨before, []⟩ q := by
  constructor
  · rintro ⟨cs, t, q, hread, hspans⟩
    obtain ⟨rfl, -⟩ := List.append_eq_nil_iff.mp hread.1.symm
    obtain rfl := hread.eq_of_nil
    exact ⟨q, hspans⟩
  · rintro ⟨q, hspans⟩
    exact ⟨[], _, q, .refl _, hspans⟩

theorem Thread.leads_of_mem_moves {t : Thread} {move : Move}
    (hmove : move ∈ (moves p t.rest).map (·.after t.marks)) (h : move.Leads p [] q n) :
    t.Leads p q n := by
  obtain ⟨x, hx, rfl⟩ := List.mem_map.mp hmove
  rw [Move.leads_after_iff, List.append_nil] at h
  exact matches_of_moves hx h

theorem Thread.exists_mem_moves {t : Thread} (h : Spans t.rest p q) :
    ∃ move ∈ (moves p t.rest).map (·.after t.marks), move.Reaches p q := by
  obtain ⟨x, hx, hreach⟩ := exists_moves_of_spans h
  exact ⟨_, List.mem_map_of_mem hx, Move.reaches_after_iff.mpr hreach⟩

/-- The moves that read, as waiting threads. -/
def waiting (ms : List Move) : List Waiting :=
  ms.filterMap fun
    | .accept _ => none
    | .read set rest m => some ⟨set, ⟨rest, m⟩⟩

theorem mem_waiting_iff {ms : List Move} {w : Waiting} : w ∈ waiting ms ↔ w.move ∈ ms := by
  rw [waiting, List.mem_filterMap]
  constructor
  · rintro ⟨move, hmem, hw⟩
    cases move with
    | accept k => cases hw
    | read set rest k =>
      obtain rfl := Option.some.inj hw
      exact hmem
  · exact fun hmem => ⟨_, hmem, rfl⟩

/-- The first thread of a list is done at a place, and the others are dropped; or it is not, and the
others come after it. -/
theorem advance_cons (p : Place) (t : Thread) (ts : List Thread) :
    (∃ m, .accept m ∈ (moves p t.rest).map (·.after t.marks) ∧
      advance p (t :: ts) = (waiting (((moves p t.rest).map (·.after t.marks)).takeWhile
        (!·.isAccept)), some m)) ∨
    ((∀ m, .accept m ∉ (moves p t.rest).map (·.after t.marks)) ∧
      advance p (t :: ts) = (waiting ((moves p t.rest).map (·.after t.marks)) ++ (advance p ts).1,
        (advance p ts).2)) := by
  rw [advance]
  cases hfind : ((moves p t.rest).map (·.after t.marks)).find? Move.isAccept with
  | none =>
    refine .inr ⟨fun m hm => ?_, rfl⟩
    exact absurd rfl (List.find?_eq_none.mp hfind _ hm)
  | some move =>
    cases move with
    | accept m => exact .inl ⟨m, List.mem_of_find?_eq_some hfind, rfl⟩
    | read set rest k => cases List.find?_some hfind

/-- What is done at a place is one of the threads. -/
theorem leads_of_advance_eq_some (h : (advance p ts).2 = some m) : ∃ t ∈ ts, t.Leads p p m := by
  induction ts with
  | nil => cases h
  | cons t ts ih =>
    rcases advance_cons p t ts with ⟨k, hmem, hadvance⟩ | ⟨-, hadvance⟩
    · rw [hadvance] at h
      obtain rfl := Option.some.inj h
      exact ⟨t, List.mem_cons_self,
        Thread.leads_of_mem_moves hmem ⟨rfl, (List.append_nil _).symm⟩⟩
    · rw [hadvance] at h
      obtain ⟨u, hu, hlead⟩ := ih h
      exact ⟨u, List.mem_cons_of_mem t hu, hlead⟩

/-- Where the waiting threads lead, the threads did. -/
theorem leads_of_mem_advance {w : Waiting} (hw : w ∈ (advance p ts).1)
    (h : w.move.Leads p [] q n) : ∃ t ∈ ts, t.Leads p q n := by
  induction ts with
  | nil => cases hw
  | cons t ts ih =>
    rcases advance_cons p t ts with ⟨k, -, hadvance⟩ | ⟨-, hadvance⟩
    · rw [hadvance] at hw
      have hmem := (List.takeWhile_sublist _).subset (mem_waiting_iff.mp hw)
      exact ⟨t, List.mem_cons_self, Thread.leads_of_mem_moves hmem h⟩
    · rw [hadvance] at hw
      rcases List.mem_append.mp hw with hw | hw
      · exact ⟨t, List.mem_cons_self, Thread.leads_of_mem_moves (mem_waiting_iff.mp hw) h⟩
      · obtain ⟨u, hu, hlead⟩ := ih hw
        exact ⟨u, List.mem_cons_of_mem t hu, hlead⟩

/-- If a thread spans something, one is done at the place, or a waiting one leads there. -/
theorem advance_complete {t : Thread} (ht : t ∈ ts) (h : Spans t.rest p q) :
    (advance p ts).2.isSome = true ∨ ∃ w ∈ (advance p ts).1, w.move.Reaches p q := by
  induction ts with
  | nil => cases ht
  | cons u ts ih =>
    rcases advance_cons p u ts with ⟨k, -, hadvance⟩ | ⟨hnone, hadvance⟩
    · exact .inl (by rw [hadvance]; rfl)
    · rw [hadvance]
      rcases List.mem_cons.mp ht with rfl | ht
      · obtain ⟨move, hmem, hreach⟩ := Thread.exists_mem_moves h
        -- A thread that is not done has no move that accepts.
        cases move with
        | accept m => exact absurd hmem (hnone m)
        | read set rest k =>
          exact .inr ⟨⟨set, ⟨rest, k⟩⟩, List.mem_append_left _ (mem_waiting_iff.mpr hmem), hreach⟩
      · rcases ih ht with hdone | ⟨w, hw, hreach⟩
        · exact .inl hdone
        · exact .inr ⟨w, List.mem_append_right _ hw, hreach⟩

theorem of_mem_resume {seen : Buckets} {t : Thread} (h : t ∈ resume c seen ws) :
    ∃ w ∈ ws, w.set.contains c = true ∧ w.thread = t := by
  induction ws generalizing seen with
  | nil => cases h
  | cons w ws ih =>
    rw [resume] at h
    split at h
    · next hw =>
      rcases List.mem_cons.mp h with rfl | h
      · exact ⟨w, List.mem_cons_self, (Bool.and_eq_true_iff.mp hw).1, rfl⟩
      · obtain ⟨x, hx, hc⟩ := ih h
        exact ⟨x, List.mem_cons_of_mem w hx, hc⟩
    · obtain ⟨x, hx, hc⟩ := ih h
      exact ⟨x, List.mem_cons_of_mem w hx, hc⟩

/-- Of the waiting threads that waited for a character, all remainders are among those of the
threads after it, but for remainders seen before. -/
theorem exists_mem_resume {seen : Buckets} {w : Waiting} (hw : w ∈ ws)
    (hc : w.set.contains c = true) :
    (∃ t ∈ resume c seen ws, t.rest = w.thread.rest) ∨ seen.contains w.thread.rest = true := by
  induction ws generalizing seen with
  | nil => cases hw
  | cons x ws ih =>
    rw [resume]
    split
    · rcases List.mem_cons.mp hw with rfl | hw
      · exact .inl ⟨_, List.mem_cons_self, rfl⟩
      · rcases ih hw with ⟨t, ht, hrest⟩ | hseen
        · exact .inl ⟨t, List.mem_cons_of_mem _ ht, hrest⟩
        -- Seen by now means seen before, or just now and so among the threads.
        · rcases Buckets.of_contains_insert hseen with hx | hseen
          · exact .inl ⟨_, List.mem_cons_self, hx.symm⟩
          · exact .inr hseen
    · next hx =>
      rcases List.mem_cons.mp hw with rfl | hw
      · exact .inr (by simpa [hc] using hx)
      · exact ih hw

/-- Where the threads after a character lead, waiting ones lead with the character. -/
theorem exists_leads_of_mem_resume {seen : Buckets} {before after : List Char} {t : Thread}
    (ht : t ∈ resume c seen ws) (h : t.Leads ⟨c :: before, after⟩ q m) :
    ∃ w ∈ ws, w.move.Leads ⟨before, c :: after⟩ [] q m := by
  obtain ⟨w, hw, hc, rfl⟩ := of_mem_resume ht
  exact ⟨w, hw, c, _, hc, .single before after c, by rwa [List.append_nil]⟩

/-- Where waiting threads lead, the threads after the next character do. -/
theorem exists_spans_of_mem_waiting {before after : List Char} {w : Waiting} (hw : w ∈ ws)
    (h : w.move.Reaches ⟨before, c :: after⟩ q) :
    ∃ t ∈ resume c .empty ws, Spans t.rest ⟨c :: before, after⟩ q := by
  obtain ⟨d, u, hd, hread, hspans⟩ := h
  obtain ⟨rfl, rfl⟩ := hread.eq_of_single
  obtain ⟨t, ht, hsame⟩ | hseen : (∃ t ∈ resume c .empty ws, t.rest = w.thread.rest) ∨ _ :=
    exists_mem_resume hw hd
  · exact ⟨t, ht, hsame ▸ hspans⟩
  · rw [Buckets.contains_empty] at hseen
    cases hseen

/-- The threads that a search goes on from at a place. -/
def starting (r : Regex) (ts : List Thread) (found : Option Marks) : List Thread :=
  if found.isSome then ts else ts ++ [⟨r, []⟩]

theorem scan_cons (r : Regex) (ts : List Thread) (found : Option Marks) (before : List Char)
    (c : Char) (after : List Char) :
    scan r ts found before (c :: after) =
      let a := advance ⟨before, c :: after⟩ (starting r ts found)
      if a.1.isEmpty && (a.2 <|> found).isSome then (a.2 <|> found)
      else scan r (resume c .empty a.1) (a.2 <|> found) (c :: before) after :=
  rfl

/-- Marks that a search from a place may return: those of a match that a thread leads to, or that
the expression has there or further on. -/
def MayReturn (r : Regex) (ts : List Thread) (p : Place) (m : Marks) : Prop :=
  (∃ t ∈ ts, ∃ q, t.Leads p q m) ∨ ∃ cs t q, p.Reads cs t ∧ Matches r t [] q m

/-- What a thread leads to that a search goes on from, the search may return. -/
theorem mayReturn_of_mem_starting {found : Option Marks} {t : Thread}
    (ht : t ∈ starting r ts found) (h : t.Leads p q m) : MayReturn r ts p m := by
  rw [starting] at ht
  split at ht
  · exact .inl ⟨t, ht, q, h⟩
  · rcases List.mem_append.mp ht with ht | ht
    · exact .inl ⟨t, ht, q, h⟩
    · obtain rfl := List.mem_singleton.mp ht
      exact .inr ⟨[], p, q, .refl p, h⟩

/-- The best match at a place was found before, or a search from there may return it. -/
theorem mayReturn_of_best {found : Option Marks}
    (h : ((advance p (starting r ts found)).2 <|> found) = some m) :
    found = some m ∨ MayReturn r ts p m := by
  cases hdone : (advance p (starting r ts found)).2 with
  | none =>
    rw [hdone] at h
    exact .inl h
  | some k =>
    rw [hdone] at h
    obtain rfl := Option.some.inj h
    obtain ⟨t, ht, hlead⟩ := leads_of_advance_eq_some hdone
    exact .inr (mayReturn_of_mem_starting ht hlead)

/-- What a search may return after a character, it may return before it. -/
theorem MayReturn.of_resume {found : Option Marks} {before after : List Char}
    (h : MayReturn r (resume c .empty (advance ⟨before, c :: after⟩ (starting r ts found)).1)
      ⟨c :: before, after⟩ m) : MayReturn r ts ⟨before, c :: after⟩ m := by
  rcases h with ⟨t, ht, q, hlead⟩ | ⟨cs, t, q, hreads, h⟩
  · obtain ⟨w, hw, hmove⟩ := exists_leads_of_mem_resume ht hlead
    obtain ⟨u, hu, hlead⟩ := leads_of_mem_advance hw hmove
    exact mayReturn_of_mem_starting hu hlead
  · exact .inr ⟨c :: cs, t, q, (Place.Reads.single _ _ c).trans hreads, h⟩

/-- The marks that a search returns were found before, or the search may return them. -/
theorem mayReturn_of_scan {found : Option Marks} {before after : List Char}
    (h : scan r ts found before after = some m) :
    found = some m ∨ MayReturn r ts ⟨before, after⟩ m := by
  -- Each character hands the threads that wait for it on to the rest of the text.
  induction after generalizing ts found before with
  | nil => exact mayReturn_of_best h
  | cons c after ih =>
    rw [scan_cons] at h
    dsimp only at h
    split at h
    · exact mayReturn_of_best h
    · rcases ih h with h | h
      · exact mayReturn_of_best h
      · exact .inr h.of_resume

/-- While no match has been found, a thread leads on from a place or is done there, if one that has
been reached or the expression spans something. -/
theorem advance_starting_complete {t : Thread} (ht : t ∈ ts ∨ t = ⟨r, []⟩)
    (h : Spans t.rest p q) :
    (advance p (starting r ts none)).2.isSome = true ∨
      ∃ w ∈ (advance p (starting r ts none)).1, w.move.Reaches p q :=
  advance_complete (List.mem_append.mpr (ht.imp_right List.mem_singleton.mpr)) h

/-- If the expression matches from a place on, or a thread that has reached it spans something, or a
match was found before, then a search returns marks. -/
theorem scan_isSome {found : Option Marks} {before after : List Char}
    (h : found.isSome = true ∨ (∃ t, (t ∈ ts ∨ t = ⟨r, []⟩) ∧ ∃ q, Spans t.rest ⟨before, after⟩ q) ∨
      MatchesFrom r ⟨before, after⟩) : (scan r ts found before after).isSome = true := by
  -- What can be matched stays in reach of a thread or lies further on, until a match is found.
  induction after generalizing ts found before with
  | nil =>
    cases found with
    | some m =>
      rw [scan]
      cases (advance ⟨before, []⟩ _).2 <;> rfl
    | none =>
      have hthread : ∃ t, (t ∈ ts ∨ t = ⟨r, []⟩) ∧ ∃ q, Spans t.rest ⟨before, []⟩ q := by
        rcases h with h | h | h
        · cases h
        · exact h
        · exact ⟨_, .inr rfl, matchesFrom_nil_iff.mp h⟩
      obtain ⟨t, ht, q, hspans⟩ := hthread
      have hdone : (advance ⟨before, []⟩ (starting r ts none)).2.isSome = true := by
        rcases advance_starting_complete ht hspans with h | ⟨w, -, c, u, -, hread, -⟩
        · exact h
        · -- A waiting thread would need one more character.
          cases hread.1
      obtain ⟨m, hm⟩ := Option.isSome_iff_exists.mp hdone
      rw [scan]
      exact Option.isSome_iff_exists.mpr ⟨m, by rw [starting] at hm; rw [hm]; rfl⟩
  | cons c after ih =>
    rw [scan_cons]
    dsimp only
    cases hbest : ((advance ⟨before, c :: after⟩ (starting r ts found)).2 <|> found) with
    | some m =>
      split
      · rfl
      · exact ih (.inl rfl)
    | none =>
      obtain ⟨hdone, rfl⟩ : (advance ⟨before, c :: after⟩ (starting r ts found)).2 = none ∧
          found = none := by simpa using hbest
      rw [Option.isSome_none, Bool.and_false, if_neg Bool.false_ne_true]
      have hthread : (∃ t, (t ∈ ts ∨ t = ⟨r, []⟩) ∧ ∃ q, Spans t.rest ⟨before, c :: after⟩ q) ∨
          MatchesFrom r ⟨c :: before, after⟩ := by
        rcases h with h | h | h
        · cases h
        · exact .inl h
        · exact (matchesFrom_cons_iff.mp h).imp_left fun h => ⟨_, .inr rfl, h⟩
      refine ih (.inr ?_)
      rcases hthread with ⟨t, ht, q, hspans⟩ | hlater
      · rcases advance_starting_complete ht hspans with h | ⟨w, hw, hreach⟩
        · rw [hdone] at h
          cases h
        · obtain ⟨t, ht, hspans⟩ := exists_spans_of_mem_waiting hw hreach
          exact .inl ⟨t, .inl ht, q, hspans⟩
      · exact .inr hlater

/-- The marks that a search returns are those of a match of some part of the text. -/
theorem exists_matches_of_find? {text : List Char} (h : r.find? text = some m) :
    ∃ p q, p.before.reverse ++ p.after = text ∧ Matches r p [] q m := by
  rcases mayReturn_of_scan h with h | ⟨t, ht, -⟩ | ⟨cs, t, q, hread, h⟩
  · cases h
  · cases ht
  · exact ⟨t, q, hread.text_eq, h⟩

theorem find?_isSome_iff {text : List Char} : (r.find? text).isSome = true ↔ r.MatchesIn text := by
  constructor
  · intro h
    obtain ⟨m, hm⟩ := Option.isSome_iff_exists.mp h
    obtain ⟨p, q, htext, h⟩ := exists_matches_of_find? hm
    exact ⟨p, q, m, htext, h⟩
  · rintro ⟨p, q, m, rfl, h⟩
    refine scan_isSome (.inr (.inr ⟨p.before.reverse, p, q, ⟨rfl, ?_⟩, [], m, h⟩))
    rw [List.reverse_reverse, List.append_nil]

theorem isMatch_iff {text : List Char} : r.isMatch text = true ↔ r.MatchesIn text := by
  rw [isMatch, find?_isSome_iff, matchesIn_unmarked_iff]

end Regex

end Clausal
