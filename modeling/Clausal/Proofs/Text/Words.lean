import Clausal.Proofs.Text.Blank

/-!
# Words

What `words` finds in a text that is put together from words and blanks, and the converse: a text
begins with its first word, after blanks, and goes on with a blank if it goes on.  Blanks at the
ends of a text make no difference (`words_trim`).

## Main definitions

- `Blank.IsWord`: there is at least one character, and none is a blank
- `Blank.BeginsBlank`: a text that goes on goes on with a blank
-/

namespace Clausal

namespace Blank

variable {b cs current rest w x y : List Char} {ws : List (List Char)}

/-- There is at least one character, and none is a blank. -/
structure IsWord (w : List Char) : Prop where
  ne_nil : w ≠ []
  not_blank : ∀ c ∈ w, isBlank c = false

theorem isWord_of_all (hne : w ≠ []) (h : w.all (!isBlank ·) = true) : IsWord w :=
  ⟨hne, by simpa using h⟩

/-- If there is a first character, it is a blank. -/
def BeginsBlank (cs : List Char) : Prop :=
  ∀ c, cs.head? = some c → isBlank c = true

theorem beginsBlank_of_forall (h : ∀ c ∈ b, isBlank c = true) : BeginsBlank b :=
  fun c hc => h c (List.mem_of_head? hc)

theorem beginsBlank_append (h : ∀ c ∈ b, isBlank c = true) (hne : b ≠ []) :
    BeginsBlank (b ++ cs) := by
  obtain ⟨c, b, rfl⟩ := List.exists_cons_of_ne_nil hne
  rintro _ ⟨⟩
  exact h c List.mem_cons_self

theorem wordsFrom_append_of_forall (h : ∀ c ∈ w, isBlank c = false) :
    wordsFrom current (w ++ cs) = wordsFrom (w.reverse ++ current) cs := by
  induction w generalizing current with
  | nil => rfl
  | cons c w ih =>
    obtain ⟨hc, hrest⟩ := List.forall_mem_cons.mp h
    rw [List.cons_append, wordsFrom, hc, if_neg Bool.false_ne_true, ih hrest, List.reverse_cons,
      List.append_assoc, List.singleton_append]

theorem wordsFrom_blanks_append (h : ∀ c ∈ b, isBlank c = true) :
    wordsFrom [] (b ++ cs) = wordsFrom [] cs := by
  induction b with
  | nil => rfl
  | cons c b ih =>
    obtain ⟨hc, hrest⟩ := List.forall_mem_cons.mp h
    rw [List.cons_append, wordsFrom, hc, if_pos rfl, List.isEmpty_nil, if_pos rfl, ih hrest]

theorem wordsFrom_of_beginsBlank (hne : current ≠ []) (h : BeginsBlank cs) :
    wordsFrom current cs = current.reverse :: wordsFrom [] cs := by
  have hempty : current.isEmpty = false := by simpa using hne
  cases cs with
  | nil => simp [wordsFrom, hempty]
  | cons c cs => simp [wordsFrom, hempty, h c rfl]

theorem wordsFrom_append_blanks (h : ∀ c ∈ b, isBlank c = true) :
    wordsFrom current (cs ++ b) = wordsFrom current cs := by
  induction cs generalizing current with
  | nil =>
    have hnone : wordsFrom [] b = [] := by
      rw [← List.append_nil b, wordsFrom_blanks_append h]
      rfl
    by_cases hne : current = []
    · rw [hne, List.nil_append, hnone]
      rfl
    · rw [List.nil_append, wordsFrom_of_beginsBlank hne (beginsBlank_of_forall h), hnone,
        wordsFrom_of_beginsBlank hne (beginsBlank_of_forall (List.forall_mem_nil _))]
      rfl
  | cons c cs ih => simp only [List.cons_append, wordsFrom, ih]

/-- The first word comes after blanks and before a blank or the end. -/
theorem wordsFrom_word_append (hb : ∀ c ∈ b, isBlank c = true) (hw : IsWord w)
    (hrest : BeginsBlank rest) :
    wordsFrom [] (b ++ (w ++ rest)) = w :: wordsFrom [] rest := by
  rw [wordsFrom_blanks_append hb, wordsFrom_append_of_forall hw.not_blank, List.append_nil,
    wordsFrom_of_beginsBlank (by simpa using hw.ne_nil) hrest, List.reverse_reverse]

/-- A text consists of blanks, or it has a first word. -/
theorem forall_isBlank_or_exists_word (cs : List Char) :
    (∀ c ∈ cs, isBlank c = true) ∨ ∃ b w rest, (∀ c ∈ b, isBlank c = true) ∧ IsWord w ∧
      BeginsBlank rest ∧ cs = b ++ (w ++ rest) := by
  have hsplit : cs = cs.takeWhile isBlank ++ cs.dropWhile isBlank :=
    List.takeWhile_append_dropWhile.symm
  have hblank : ∀ c ∈ cs.takeWhile isBlank, isBlank c = true :=
    List.all_eq_true.mp List.all_takeWhile
  cases hdrop : cs.dropWhile isBlank with
  | nil =>
    rw [hdrop, List.append_nil] at hsplit
    exact .inl (hsplit ▸ hblank)
  | cons c rest =>
    have hc : isBlank c = false := by
      simpa [hdrop] using List.head?_dropWhile_not isBlank cs
    refine .inr ⟨_, c :: rest.takeWhile (!isBlank ·), rest.dropWhile (!isBlank ·), hblank,
      ⟨List.cons_ne_nil _ _, ?_⟩, ?_, ?_⟩
    · refine List.forall_mem_cons.mpr ⟨hc, fun x hx => ?_⟩
      simpa using List.all_eq_true.mp List.all_takeWhile x hx
    · intro x hx
      have hhead := List.head?_dropWhile_not (!isBlank ·) rest
      rw [hx] at hhead
      simpa using hhead
    · rw [List.cons_append, List.takeWhile_append_dropWhile, ← hdrop]
      exact hsplit

theorem wordsFrom_eq_nil_iff : wordsFrom [] cs = [] ↔ ∀ c ∈ cs, isBlank c = true := by
  constructor
  · intro h
    rcases forall_isBlank_or_exists_word cs with hall | ⟨b, w, rest, hb, hw, hrest, rfl⟩
    · exact hall
    · rw [wordsFrom_word_append hb hw hrest] at h
      cases h
  · intro h
    rw [← List.append_nil cs, wordsFrom_blanks_append h]
    rfl

theorem wordsFrom_eq_cons_iff : wordsFrom [] cs = w :: ws ↔
    ∃ b rest, (∀ c ∈ b, isBlank c = true) ∧ IsWord w ∧ BeginsBlank rest ∧
      cs = b ++ (w ++ rest) ∧ wordsFrom [] rest = ws := by
  constructor
  · intro h
    rcases forall_isBlank_or_exists_word cs with hall | ⟨b, w', rest, hb, hw, hrest, rfl⟩
    · rw [wordsFrom_eq_nil_iff.mpr hall] at h
      cases h
    · rw [wordsFrom_word_append hb hw hrest] at h
      cases h
      exact ⟨b, rest, hb, hw, hrest, rfl, rfl⟩
  · rintro ⟨b, rest, hb, hw, hrest, rfl, rfl⟩
    exact wordsFrom_word_append hb hw hrest

/-- A text has two words exactly if these are all that it has besides blanks, one of which comes
between them. -/
theorem wordsFrom_eq_pair_iff : wordsFrom [] cs = [x, y] ↔ IsWord x ∧ IsWord y ∧
    ∃ before between after, (∀ c ∈ before, isBlank c = true) ∧
      (between ≠ [] ∧ ∀ c ∈ between, isBlank c = true) ∧ (∀ c ∈ after, isBlank c = true) ∧
      cs = before ++ (x ++ (between ++ (y ++ after))) := by
  constructor
  · intro h
    obtain ⟨before, rest, hbefore, hx, hrest, rfl, hwords⟩ := wordsFrom_eq_cons_iff.mp h
    obtain ⟨between, after, hbetween, hy, -, rfl, hnil⟩ := wordsFrom_eq_cons_iff.mp hwords
    refine ⟨hx, hy, before, between, after, hbefore, ⟨?_, hbetween⟩,
      wordsFrom_eq_nil_iff.mp hnil, rfl⟩
    rintro rfl
    -- The first word would not have ended.
    obtain ⟨c, y, rfl⟩ := List.exists_cons_of_ne_nil hy.ne_nil
    have hblank : isBlank c = true := hrest c rfl
    rw [hy.not_blank c List.mem_cons_self] at hblank
    cases hblank
  · rintro ⟨hx, hy, before, between, after, hbefore, ⟨hne, hbetween⟩, hafter, rfl⟩
    rw [wordsFrom_word_append hbefore hx (beginsBlank_append hbetween hne),
      wordsFrom_word_append hbetween hy (beginsBlank_of_forall hafter),
      wordsFrom_eq_nil_iff.mpr hafter]

theorem mem_of_mem_wordsFrom {x : Char} (hw : w ∈ wordsFrom current cs)
    (hx : x ∈ w) : x ∈ current ∨ x ∈ cs := by
  induction cs generalizing current with
  | nil =>
    rw [wordsFrom] at hw
    split at hw
    · cases hw
    · obtain rfl := List.mem_singleton.mp hw
      exact .inl (List.mem_reverse.mp hx)
  | cons c cs ih =>
    have hcurrent : w = current.reverse → x ∈ current ∨ x ∈ c :: cs := by
      rintro rfl
      exact .inl (List.mem_reverse.mp hx)
    have hrest : w ∈ wordsFrom [] cs → x ∈ current ∨ x ∈ c :: cs := by
      intro hmem
      rcases ih hmem with h | h
      · cases h
      · exact .inr (List.mem_cons_of_mem c h)
    rw [wordsFrom] at hw
    split at hw
    · split at hw
      · exact hrest hw
      · rcases List.mem_cons.mp hw with h | h
        · exact hcurrent h
        · exact hrest h
    · rcases ih hw with h | h
      · rcases List.mem_cons.mp h with rfl | h
        · exact .inr List.mem_cons_self
        · exact .inl h
      · exact .inr (List.mem_cons_of_mem c h)

/-- A text is what trimming leaves of it, between blanks. -/
theorem exists_trimChars_append (cs : List Char) : ∃ before after,
    (∀ c ∈ before, isBlank c = true) ∧ (∀ c ∈ after, isBlank c = true) ∧
      cs = before ++ (trimChars cs ++ after) := by
  obtain ⟨after, hcs, hafter⟩ := exists_trimRight_append (trimLeft cs)
  refine ⟨cs.takeWhile isBlank, after, List.all_eq_true.mp List.all_takeWhile, hafter, ?_⟩
  rw [trimChars, ← hcs, trimLeft, List.takeWhile_append_dropWhile]

theorem wordsFrom_trimChars (cs : List Char) : wordsFrom [] (trimChars cs) = wordsFrom [] cs := by
  obtain ⟨before, after, hbefore, hafter, hcs⟩ := exists_trimChars_append cs
  conv => rhs; rw [hcs]
  rw [wordsFrom_blanks_append hbefore, wordsFrom_append_blanks hafter]

theorem Trimmed.cons_append {c : Char} (h : Trimmed cs) (hne : cs ≠ []) (hc : isBlank c = false)
    (b : List Char) : Trimmed (c :: (b ++ cs)) := by
  constructor
  · rintro _ ⟨⟩
    exact hc
  · intro x hx
    rw [← List.cons_append, List.getLast?_append, List.getLast?_eq_some_getLast hne,
      Option.some_or, ← List.getLast?_eq_some_getLast hne] at hx
    exact h.last x hx

theorem trimChars_of_trimmed {before after : List Char} (hbefore : ∀ c ∈ before, isBlank c = true)
    (hafter : ∀ c ∈ after, isBlank c = true) (h : Trimmed cs) :
    trimChars (before ++ (cs ++ after)) = cs := by
  rw [← List.append_assoc, trimChars_append_of_forall hafter, trimChars, trimLeft,
    List.dropWhile_append_of_pos hbefore]
  exact trimChars_eq_self_iff.mpr h

end Blank

theorem words_trim (s : String) : words (trim s) = words s := by
  rw [words, words, toList_trim, Blank.wordsFrom_trimChars]

end Clausal
