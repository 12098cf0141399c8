import Clausal.Text.Blank

/-!
# Removing blanks

What `trim` does to a text that is put together from parts: it never gets past a character that is
no blank, and blanks at an end that has yet to be trimmed make no difference.  The texts that it
leaves alone are those without a blank at either end (`Blank.trimChars_eq_self_iff`).
-/

namespace Clausal

namespace Blank

variable {a b cs : List Char} {c : Char}

theorem trimRight_append_of_forall (h : ∀ c ∈ b, isBlank c = true) :
    trimRight (a ++ b) = trimRight a := by
  rw [trimRight, trimRight, List.reverse_append, List.dropWhile_append_of_pos]
  simpa using h

theorem trimLeft_append_cons (h : isBlank c = false) :
    trimLeft (a ++ c :: b) = trimLeft a ++ c :: b := by
  rw [trimLeft, trimLeft, List.dropWhile_append,
    List.dropWhile_cons_of_neg (by simp [h])]
  split
  · next hempty => rw [List.isEmpty_iff.mp hempty, List.nil_append]
  · rfl

theorem trimRight_append_cons (h : isBlank c = false) :
    trimRight (a ++ c :: b) = a ++ c :: trimRight b := by
  have hb : a ++ c :: b = (a ++ [c]) ++ b := by simp
  rw [trimRight, trimRight, hb, List.reverse_append, List.dropWhile_append]
  split
  · next hempty =>
    rw [List.isEmpty_iff.mp hempty, List.reverse_append, List.reverse_singleton,
      List.singleton_append, List.dropWhile_cons_of_neg (by simp [h])]
    simp
  · simp

/-- A text is what remains of it at the end, followed by blanks. -/
theorem exists_trimRight_append (cs : List Char) :
    ∃ b, cs = trimRight cs ++ b ∧ ∀ c ∈ b, isBlank c = true := by
  refine ⟨(cs.reverse.takeWhile isBlank).reverse, ?_, ?_⟩
  · rw [trimRight, ← List.reverse_append, List.takeWhile_append_dropWhile, List.reverse_reverse]
  · intro c hc
    exact List.all_eq_true.mp List.all_takeWhile c (List.mem_reverse.mp hc)

@[simp] theorem trimLeft_trimLeft (cs : List Char) : trimLeft (trimLeft cs) = trimLeft cs := by
  have hblank : ∀ c ∈ cs.takeWhile isBlank, isBlank c = true :=
    List.all_eq_true.mp List.all_takeWhile
  calc trimLeft (trimLeft cs) = trimLeft (cs.takeWhile isBlank ++ trimLeft cs) :=
        (List.dropWhile_append_of_pos hblank).symm
    _ = trimLeft cs := by rw [trimLeft, trimLeft, List.takeWhile_append_dropWhile]

theorem trimChars_append_of_forall (h : ∀ c ∈ b, isBlank c = true) :
    trimChars (a ++ b) = trimChars a := by
  rw [trimChars, trimChars, trimLeft, trimLeft, List.dropWhile_append]
  split
  · next hempty =>
    have hdrop : b.dropWhile isBlank = [] := by
      rw [← List.append_nil b, List.dropWhile_append_of_pos h, List.dropWhile_nil]
    rw [hdrop, List.isEmpty_iff.mp hempty]
  · exact trimRight_append_of_forall h

theorem trimChars_trimRight (cs : List Char) : trimChars (trimRight cs) = trimChars cs := by
  obtain ⟨b, hcs, hb⟩ := exists_trimRight_append cs
  conv => rhs; rw [hcs]
  exact (trimChars_append_of_forall hb).symm

theorem trimChars_trimLeft (cs : List Char) : trimChars (trimLeft cs) = trimChars cs := by
  rw [trimChars, trimChars, trimLeft_trimLeft]

@[simp] theorem trimChars_trimChars (cs : List Char) : trimChars (trimChars cs) = trimChars cs := by
  calc trimChars (trimChars cs) = trimChars (trimLeft cs) := trimChars_trimRight (trimLeft cs)
    _ = trimChars cs := trimChars_trimLeft cs

/-- A text has no blank at either end. -/
structure Trimmed (cs : List Char) : Prop where
  head : ∀ c, cs.head? = some c → isBlank c = false
  last : ∀ c, cs.getLast? = some c → isBlank c = false

theorem trimLeft_eq_self_iff : trimLeft cs = cs ↔ ∀ c, cs.head? = some c → isBlank c = false := by
  cases cs with
  | nil => simp [trimLeft]
  | cons c cs =>
    simp only [List.head?_cons, Option.some.injEq, forall_eq', trimLeft]
    cases hc : isBlank c with
    | true =>
      have hlength : (cs.dropWhile isBlank).length ≤ cs.length :=
        (List.dropWhile_suffix isBlank).length_le
      rw [List.dropWhile_cons_of_pos hc]
      simp only [Bool.true_eq_false, iff_false]
      intro h
      rw [h, List.length_cons] at hlength
      omega
    | false => simp [List.dropWhile_cons_of_neg, hc]

theorem trimRight_eq_self_iff :
    trimRight cs = cs ↔ ∀ c, cs.getLast? = some c → isBlank c = false := by
  have hreverse : trimRight cs = cs ↔ trimLeft cs.reverse = cs.reverse := by
    rw [trimRight, ← trimLeft, List.reverse_eq_iff]
  rw [hreverse, trimLeft_eq_self_iff, List.head?_reverse]

theorem length_trimRight_le (cs : List Char) : (trimRight cs).length ≤ cs.length := by
  obtain ⟨b, hcs, -⟩ := exists_trimRight_append cs
  have hlength := congrArg List.length hcs
  rw [List.length_append] at hlength
  omega

theorem trimChars_eq_self_iff : trimChars cs = cs ↔ Trimmed cs := by
  constructor
  · intro h
    -- Trimming at either end makes a text shorter or leaves it alone.
    have hleft : trimLeft cs = cs := by
      refine (List.dropWhile_suffix isBlank).eq_of_length_le ?_
      calc cs.length = (trimRight (trimLeft cs)).length := by rw [← trimChars, h]
        _ ≤ (trimLeft cs).length := length_trimRight_le _
    rw [trimChars, hleft] at h
    exact ⟨trimLeft_eq_self_iff.mp hleft, trimRight_eq_self_iff.mp h⟩
  · rintro ⟨hhead, hlast⟩
    rw [trimChars, trimLeft_eq_self_iff.mpr hhead, trimRight_eq_self_iff.mpr hlast]

theorem trimmed_trimChars (cs : List Char) : Trimmed (trimChars cs) :=
  trimChars_eq_self_iff.mp (trimChars_trimChars cs)

theorem trimChars_infix (cs : List Char) : trimChars cs <:+: cs := by
  obtain ⟨b, hb, -⟩ := exists_trimRight_append (trimLeft cs)
  have hleft : trimLeft cs <:+ cs := List.dropWhile_suffix isBlank
  have hright : trimChars cs <+: trimLeft cs := ⟨b, hb.symm⟩
  exact hright.isInfix.trans hleft.isInfix

theorem trimChars_cons_of_isBlank {c : Char} (h : isBlank c = true) (cs : List Char) :
    trimChars (c :: cs) = trimChars cs := by
  rw [trimChars, trimChars, trimLeft, List.dropWhile_cons_of_pos h, trimLeft]

end Blank

@[simp] theorem trim_trim (s : String) : trim (trim s) = trim s := by
  rw [trim, trim, String.toList_ofList, Blank.trimChars_trimChars]

theorem toList_trim (text : String) : (trim text).toList = Blank.trimChars text.toList := by
  rw [trim, String.toList_ofList]

theorem trim_space_append (text : String) : trim (" " ++ text) = trim text := by
  have hspace : (" " ++ text).toList = ' ' :: text.toList := String.toList_append
  rw [← String.toList_inj, toList_trim, toList_trim, hspace,
    Blank.trimChars_cons_of_isBlank (by decide)]

theorem trim_eq_self_iff {text : String} : trim text = text ↔ Blank.Trimmed text.toList := by
  rw [← Blank.trimChars_eq_self_iff, ← toList_trim, String.toList_inj]

end Clausal
