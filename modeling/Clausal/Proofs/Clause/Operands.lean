import Clausal.Proofs.Clause.Shape
import Clausal.Proofs.Text.Blank
import Mathlib.Data.List.Induction
import Mathlib.Data.Nat.Digits.Defs

/-!
# The operands of a clause

A text of a certain form can be taken apart in one way only: keywords have a fixed length, a numeral
ends where the digits end, and a regular expression ends before the last two characters.  So a text
determines its operands.  Numerals denote numbers in decimal (`Digit.number_eq_decimal`), and the
operand of a relation is what comes after the last space (`Clause.operand_iff`).

## Main definitions

- `decimal`: the number that a run of digits denotes, by the weights of its digits
- `Grammar.FollowsLastSpace`: a text is what comes after the last space of another one
-/

namespace Clausal

/-- The number that digits denote in decimal; the last digit has the least weight. -/
def decimal (cs : List Char) : Nat :=
  Nat.ofDigits 10 (cs.reverse.map Digit.value)

theorem decimal_append_singleton (cs : List Char) (c : Char) :
    decimal (cs ++ [c]) = 10 * decimal cs + Digit.value c := by
  rw [decimal, decimal, List.reverse_append, List.reverse_singleton, List.singleton_append,
    List.map_cons, Nat.ofDigits_cons, Nat.add_comm]

theorem Digit.number_append_singleton (cs : List Char) (c : Char) :
    number (cs ++ [c]) = 10 * number cs + value c := by
  simp [number]

/-- Reading digits from the first one on computes the number that they denote. -/
theorem Digit.number_eq_decimal (cs : List Char) : number cs = decimal cs := by
  induction cs using List.reverseRecOn with
  | nil => rfl
  | append_singleton cs c ih => rw [number_append_singleton, decimal_append_singleton, ih]

namespace Grammar

variable {u w w' x y d d' rest rest' : List Char} {k : String} {c c' : Char}

/-- A character that is no letter is that of a keyword only if it is the same. -/
theorem fold_eq_iff_of_lt {k : Char} (hk : k ∈ keywordChars) (hlt : k.toNat < 0x61) :
    fold c = k ↔ c = k := by
  have hcodes : codes k.toNat = [k.toNat] := by
    rw [codes, if_neg (by omega), if_neg (by omega)]
  rw [fold_eq_iff hk, hcodes, List.mem_singleton, Char.toNat_inj]

theorem Spells.length_eq (h : Spells k w) : w.length = k.toList.length := by
  rw [← h, List.length_map]

/-- Two spellings of one keyword are equally long, so what comes after them is the same. -/
theorem Spells.append_inj (h : Spells k w) (h' : Spells k w') (heq : w ++ x = w' ++ y) :
    w = w' ∧ x = y :=
  List.append_inj heq (h.length_eq.trans h'.length_eq.symm)

theorem Spells.exists_cons_space (h : Spells k w) (hk : k.toList.head? = some ' ') :
    ∃ rest, w = ' ' :: rest := by
  cases w with
  | nil => rw [← h] at hk; cases hk
  | cons c rest =>
    rw [← h, List.map_cons, List.head?_cons, Option.some.injEq,
      fold_eq_iff_of_lt (by decide) (by decide)] at hk
    exact ⟨rest, congrArg (· :: rest) hk⟩

/-- A numeral ends where the digits end. -/
theorem IsNumeral.append_inj (h : IsNumeral d) (h' : IsNumeral d')
    (heq : d ++ ' ' :: rest = d' ++ ' ' :: rest') : d = d' ∧ rest = rest' := by
  have htake {d : List Char} (h : IsNumeral d) (rest : List Char) :
      (d ++ ' ' :: rest).takeWhile Char.isDigit = d := by
    rw [List.takeWhile_append_of_pos h.2, List.takeWhile_cons_of_neg (by decide), List.append_nil]
  have hd : d = d' := by rw [← htake h rest, heq, htake h']
  subst hd
  exact ⟨rfl, (List.cons.inj (List.append_cancel_left heq)).2⟩

theorem RangeText.unique {low high low' high' : List Char} (h : RangeText u low high)
    (h' : RangeText u low' high') : low = low' ∧ high = high' := by
  obtain ⟨w, t, e, hw, hlow, ht, hhigh, he, rfl⟩ := h
  obtain ⟨w', t', e', hw', hlow', ht', hhigh', he', heq⟩ := h'
  obtain ⟨-, heq⟩ := hw.append_inj hw' heq
  obtain ⟨t, rfl⟩ := ht.exists_cons_space rfl
  obtain ⟨t', rfl⟩ := ht'.exists_cons_space rfl
  obtain ⟨e, rfl⟩ := he.exists_cons_space rfl
  obtain ⟨e', rfl⟩ := he'.exists_cons_space rfl
  obtain ⟨hlows, heq⟩ := hlow.append_inj hlow' heq
  obtain ⟨-, heq⟩ := ht.append_inj ht' (congrArg (' ' :: ·) heq)
  exact ⟨hlows, (hhigh.append_inj hhigh' heq).1⟩

theorem NumberText.unique {front back : String} {n n' : List Char}
    (hback : back.toList.head? = some ' ') (h : NumberText front back u n)
    (h' : NumberText front back u n') : n = n' := by
  obtain ⟨w, e, hw, hn, he, rfl⟩ := h
  obtain ⟨w', e', hw', hn', he', heq⟩ := h'
  obtain ⟨-, heq⟩ := hw.append_inj hw' heq
  obtain ⟨e, rfl⟩ := he.exists_cons_space hback
  obtain ⟨e', rfl⟩ := he'.exists_cons_space hback
  exact (hn.append_inj hn' heq).1

/-- Whether the word that may come first is there shows in the first letter. -/
theorem length_eq_of_inline {a a' : List Char} (ha : a = [] ∨ Spells "and " a)
    (ha' : a' = [] ∨ Spells "and " a') (hw : Spells "matches /" w) (hw' : Spells "matches /" w')
    (heq : a ++ (w ++ x) = a' ++ (w' ++ y)) : a.length = a'.length := by
  have hhead : ((a ++ (w ++ x)).map fold).head? = ((a' ++ (w' ++ y)).map fold).head? := by
    rw [heq]
  simp only [List.map_append] at hhead
  rw [hw, hw'] at hhead
  rcases ha with rfl | ha <;> rcases ha' with rfl | ha'
  · rfl
  · rw [ha'] at hhead
    cases hhead
  · rw [ha] at hhead
    cases hhead
  · rw [ha.length_eq, ha'.length_eq]

theorem InlineText.unique {source source' : List Char} {letter letter' : Char}
    (h : InlineText u source letter) (h' : InlineText u source' letter') :
    source = source' ∧ letter = letter' := by
  obtain ⟨a, w, ha, hw, -, -, -, rfl⟩ := h
  obtain ⟨a', w', ha', hw', -, -, -, heq⟩ := h'
  obtain ⟨-, heq⟩ := List.append_inj heq (length_eq_of_inline ha ha' hw hw' heq)
  obtain ⟨-, heq⟩ := hw.append_inj hw' heq
  obtain ⟨hsource, hletter⟩ := List.append_inj' heq rfl
  simp only [List.cons.injEq, and_true, true_and] at hletter
  exact ⟨hsource, hletter⟩

/-- A text is what comes after the last space of another one, and is not empty. -/
structure FollowsLastSpace (u operand : List Char) : Prop where
  ne_nil : operand ≠ []
  space_not_mem : ' ' ∉ operand
  exists_before : ∃ before, u = before ++ ' ' :: operand

theorem afterLastSpace_append (before : List Char) {operand : List Char} (h : ' ' ∉ operand) :
    Clause.afterLastSpace (String.ofList (before ++ ' ' :: operand)) = String.ofList operand := by
  have hall : ∀ c ∈ operand.reverse, (c != ' ') = true := by
    intro c hc
    rw [bne_iff_ne]
    rintro rfl
    exact h (List.mem_reverse.mp hc)
  rw [Clause.afterLastSpace, String.toList_ofList, List.reverse_append, List.reverse_cons,
    List.append_assoc, List.takeWhile_append_of_pos hall, List.singleton_append,
    List.takeWhile_cons_of_neg (by decide), List.append_nil, List.reverse_reverse]

/-- A text that has a space but does not end with one has a last space with something after it. -/
theorem exists_followsLastSpace (hmem : ' ' ∈ u) (hlast : u.getLast? ≠ some ' ') :
    ∃ operand, FollowsLastSpace u operand := by
  obtain ⟨after, before, hu, hafter⟩ := List.eq_append_cons_of_mem (List.mem_reverse.mpr hmem)
  have hsplit : u = before.reverse ++ ' ' :: after.reverse := by
    rw [← List.reverse_reverse u, hu]
    simp
  refine ⟨after.reverse, ?_, by simpa using hafter, before.reverse, hsplit⟩
  intro hnil
  rw [hsplit, hnil] at hlast
  simp at hlast

theorem followsLastSpace_iff {front operand : String} (hfront : ' ' ∈ front.toList)
    (h : ComparisonText front u) (hu : Blank.Trimmed u) :
    FollowsLastSpace u operand.toList ↔ Clause.afterLastSpace (String.ofList u) = operand := by
  have hfollows {cs : List Char} (h : FollowsLastSpace u cs) :
      Clause.afterLastSpace (String.ofList u) = String.ofList cs := by
    obtain ⟨before, rfl⟩ := h.exists_before
    exact afterLastSpace_append before h.space_not_mem
  have hspace : ' ' ∈ u := by
    obtain ⟨w, d, rest, hw, -, rfl⟩ := h
    rw [← hw, List.mem_map] at hfront
    obtain ⟨c, hc, hfold⟩ := hfront
    obtain rfl := (fold_eq_iff_of_lt (by decide) (by decide)).mp hfold
    exact List.mem_append_left _ hc
  constructor
  · intro h
    rw [hfollows h, String.ofList_toList]
  · rintro rfl
    obtain ⟨cs, hcs⟩ := exists_followsLastSpace hspace fun hlast => by
      cases hu.last ' ' hlast
    rw [hfollows hcs, String.toList_ofList]
    exact hcs

end Grammar

end Clausal
