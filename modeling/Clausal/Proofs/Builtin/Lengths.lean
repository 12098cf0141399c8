import Clausal.Proofs.Validator.AnyValue

/-!
# Lengths and the numbers of clauses

The numerals of a clause about lengths may be longer than any number that a clause keeps, so the
bounds that are read are *saturated*.  That never shows: a length that is less than the greatest
bound compares with a saturated bound as it does with the number itself (`saturated_le_iff`,
`le_saturated_iff`).  So a clause about lengths demands what its numerals say in decimal
(`Validator.lengthClauses_demand`).

## Main definitions

- `Value.HasLength`: the length of a text or of an array
- `Validator.DemandsLength`: a clause accepts the values whose length has a property, and no others
-/

namespace Clausal

/-- The length of a text is the number of its characters, that of an array the number of its
elements. -/
inductive Value.HasLength : Value → Nat → Prop where
  | string (text : String) : HasLength (.string text) text.length
  | array (items : List Value) : HasLength (.array items) items.length

theorem Value.length?_eq_some_iff {v : Value} {n : Nat} : v.length? = some n ↔ v.HasLength n := by
  constructor
  · intro h
    cases v with
    | string text =>
      cases h
      exact .string text
    | array items =>
      cases h
      exact .array items
    | _ => cases h
  · intro h
    cases h with
    | string text => rfl
    | array items => rfl

theorem Value.isVoid_eq_false_iff {v : Value} : v.isVoid = false ↔ v ≠ .void := by
  cases v <;> simp [isVoid]

section Saturation

variable {cs : List Char} {n : Nat} (hn : n < 2 ^ 64 - 1)

include hn

theorem saturated_le_iff : saturated cs ≤ n ↔ decimal cs ≤ n := by
  rw [saturated]
  omega

theorem le_saturated_iff : n ≤ saturated cs ↔ n ≤ decimal cs := by
  rw [saturated]
  omega

end Saturation

namespace Grammar

variable {u w d : List Char} {x c : Char} {k front back : String}

theorem fold_eq_self_of_isBlank (h : isBlank c = true) : fold c = c := by
  rw [← Char.toNat_inj, toNat_fold]
  simp only [isBlank, Bool.or_eq_true, Bool.and_eq_true, decide_eq_true_eq] at h
  split_ifs <;> omega

theorem mem_map_fold (hx : fold x = x) (h : x ∈ u) : x ∈ u.map fold := by
  rw [← hx]
  exact List.mem_map_of_mem h

/-- Blanks stay blanks in either letter case, so a text has some at an end if its folded form
does. -/
theorem trimmed_of_map_fold (h : Blank.Trimmed (u.map fold)) : Blank.Trimmed u := by
  have hself {c : Char} (hc : isBlank c ≠ false) : fold c = c :=
    fold_eq_self_of_isBlank (Bool.not_eq_false _ ▸ hc)
  constructor
  · intro c hc
    by_contra hblank
    have hhead : (u.map fold).head? = some (fold c) := by rw [List.head?_map, hc]; rfl
    rw [hself hblank] at hhead
    exact hblank (h.head c hhead)
  · intro c hc
    by_contra hblank
    have hlast : (u.map fold).getLast? = some (fold c) := by rw [List.getLast?_map, hc]; rfl
    rw [hself hblank] at hlast
    exact hblank (h.last c hlast)

/-- A text that can be a modifier as it stands: it has no blanks at its ends, no comma, and no
token for a class. -/
structure IsModifierText (u : List Char) : Prop where
  trimmed : Blank.Trimmed u
  comma_not_mem : ',' ∉ u
  brace_not_mem : '\x7b' ∉ u

/-- Keywords and numerals make a modifier if the first keyword begins with `w` and the last one ends
with `s`. -/
theorem isModifierText_of_map_fold (inner : List Char) (h : u.map fold = 'w' :: (inner ++ ['s']))
    (hinner : ∀ x ∈ inner, x ∈ keywordChars ∨ x.isDigit = true) : IsModifierText u := by
  have hsplit : u.map fold = ('w' :: inner) ++ ['s'] := h
  have hkeyword {x : Char} (hx : fold x = x) (hchar : x ∉ keywordChars)
      (hdigit : x.isDigit = false) : x ∉ u := by
    intro hmem
    have hfold := mem_map_fold hx hmem
    rw [h, List.mem_cons, List.mem_append, List.mem_singleton] at hfold
    rcases hfold with rfl | hfold | rfl
    · exact hchar (by decide)
    · rcases hinner x hfold with h' | h'
      · exact hchar h'
      · rw [hdigit] at h'
        cases h'
    · exact hchar (by decide)
  refine ⟨trimmed_of_map_fold ⟨?_, ?_⟩, ?_, ?_⟩
  · intro c hc
    rw [h] at hc
    cases hc
    decide
  · intro c hc
    rw [hsplit, List.getLast?_append] at hc
    cases hc
    decide
  · exact hkeyword (by decide) (by decide) (by decide)
  · exact hkeyword (by decide) (by decide) (by decide)

theorem RangeText.isModifierText {low high : List Char} (h : RangeText u low high) :
    IsModifierText u := by
  obtain ⟨w, t, c, hw, hlow, ht, hhigh, hc, rfl⟩ := h
  apply isModifierText_of_map_fold
    ("ith ".toList ++ (low ++ (" to ".toList ++ (high ++ " character".toList))))
  · rw [List.map_append, List.map_append, List.map_append, List.map_append,
      Shape.map_fold_of_isNumeral hlow, Shape.map_fold_of_isNumeral hhigh, hw, ht, hc]
    simp
  · intro x hx
    simp only [List.mem_append] at hx
    rcases hx with hx | hx | hx | hx | hx
    · exact .inl ((by decide : "ith ".toList ⊆ keywordChars) hx)
    · exact .inr (hlow.2 x hx)
    · exact .inl ((by decide : " to ".toList ⊆ keywordChars) hx)
    · exact .inr (hhigh.2 x hx)
    · exact .inl ((by decide : " character".toList ⊆ keywordChars) hx)

theorem NumberText.isModifierText (first last : List Char) (h : NumberText front back u d)
    (hfront : front.toList = 'w' :: first) (hback : back.toList = last ++ ['s'])
    (hfirst : first ⊆ keywordChars) (hlast : last ⊆ keywordChars) :
    IsModifierText u := by
  obtain ⟨w, c, hw, hd, hc, rfl⟩ := h
  apply isModifierText_of_map_fold (first ++ (d ++ last))
  · rw [List.map_append, List.map_append, Shape.map_fold_of_isNumeral hd, hw, hc, hfront, hback]
    simp
  · intro x hx
    simp only [List.mem_append] at hx
    rcases hx with hx | hx | hx
    · exact .inl (hfirst hx)
    · exact .inr (hd.2 x hx)
    · exact .inl (hlast hx)

end Grammar

namespace Validator

open Grammar

variable {v : Validator} {config : Config} {bound : UpToBound} {s : Shape} {u : String}
  {kind : ClauseKind} {low high : List Char}

/-- A clause about lengths accepts the values whose length has a property.  Every other value that
was supplied breaks it: those with other lengths, and those without any.  Lengths that reach the
greatest bound of a clause are left aside. -/
def DemandsLength (v : Validator) (u : String) (P : Nat → Prop) : Prop :=
  ∀ name value, value ≠ .void → (∀ n, value.HasLength n → n < 2 ^ 64 - 1) →
    (v.validate ⟨name, value⟩ ("any value, " ++ u) = .ok () ↔ ∃ n, value.HasLength n ∧ P n) ∧
    ((¬ ∃ n, value.HasLength n ∧ P n) →
      v.validate ⟨name, value⟩ ("any value, " ++ u) = .error (.validation name ["any value", u]))

theorem validate_anyValue_of_denotes {name : String} {value : Value} (hv : ofConfig config = .ok v)
    (hu : IsModifierText u.toList) (hkind : Clause.Denotes u.toList kind)
    (hsupplied : value ≠ .void) : v.validate ⟨name, value⟩ ("any value, " ++ u) =
      (v.checkModifiers value [⟨u, kind⟩]).1.outcome name ["any value", u] := by
  have htrim : trim u = u := trim_eq_self_iff.mpr hu.trimmed
  have hparse : Clause.parse u = .ok ⟨u, kind⟩ := by
    have hread : Clause.parse u = .ok ⟨trim u, kind⟩ :=
      Clause.parse_eq_ok_iff.mpr (.inl (by rwa [htrim]))
    rwa [htrim] at hread
  rw [validate_anyValue (resolve?_anyValue hv) hu.comma_not_mem
    (RuleDefinition.placeholder_not_mem_words hu.brace_not_mem) hparse
    (Value.isVoid_eq_false_iff.mpr hsupplied), htrim]

/-- A clause whose built-in rule tests the length demands what the test says. -/
theorem demandsLength_of_test {test : Nat → Bool} {P : Nat → Prop} (hv : ofConfig config = .ok v)
    (hbound : Builtin.configuredBound config = .ok bound)
    (henabled : config.isEnabled (s.rule bound).name = true) (htext : s.IsText u.toList)
    (hu : IsModifierText u.toList) (hkind : Clause.Denotes u.toList kind)
    (htest : s.test? bound kind = some fun value => value.length?.any test)
    (hP : ∀ n < 2 ^ 64 - 1, (test n = true ↔ P n)) : v.DemandsLength u P := by
  intro name value hsupplied hshort
  have hdecide : (v.decideModifier value ⟨u, kind⟩).1 = some (value.length?.any test) := by
    have hrule := fst_decideModifier_of_isText (c := ⟨u, kind⟩) value hv hbound htext
    rw [hrule, if_pos henabled, Shape.evaluate_rule, htest]
    rfl
  have hvalidate : v.validate ⟨name, value⟩ ("any value, " ++ u) =
      if value.length?.any test then .ok () else .error (.validation name ["any value", u]) := by
    rw [validate_anyValue_of_denotes hv hu hkind hsupplied, fst_checkModifiers_singleton hdecide]
    cases value.length?.any test <;> rfl
  have hpass : value.length?.any test = true ↔ ∃ n, value.HasLength n ∧ P n := by
    constructor
    · intro h
      obtain ⟨n, hlength, hn⟩ := (Option.any_eq_true _ _).mp h
      have hlength := Value.length?_eq_some_iff.mp hlength
      exact ⟨n, hlength, (hP n (hshort n hlength)).mp hn⟩
    · rintro ⟨n, hlength, hn⟩
      rw [Value.length?_eq_some_iff.mpr hlength]
      exact (hP n (hshort n hlength)).mpr hn
  rw [hvalidate, ← hpass]
  constructor
  · cases value.length?.any test <;> simp
  · intro h
    rw [if_neg h]

theorem demandsLength_range (h : RangeText u.toList low high) :
    standard.DemandsLength u fun n => decimal low ≤ n ∧ n ≤ decimal high := by
  have hkind := Clause.denotes_range_iff.mpr ⟨low, high, h, rfl, rfl⟩
  refine demandsLength_of_test (s := .range) ofConfig_empty rfl rfl ⟨low, high, h⟩
    h.isModifierText hkind rfl ?_
  intro n hn
  rw [Bool.and_eq_true, decide_eq_true_iff, decide_eq_true_iff, saturated_le_iff hn,
    le_saturated_iff hn]

theorem demandsLength_atLeast (h : NumberText "with " " or more characters" u.toList low) :
    standard.DemandsLength u fun n => decimal low ≤ n := by
  have hkind := Clause.denotes_atLeast_iff.mpr ⟨low, h, rfl⟩
  have hu : IsModifierText u.toList :=
    h.isModifierText "ith ".toList " or more character".toList rfl rfl
      (by decide) (by decide)
  refine demandsLength_of_test (s := .atLeast) ofConfig_empty rfl rfl ⟨low, h⟩ hu hkind rfl ?_
  intro n hn
  rw [decide_eq_true_iff, saturated_le_iff hn]

/-- What an "up to" clause demands is up to the bound that the configuration chooses. -/
theorem demandsLength_upTo (hv : ofConfig config = .ok v)
    (hbound : Builtin.configuredBound config = .ok bound)
    (henabled : config.isEnabled "length-up-to" = true)
    (h : NumberText "with up to " " characters" u.toList high) :
    v.DemandsLength u fun n =>
      match bound with
      | .atLeast => decimal high ≤ n
      | .atMost => n ≤ decimal high := by
  have hkind := Clause.denotes_upTo_iff.mpr ⟨high, h, rfl⟩
  have hu : IsModifierText u.toList :=
    h.isModifierText "ith up to ".toList " character".toList rfl rfl
      (by decide) (by decide)
  refine demandsLength_of_test (s := .upTo) hv hbound henabled ⟨high, h⟩ hu hkind rfl ?_
  intro n hn
  cases bound with
  | atLeast => exact decide_eq_true_iff.trans (saturated_le_iff hn)
  | atMost => exact decide_eq_true_iff.trans (le_saturated_iff hn)

/-- An "up to" clause is unknown where its rule is disabled. -/
theorem validate_upTo_of_disabled {name : String} {value : Value} (hv : ofConfig config = .ok v)
    (hbound : Builtin.configuredBound config = .ok bound)
    (hdisabled : config.isEnabled "length-up-to" = false)
    (h : NumberText "with up to " " characters" u.toList high) (hsupplied : value ≠ .void) :
    v.validate ⟨name, value⟩ ("any value, " ++ u) = .error (.format name (.unknownModifier u)) := by
  have hkind := Clause.denotes_upTo_iff.mpr ⟨high, h, rfl⟩
  have hu : IsModifierText u.toList :=
    h.isModifierText "ith up to ".toList " character".toList rfl rfl
      (by decide) (by decide)
  have hdecide := fst_decideModifier_of_isText (s := .upTo)
    (c := ⟨u, .bound none (some (saturated high))⟩) value hv hbound ⟨high, h⟩
  rw [if_neg (by rw [Shape.name_rule .upTo bound .atLeast]; exact Bool.eq_false_iff.mp hdisabled)]
    at hdecide
  rw [validate_anyValue_of_denotes hv hu hkind hsupplied]
  simp only [checkModifiers, hdecide]
  rfl

theorem exists_ofConfig_of_boundOption? (h : config.boundOption? = some "at-most") :
    Builtin.configuredBound config = .ok .atMost ∧ ∃ v, ofConfig config = .ok v := by
  have hbound : Builtin.configuredBound config = .ok .atMost := by
    rw [Builtin.configuredBound_eq, h]
    rfl
  exact ⟨hbound, _, ofConfig_eq_ok_iff.mpr ⟨.atMost, hbound, rfl⟩⟩

/-- Clauses about lengths agree with the numbers that their numerals denote in decimal, however many
digits they have.  Under the standard validator a range demands a length between its two numbers,
and the other two clauses one that reaches their number.  Under a configuration that bounds lengths
from above and does not disable the rule, an "up to" clause demands a length that does not exceed
its number, and then a range demands what the two other clauses demand together; if it disables the
rule, an "up to" clause is unknown.  A range whose second number is less than the first accepts
nothing that was supplied. -/
theorem lengthClauses_demand :
    (∀ u low high, RangeText u.toList low high →
      standard.DemandsLength u fun n => decimal low ≤ n ∧ n ≤ decimal high) ∧
    (∀ u low, NumberText "with " " or more characters" u.toList low →
      standard.DemandsLength u fun n => decimal low ≤ n) ∧
    (∀ u high, NumberText "with up to " " characters" u.toList high →
      standard.DemandsLength u fun n => decimal high ≤ n) ∧
    (∀ config, config.boundOption? = some "at-most" → config.isEnabled "length-up-to" = true →
      ∃ v, ofConfig config = .ok v ∧
        (∀ u high, NumberText "with up to " " characters" u.toList high →
          v.DemandsLength u fun n => n ≤ decimal high) ∧
        ∀ u u₁ u₂ low high, RangeText u.toList low high →
          NumberText "with " " or more characters" u₁.toList low →
          NumberText "with up to " " characters" u₂.toList high →
          ∀ name value, value ≠ .void → (∀ n, value.HasLength n → n < 2 ^ 64 - 1) →
            (standard.validate ⟨name, value⟩ ("any value, " ++ u) = .ok () ↔
              standard.validate ⟨name, value⟩ ("any value, " ++ u₁) = .ok () ∧
                v.validate ⟨name, value⟩ ("any value, " ++ u₂) = .ok ())) ∧
    (∀ config, config.boundOption? = some "at-most" → config.isEnabled "length-up-to" = false →
      ∃ v, ofConfig config = .ok v ∧
        ∀ u high, NumberText "with up to " " characters" u.toList high →
          ∀ name value, value ≠ .void → v.validate ⟨name, value⟩ ("any value, " ++ u) =
            .error (.format name (.unknownModifier u))) ∧
    ∀ u low high, RangeText u.toList low high → decimal high < decimal low →
      standard.DemandsLength u fun _ => False := by
  refine ⟨fun u low high h => demandsLength_range h, fun u low h => demandsLength_atLeast h,
    fun u high h => demandsLength_upTo ofConfig_empty rfl rfl h, ?_, ?_, ?_⟩
  · intro config hoption henabled
    obtain ⟨hbound, v, hv⟩ := exists_ofConfig_of_boundOption? hoption
    have hupTo (u : String) (high : List Char)
        (h : NumberText "with up to " " characters" u.toList high) :
        v.DemandsLength u fun n => n ≤ decimal high :=
      demandsLength_upTo hv hbound henabled h
    refine ⟨v, hv, hupTo, ?_⟩
    intro u u₁ u₂ low high h h₁ h₂ name value hsupplied hshort
    rw [(demandsLength_range h name value hsupplied hshort).1,
      (demandsLength_atLeast h₁ name value hsupplied hshort).1,
      (hupTo u₂ high h₂ name value hsupplied hshort).1]
    constructor
    · rintro ⟨n, hlength, hlow, hhigh⟩
      exact ⟨⟨n, hlength, hlow⟩, n, hlength, hhigh⟩
    · rintro ⟨⟨n, hlength, hlow⟩, m, hlength', hhigh⟩
      -- A value has one length.
      have hsome : value.length? = some n := Value.length?_eq_some_iff.mpr hlength
      have hsome' : value.length? = some m := Value.length?_eq_some_iff.mpr hlength'
      obtain rfl : n = m := Option.some.inj (hsome.symm.trans hsome')
      exact ⟨n, hlength, hlow, hhigh⟩
  · intro config hoption hdisabled
    obtain ⟨hbound, v, hv⟩ := exists_ofConfig_of_boundOption? hoption
    refine ⟨v, hv, ?_⟩
    intro u high h name value hsupplied
    exact validate_upTo_of_disabled hv hbound hdisabled h hsupplied
  · intro u low high h hinverted name value hsupplied hshort
    have hnone : ¬ ∃ n, value.HasLength n ∧ decimal low ≤ n ∧ n ≤ decimal high := by
      rintro ⟨n, -, hlow, hhigh⟩
      omega
    obtain ⟨hiff, hbroken⟩ := demandsLength_range h name value hsupplied hshort
    refine ⟨?_, fun _ => hbroken hnone⟩
    rw [hiff]
    exact iff_of_false hnone fun ⟨_, _, hfalse⟩ => hfalse

/-- The settings that bound lengths from above. -/
def boundingFromAbove (enabled : Option Bool) : Config :=
  ⟨.sensitive, [("length-up-to", ⟨enabled, [("bound", .string "at-most")]⟩)]⟩

/-- A number beyond all bounds is too long for a text of two characters, and caps it. -/
theorem lengthClauses_demand_beyond : ∃ v, ofConfig (boundingFromAbove none) = .ok v ∧
    standard.validate ⟨"x", .string "ab"⟩
        "any value, WITH 018446744073709551616 or more characterS" =
      .error (.validation "x" ["any value", "WITH 018446744073709551616 or more characterS"]) ∧
    v.validate ⟨"x", .string "ab"⟩ "any value, with up to 18446744073709551616 characters" =
      .ok () := by
  obtain ⟨-, hatLeast, -, hatMost, -⟩ := lengthClauses_demand
  obtain ⟨v, hv, hupTo, -⟩ := hatMost (boundingFromAbove none) rfl rfl
  have hshort (n : Nat) (h : (Value.string "ab").HasLength n) : n < 2 ^ 64 - 1 := by
    cases h
    decide
  have hmore : NumberText "with " " or more characters"
      "WITH 018446744073709551616 or more characterS".toList "018446744073709551616".toList :=
    ⟨"WITH ".toList, " or more characterS".toList, by decide,
      ⟨by decide, List.all_eq_true.mp (by decide)⟩, by decide, rfl⟩
  have hcap : NumberText "with up to " " characters"
      "with up to 18446744073709551616 characters".toList "18446744073709551616".toList :=
    ⟨"with up to ".toList, " characters".toList, by decide,
      ⟨by decide, List.all_eq_true.mp (by decide)⟩, by decide, rfl⟩
  refine ⟨v, hv, (hatLeast _ _ hmore "x" (.string "ab") nofun hshort).2 ?_,
    (hupTo _ _ hcap "x" (.string "ab") nofun hshort).1.mpr ⟨2, .string "ab", ?_⟩⟩
  · rintro ⟨n, hn, hle⟩
    cases hn
    exact absurd hle (by decide +kernel)
  · decide +kernel

/-- A configuration that bounds lengths from above may disable the rule all the same; then an "up
to" clause is unknown, also for lengths that do not exceed its number. -/
theorem upTo_unknown_of_disabled :
    (boundingFromAbove (some false)).boundOption? = some "at-most" ∧
      NumberText "with up to " " characters" "with up to 3 characters".toList ['3'] ∧
      (Value.string "ab").HasLength 2 ∧ 2 ≤ decimal ['3'] ∧
      ∃ v, ofConfig (boundingFromAbove (some false)) = .ok v ∧
        v.validate ⟨"x", .string "ab"⟩ "any value, with up to 3 characters" =
          .error (.format "x" (.unknownModifier "with up to 3 characters")) := by
  have htext : NumberText "with up to " " characters" "with up to 3 characters".toList ['3'] :=
    ⟨"with up to ".toList, " characters".toList, by decide,
      ⟨by decide, List.all_eq_true.mp (by decide)⟩, by decide, rfl⟩
  obtain ⟨v, hv⟩ : ∃ v, ofConfig (boundingFromAbove (some false)) = .ok v := ⟨_, rfl⟩
  have hrule : "any value, with up to 3 characters" =
      "any value, " ++ "with up to 3 characters" := rfl
  refine ⟨rfl, htext, .string "ab", by decide +kernel, v, hv, ?_⟩
  rw [hrule]
  exact validate_upTo_of_disabled hv rfl rfl htext nofun

end Validator

end Clausal
