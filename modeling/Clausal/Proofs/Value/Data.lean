import Clausal.Command.Run
import Clausal.Proofs.PatternRule.Entry
import Clausal.Proofs.Validator.Stages
import Clausal.Proofs.Value.PartialEquivalence

/-!
# The values of data

A configuration writes its data as TOML, an argument as JSON.  Where the two write the same data,
their values are equal (`Value.ofToml_beq_ofJson`); so the data of a configuration can be given on
the command line.  And no value of data is void: an argument is never taken for a parameter that
was not supplied.

## Main definitions

- `Toml.Value.IsPlain`: TOML data that JSON can write
- `SameData`: TOML data and JSON data that are the same
- `Value.IsData`: nothing in a value is void or a reference
-/

namespace Clausal

/-- No dates and times, and only finite numbers. -/
inductive Toml.Value.IsPlain : Toml.Value → Prop
  | string (text : String) : IsPlain (.string text)
  | integer (n : Int) : IsPlain (.integer n)
  | float {x : Double} (h : x.isFinite = true) : IsPlain (.float x)
  | boolean (b : Bool) : IsPlain (.boolean b)
  | array {items : List Toml.Value} (h : ∀ t ∈ items, IsPlain t) : IsPlain (.array items)
  | table {entries : List (String × Toml.Value)} (h : ∀ e ∈ entries, IsPlain e.2) :
      IsPlain (.table entries)

/-- TOML data and JSON data are the same.  Under a key of a table, as under one of an object, is
what the last entry with that key has; the order of the keys does not count. -/
inductive SameData : Toml.Value → Json.Value → Prop
  | string (text : String) : SameData (.string text) (.string text)
  | integer (n : Int) : SameData (.integer n) (.number (.integer n))
  | float {x : Double} (h : x.isFinite = true) : SameData (.float x) (.number (.float x))
  | boolean (b : Bool) : SameData (.boolean b) (.boolean b)
  | array {ts : List Toml.Value} {js : List Json.Value} (length : ts.length = js.length)
      (items : ∀ (i : Nat) t j, ts[i]? = some t → js[i]? = some j → SameData t j) :
      SameData (.array ts) (.array js)
  | table {ts : List (String × Toml.Value)} {js : List (String × Json.Value)}
      (keys : ∀ key, (ts.reverse.lookup key).isSome = (js.reverse.lookup key).isSome)
      (values : ∀ key t j, ts.reverse.lookup key = some t → js.reverse.lookup key = some j →
        SameData t j) :
      SameData (.table ts) (.object js)

theorem lookup_map_value {α β : Type} (g : String × α → β) (entries : List (String × α))
    (key : String) :
    (entries.map fun e => (e.1, g e)).lookup key =
      (entries.lookup key).map fun a => g (key, a) := by
  induction entries with
  | nil => rfl
  | cons e entries ih =>
    obtain ⟨k, a⟩ := e
    rw [List.map_cons, Value.lookup_cons_eq_ite, Value.lookup_cons_eq_ite, ih]
    by_cases hkey : key = k
    · rw [if_pos hkey, if_pos hkey, hkey]
      rfl
    · rw [if_neg hkey, if_neg hkey]

/-- All data that JSON can write, it does write. -/
theorem Toml.Value.IsPlain.exists_sameData {t : Toml.Value} (h : t.IsPlain) :
    ∃ j, SameData t j := by
  have hnonempty : Nonempty Json.Value := ⟨.null⟩
  induction h with
  | string text => exact ⟨_, .string text⟩
  | integer n => exact ⟨_, .integer n⟩
  | float h => exact ⟨_, .float h⟩
  | boolean b => exact ⟨_, .boolean b⟩
  | @array items _ ih =>
    choose! f hf using ih
    refine ⟨.array (items.map f), .array (by rw [List.length_map]) fun i t j ht hj => ?_⟩
    rw [List.getElem?_map, ht] at hj
    cases hj
    exact hf t (List.mem_of_getElem? ht)
  | @table entries _ ih =>
    choose! f hf using ih
    have hlookup : ∀ key, (entries.map fun e => (e.1, f e)).reverse.lookup key =
        (entries.reverse.lookup key).map fun t => f (key, t) := by
      intro key
      rw [← List.map_reverse, lookup_map_value]
    refine ⟨.object (entries.map fun e => (e.1, f e)), .table (fun key => ?_) ?_⟩
    · rw [hlookup, Option.isSome_map]
    · intro key t j ht hj
      rw [hlookup, ht] at hj
      cases hj
      exact hf (key, t) (List.mem_reverse.mp (Value.mem_of_lookup_eq_some ht))

theorem Double.isNaN_ofInt (n : Int) : (Double.ofInt n).isNaN = false := by
  have hle : (Double.ofInt n).code ≤ BinaryFormat.double.infinityCode := Nat.min_le_right _ _
  simpa [isNaN] using hle

namespace Value

variable {t : Toml.Value} {j : Json.Value} {v : Value} {items : List Value}
  {entries : List (String × Value)}

theorem ofTomlFields_eq_map (entries : List (String × Toml.Value)) :
    ofTomlFields entries = entries.map fun e => (e.1, ofToml e.2) := by
  induction entries with
  | nil => rfl
  | cons e entries ih => rw [ofTomlFields, ih, List.map_cons]

theorem ofJsonItems_eq_map (items : List Json.Value) : ofJsonItems items = items.map ofJson := by
  induction items with
  | nil => rfl
  | cons x items ih => rw [ofJsonItems, ih, List.map_cons]

theorem ofJsonFields_eq_map (fields : List (String × Json.Value)) :
    ofJsonFields fields = fields.map fun e => (e.1, ofJson e.2) := by
  induction fields with
  | nil => rfl
  | cons e fields ih => rw [ofJsonFields, ih, List.map_cons]

theorem lookup_ofEntries_map {α : Type} (g : α → Value) (entries : List (String × α))
    (key : String) : (Fields.ofEntries (entries.map fun e => (e.1, g e.2))).entries.lookup key =
      (entries.reverse.lookup key).map g := by
  rw [Fields.lookup_ofEntries, ← List.map_reverse, lookup_map_value]

theorem number_beq_self {x : Double} (h : x.isNaN = false) : (number x == number x) = true :=
  beq_iff_equal.mpr (.number (Double.beq_eq_true_iff.mpr ⟨h, h, rfl⟩))

theorem ofToml_beq_ofJson (h : SameData t j) : (ofToml t == ofJson j) = true := by
  induction h with
  | string text => exact beq_iff_equal.mpr (.string text)
  | integer n => exact number_beq_self (Double.isNaN_ofInt n)
  | float h => exact number_beq_self (Double.isNaN_of_isFinite h)
  | boolean b => exact beq_iff_equal.mpr (.boolean b)
  | array length _ ih =>
    rw [ofToml, ofJson, ofTomlItems_eq_map, ofJsonItems_eq_map, array_beq_array_iff,
      List.length_map, List.length_map]
    refine ⟨length, fun i x y hx hy => ?_⟩
    rw [List.getElem?_map] at hx hy
    obtain ⟨t, ht, rfl⟩ := Option.map_eq_some_iff.mp hx
    obtain ⟨j, hj, rfl⟩ := Option.map_eq_some_iff.mp hy
    exact ih i t j ht hj
  | table keys _ ih =>
    -- Both objects are made of entries, the last of which counts under each key.
    rw [ofToml, ofJson, ofTomlFields_eq_map, ofJsonFields_eq_map, ofFields, ofFields,
      Fields.toValue_beq_toValue_iff]
    constructor
    · intro key
      rw [lookup_ofEntries_map, lookup_ofEntries_map, Option.isSome_map, Option.isSome_map]
      exact keys key
    · intro key x y hx hy
      rw [lookup_ofEntries_map] at hx hy
      obtain ⟨t, ht, rfl⟩ := Option.map_eq_some_iff.mp hx
      obtain ⟨j, hj, rfl⟩ := Option.map_eq_some_iff.mp hy
      exact ih key t j ht hj

/-- Nothing in a value is void, a function or an instance. -/
def IsData (v : Value) : Prop :=
  ∀ x, Occurs x v → x ≠ void ∧ (∀ f, x ≠ function f) ∧ ∀ i, x ≠ .instance i

theorem isData_of_parts (hvoid : v ≠ void) (hfunction : ∀ f, v ≠ function f)
    (hinstance : ∀ i, v ≠ .instance i) (hparts : ∀ x ∈ v.parts, IsData x) : IsData v := by
  intro x hx
  rcases occurs_iff.mp hx with rfl | ⟨y, hy, hoccurs⟩
  · exact ⟨hvoid, hfunction, hinstance⟩
  · exact hparts y hy x hoccurs

theorem isData_array (h : ∀ x ∈ items, IsData x) : IsData (array items) :=
  isData_of_parts nofun nofun nofun h

theorem isData_ofFields (h : ∀ e ∈ entries, IsData e.2) : IsData (ofFields entries) := by
  refine isData_of_parts nofun nofun nofun fun x hx => ?_
  obtain ⟨f, hf, rfl⟩ := List.mem_map.mp hx
  exact h f (Fields.mem_of_mem_ofEntries hf)

theorem IsData.isVoid_eq_false (h : IsData v) : v.isVoid = false := by
  cases v with
  | void => exact absurd rfl (h void .self).1
  | _ => rfl

mutual

theorem isData_ofToml : ∀ t : Toml.Value, IsData (ofToml t)
  | .string _ => isData_of_parts nofun nofun nofun nofun
  | .integer _ => isData_of_parts nofun nofun nofun nofun
  | .float _ => isData_of_parts nofun nofun nofun nofun
  | .boolean _ => isData_of_parts nofun nofun nofun nofun
  | .datetime _ => isData_of_parts nofun nofun nofun nofun
  | .array items => isData_array (isData_of_mem_ofTomlItems items)
  | .table entries => isData_ofFields (isData_of_mem_ofTomlFields entries)

theorem isData_of_mem_ofTomlItems : ∀ items : List Toml.Value, ∀ x ∈ ofTomlItems items, IsData x
  | [], _, hx => absurd hx List.not_mem_nil
  | t :: items, x, hx => by
    rcases List.mem_cons.mp hx with rfl | hx
    · exact isData_ofToml t
    · exact isData_of_mem_ofTomlItems items x hx

theorem isData_of_mem_ofTomlFields :
    ∀ entries : List (String × Toml.Value), ∀ e ∈ ofTomlFields entries, IsData e.2
  | [], _, he => absurd he List.not_mem_nil
  | (_, t) :: entries, e, he => by
    rcases List.mem_cons.mp he with rfl | he
    · exact isData_ofToml t
    · exact isData_of_mem_ofTomlFields entries e he

end

mutual

theorem isData_ofJson : ∀ j : Json.Value, IsData (ofJson j)
  | .null => isData_of_parts nofun nofun nofun nofun
  | .boolean _ => isData_of_parts nofun nofun nofun nofun
  | .number _ => isData_of_parts nofun nofun nofun nofun
  | .string _ => isData_of_parts nofun nofun nofun nofun
  | .array items => isData_array (isData_of_mem_ofJsonItems items)
  | .object fields => isData_ofFields (isData_of_mem_ofJsonFields fields)

theorem isData_of_mem_ofJsonItems : ∀ items : List Json.Value, ∀ x ∈ ofJsonItems items, IsData x
  | [], _, hx => absurd hx List.not_mem_nil
  | j :: items, x, hx => by
    rcases List.mem_cons.mp hx with rfl | hx
    · exact isData_ofJson j
    · exact isData_of_mem_ofJsonItems items x hx

theorem isData_of_mem_ofJsonFields :
    ∀ fields : List (String × Json.Value), ∀ e ∈ ofJsonFields fields, IsData e.2
  | [], _, he => absurd he List.not_mem_nil
  | (_, j) :: fields, e, he => by
    rcases List.mem_cons.mp he with rfl | he
    · exact isData_ofJson j
    · exact isData_of_mem_ofJsonFields fields e he

end

end Value

/-- An argument is never taken for a parameter that was not supplied. -/
theorem isVoid_of_argumentValue {text : String} {v : Value}
    (h : argumentValue (some text) = .ok v) : v.isVoid = false := by
  rw [argumentValue] at h
  split at h
  · cases h
    exact (Value.isData_ofJson _).isVoid_eq_false
  · cases h

/-- A rule that demands the data of a configuration holds for the same data. -/
theorem PatternEntry.check_holds_ofJson {e : PatternEntry} {position : Nat} {r : PatternRule}
    {t : Toml.Value} {j : Json.Value} (hr : e.toRule position = .ok r)
    (ht : e.equals = some t ∨ ∃ ts, e.oneOf = some ts ∧ t ∈ ts) (h : SameData t j) :
    r.check.holds (Value.ofJson j) = true := by
  obtain ⟨hvalid, hdescribes⟩ := toRule_eq_ok_iff.mp hr
  have hcheck : e.check "" = .ok r.check :=
    check_eq_ok_iff.mpr ⟨hvalid.check, hvalid.matching, hdescribes.check⟩
  have hbeq := Value.ofToml_beq_ofJson h
  rcases ht with ht | ⟨ts, hts, hmem⟩
  · obtain ⟨hvs, hsource⟩ := hvalid.check.others_of_equals ht
    rw [check_of_equals ht hvs hsource] at hcheck
    rw [← Except.ok.inj hcheck]
    exact Value.beq_symm hbeq
  · obtain ⟨hv, hsource⟩ := hvalid.check.others_of_oneOf hts
    rw [check_of_oneOf hv hts hsource] at hcheck
    rw [← Except.ok.inj hcheck]
    exact List.any_eq_true.mpr ⟨_, List.mem_map_of_mem hmem, hbeq⟩

theorem Validator.validate_eq_ok_iff {w : Validator} {p : Param} {rule : String}
    (hsupplied : p.value.isVoid = false) :
    w.validate p rule = .ok () ↔ ∃ r, w.resolveRule rule = .ok r ∧
      r.typeRule.test p.value = true ∧ ∀ c ∈ r.definition.modifiers, w.Passes p.value c := by
  rw [validate, check_eq]
  cases hr : w.resolveRule rule with
  | error reason => simp
  | ok r =>
    cases htest : r.typeRule.test p.value with
    | false => simp [checkValue_of_not_test htest, htest]
    | true =>
      simp only [checkValue_of_supplied htest hsupplied, ← checkModifiers_eq_passed_iff]
      cases hresult : (w.checkModifiers p.value r.definition.modifiers).1 with
      | passed => simp [ModifiersResult.outcome, htest, hresult]
      | broken => simp [ModifiersResult.outcome, hresult]
      | unknown text => simp [ModifiersResult.outcome, hresult]

theorem Outcome.exitCode_report_eq_zero_iff (o : Outcome) (name rule : String)
    (format : OutputFormat) : (o.report name rule format).exitCode = 0 ↔ o = .ok () := by
  rcases o with (_ | _) | _ <;> simp [report, exitCode]

theorem exitCode_runCheck_eq_zero_iff {s : Surroundings} {source : ConfigSource}
    {rule name text : String} {format : OutputFormat} :
    (runCheck s source rule name (some text) format).exitCode = 0 ↔
      ∃ w v r, s.loadValidator source = .ok w ∧ argumentValue (some text) = .ok v ∧
        w.resolveRule rule = .ok r ∧ r.typeRule.test v = true ∧
        ∀ c ∈ r.definition.modifiers, w.Passes v c := by
  rw [runCheck]
  cases hw : s.loadValidator source with
  | error message => simp [RunResult.failure]
  | ok w =>
    cases hv : argumentValue (some text) with
    | error message => simp [RunResult.failure]
    | ok v =>
      have hsupplied := isVoid_of_argumentValue hv
      have hvalid : w.validate ⟨name, v⟩ rule = .ok () ↔ ∃ r, w.resolveRule rule = .ok r ∧
          r.typeRule.test v = true ∧ ∀ c ∈ r.definition.modifiers, w.Passes v c :=
        Validator.validate_eq_ok_iff hsupplied
      simp [Outcome.exitCode_report_eq_zero_iff, hvalid]

/-- JSON can write all TOML data but dates, times and numbers that are not finite, and the values
of the same data are equal; so a rule that demands data of a configuration, or lists it, holds for
an argument that writes the same.  No data is void or a reference, however deep, and a check of an
argument succeeds only if its value passes every clause of the rule. -/
theorem toml_agrees_with_json :
    (∀ t : Toml.Value, t.IsPlain → ∃ j, SameData t j) ∧
    (∀ t j, SameData t j → (Value.ofToml t == Value.ofJson j) = true) ∧
    (∀ t j text (e : PatternEntry) position r c, SameData t j → Json.ofText? text = some j →
      e.toRule position = .ok r → (e.equals = some t ∨ ∃ ts, e.oneOf = some ts ∧ t ∈ ts) →
      ∃ v, argumentValue (some text) = .ok v ∧ r.toPartialRule.evaluate v c = true) ∧
    (∀ t, (Value.ofToml t).IsData) ∧ (∀ j, (Value.ofJson j).IsData) ∧
    Value.ofJson .null = .null ∧
    (∀ text v, argumentValue (some text) = .ok v → v.isVoid = false) ∧
    ∀ s source rule name text format,
      (runCheck s source rule name (some text) format).exitCode = 0 ↔
        ∃ w v r, s.loadValidator source = .ok w ∧ argumentValue (some text) = .ok v ∧
          w.resolveRule rule = .ok r ∧ r.typeRule.test v = true ∧
          ∀ c ∈ r.definition.modifiers, w.Passes v c := by
  refine ⟨fun t => Toml.Value.IsPlain.exists_sameData, fun t j => Value.ofToml_beq_ofJson,
    ?argument, Value.isData_ofToml, Value.isData_ofJson, rfl, fun text v => isVoid_of_argumentValue,
    fun s source rule name text format => exitCode_runCheck_eq_zero_iff⟩
  case argument =>
    intro t j text e position r c hsame htext hr ht
    refine ⟨Value.ofJson j, ?_, PatternEntry.check_holds_ofJson hr ht hsame⟩
    rw [argumentValue, htext]

/-- A rule of a configuration that demands an array. -/
def someEntry : PatternEntry :=
  { name := "is-there", pattern := "^there$", ignoreCase := false, description := none,
    equals := some (.array [.boolean true]), oneOf := none, matching := none }

/-- A table and an object with the same keys in another order are equal, and the array that a
configuration demands can be given as an argument. -/
theorem toml_agrees_with_json_keys :
    (Value.ofToml (.table [("a", .string "x"), ("b", .integer 1)]) ==
      Value.ofJson (.object [("b", .number (.integer 1)), ("a", .string "x")])) = true ∧
    ∃ r v, someEntry.toRule 0 = .ok r ∧ argumentValue (some "[true]") = .ok v ∧
      v.isVoid = false ∧ r.toPartialRule.evaluate v ⟨"there", .plain⟩ = true := by
  obtain ⟨-, hbeq, hargument, -, -, -, hvoid, -⟩ := toml_agrees_with_json
  have htable : SameData (.table [("a", .string "x"), ("b", .integer 1)])
      (.object [("b", .number (.integer 1)), ("a", .string "x")]) := by
    refine .table (fun key => ?_) fun key t j ht hj => ?_
    · simp only [List.reverse_cons, List.reverse_nil, List.nil_append, List.cons_append,
        Value.lookup_cons_eq_ite]
      split_ifs <;> rfl
    · have hmem := Value.mem_of_lookup_eq_some ht
      simp only [List.reverse_cons, List.reverse_nil, List.nil_append, List.cons_append,
        List.mem_cons, List.not_mem_nil, or_false, Prod.mk.injEq] at hmem
      rcases hmem with ⟨rfl, rfl⟩ | ⟨rfl, rfl⟩
      · cases hj
        exact .integer 1
      · cases hj
        exact .string "x"
  have harray : SameData (.array [.boolean true]) (.array [.boolean true]) := by
    refine .array rfl fun i t j ht hj => ?_
    rcases i with _ | i
    · cases ht
      cases hj
      exact .boolean true
    · cases ht
  have htext : Json.ofText? "[true]" = some (.array [.boolean true]) := by rfl
  have hok : (someEntry.toRule 0).isOk = true := by decide +kernel
  obtain ⟨r, hr⟩ : ∃ r, someEntry.toRule 0 = .ok r := by
    cases hr : someEntry.toRule 0 with
    | error e => simp [hr, Except.isOk, Except.toBool] at hok
    | ok r => exact ⟨r, rfl⟩
  obtain ⟨v, hv, hholds⟩ := hargument _ _ _ someEntry 0 r ⟨"there", .plain⟩ harray htext hr
    (.inl rfl)
  exact ⟨hbeq _ _ htable, r, v, hr, hv, hvoid _ v hv, hholds⟩

end Clausal
