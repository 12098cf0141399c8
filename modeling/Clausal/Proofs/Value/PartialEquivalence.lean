import Clausal.Proofs.Value.Fields

/-!
# Which values are equal to themselves

The comparison of values is symmetric and transitive, but a value is equal to itself only if what
is no number stands nowhere in it.  One level deep the comparison is read off the kinds and the
contents of the values; the induction on parts carries it to any depth.

## Main definitions

- `Value.Occurs`: a value is another one, or stands in it at some depth

## Main results

- `Value.beq_self_iff`: what makes a value equal to itself
- `Value.beq_isPartialEquivalence`: the laws of the comparison
-/

namespace Clausal

namespace Value

variable {u v x : Value} {xs ys : List Value}

/-- A value is another one, or stands in it at some depth. -/
inductive Occurs (x : Value) : Value → Prop where
  | self : Occurs x x
  | part {v y : Value} (mem : y ∈ v.parts) (occurs : Occurs x y) : Occurs x v

theorem occurs_iff : Occurs x v ↔ x = v ∨ ∃ y ∈ v.parts, Occurs x y := by
  constructor
  · intro h
    cases h with
    | self => exact .inl rfl
    | part mem occurs => exact .inr ⟨_, mem, occurs⟩
  · rintro (rfl | ⟨y, mem, occurs⟩)
    · exact .self
    · exact .part mem occurs

theorem array_beq_array_iff : (array xs == array ys) = true ↔
    xs.length = ys.length ∧
      ∀ (i : Nat) (x y : Value), xs[i]? = some x → ys[i]? = some y → (x == y) = true := by
  have hitems : (array xs == array ys) = true ↔ xs.Forall₂ (fun x y => (x == y) = true) ys :=
    beqItems_iff
  rw [hitems, List.forall₂_iff_get]
  refine and_congr_right fun hlength => ⟨fun h i x y hx hy => ?_, fun h i hx hy => ?_⟩
  · obtain ⟨hi, rfl⟩ := List.getElem?_eq_some_iff.mp hx
    obtain ⟨hi', rfl⟩ := List.getElem?_eq_some_iff.mp hy
    exact h i hi hi'
  · exact h i _ _ (List.getElem?_eq_getElem hx) (List.getElem?_eq_getElem hy)

theorem beq_eq_false_of_kindName_ne (h : u.kindName ≠ v.kindName) : (u == v) = false := by
  rw [← Bool.not_eq_true]
  intro hbeq
  apply h
  cases beq_iff_equal.mp hbeq <;> rfl

theorem function_beq_function_iff {f g : FunctionRef} :
    (function f == function g) = true ↔ f.identity = g.identity := by
  change (f.identity == g.identity) = true ↔ f.identity = g.identity
  exact beq_iff_eq

theorem instance_beq_instance_iff {i j : InstanceRef} :
    (Value.instance i == Value.instance j) = true ↔ i.identity = j.identity := by
  change (i.identity == j.identity) = true ↔ i.identity = j.identity
  exact beq_iff_eq

/-- One level deep, only what is no number keeps a value with such parts from being equal to
itself. -/
theorem beq_self_iff_parts : (v == v) = true ↔
    (∀ x, v = number x → x.isNaN = false) ∧ ∀ y ∈ v.parts, (y == y) = true := by
  cases v with
  | number x =>
    have hx : (number x == number x) = true ↔ x.isNaN = false := by
      refine Double.beq_eq_true_iff.trans ⟨fun h => h.1, fun h => ⟨h, h, rfl⟩⟩
    rw [hx]
    constructor
    · intro h
      refine ⟨?_, fun y hy => absurd hy List.not_mem_nil⟩
      rintro y ⟨⟩
      exact h
    · exact fun h => h.1 x rfl
  | array items =>
    have hitems : (array items == array items) = true ↔ ∀ y ∈ items, (y == y) = true :=
      beqItems_iff.trans List.forall₂_same
    rw [hitems]
    exact ⟨fun h => ⟨nofun, h⟩, fun h => h.2⟩
  | object fields =>
    have hfields : (object fields == object fields) = true ↔ ∀ f ∈ fields, EqualField f f :=
      beqFields_iff.trans List.forall₂_same
    rw [hfields]
    constructor
    · intro h
      refine ⟨nofun, fun y hy => ?_⟩
      obtain ⟨f, hf, rfl⟩ := List.mem_map.mp hy
      exact (h f hf).2
    · exact fun h f hf => ⟨rfl, h.2 f.2 (List.mem_map_of_mem hf)⟩
  | _ =>
    -- No other value has parts, and each of them is equal to itself.
    refine iff_of_true ?_ ⟨nofun, fun y hy => absurd hy List.not_mem_nil⟩
    rw [beq_iff_equal]
    constructor <;> rfl

theorem beq_self_iff (v : Value) :
    (v == v) = true ↔ ∀ x, Occurs (number x) v → x.isNaN = false := by
  induction v using parts_induction with
  | step v ih =>
    rw [beq_self_iff_parts]
    constructor
    · rintro ⟨hnumber, hparts⟩ x hx
      rcases occurs_iff.mp hx with rfl | ⟨y, hy, hoccurs⟩
      · exact hnumber x rfl
      · exact (ih y hy).mp (hparts y hy) x hoccurs
    · intro h
      constructor
      · rintro x rfl
        exact h x .self
      · intro y hy
        rw [ih y hy]
        exact fun x hx => h x (.part hy hx)

/-- Comparing values is symmetric and transitive, and fails to be reflexive exactly where what is
no number stands at some depth.  Values of different kinds are never equal; arrays are compared in
order, objects by their keys and what is under them, and references by what they refer to.  An
object that is made of entries in any order has under each key the last of their values. -/
theorem beq_isPartialEquivalence :
    (∀ u v : Value, (u == v) = (v == u)) ∧
    (∀ u v w : Value, (u == v) = true → (v == w) = true → (u == w) = true) ∧
    (∀ v : Value, (v == v) = true ↔ ∀ x, Occurs (number x) v → x.isNaN = false) ∧
    (∀ u v : Value, u.kindName ≠ v.kindName → (u == v) = false) ∧
    (∀ xs ys, (array xs == array ys) = true ↔ xs.length = ys.length ∧
      ∀ (n : Nat) (x y : Value), xs[n]? = some x → ys[n]? = some y → (x == y) = true) ∧
    (∀ fs gs : Fields, (fs.toValue == gs.toValue) = true ↔
      (∀ key, (fs.entries.lookup key).isSome = (gs.entries.lookup key).isSome) ∧
      ∀ key x y, fs.entries.lookup key = some x → gs.entries.lookup key = some y →
        (x == y) = true) ∧
    (∀ entries, ∃ fields : Fields, ofFields entries = fields.toValue ∧
      ∀ key, fields.entries.lookup key = entries.reverse.lookup key) ∧
    (∀ f g, (function f == function g) = true ↔ f.identity = g.identity) ∧
    ∀ i j, (Value.instance i == Value.instance j) = true ↔ i.identity = j.identity := by
  refine ⟨?symmetric, fun u v w => beq_trans, beq_self_iff, fun u v => beq_eq_false_of_kindName_ne,
    fun xs ys => array_beq_array_iff, ?objects,
    fun entries => ⟨.ofEntries entries, rfl, Fields.lookup_ofEntries entries⟩,
    fun f g => function_beq_function_iff, fun i j => instance_beq_instance_iff⟩
  case symmetric =>
    exact fun u v => Bool.eq_iff_iff.mpr ⟨beq_symm, beq_symm⟩
  case objects =>
    intro fs gs
    rw [Fields.toValue_beq_toValue_iff]
    exact ⟨fun h => ⟨h.keys, h.values⟩, fun h => ⟨h.1, h.2⟩⟩

/-- Zeros of both signs are equal, a nested field that is no number makes an object differ from
itself, and objects with other keys differ. -/
theorem beq_isPartialEquivalence_nested :
    (array [number Double.zero] == array [number Double.zero.neg]) = true ∧
    (array [number Double.zero] == array [number Double.zero]) = true ∧
    (object [("a", array [void, number Double.nan])] ==
      object [("a", array [void, number Double.nan])]) = false ∧
    (null == void) = false ∧
    (ofFields [("a", null)] == ofFields [("b", null), ("a", null)]) = false := by
  obtain ⟨-, htrans, hself, hkinds, -, hobjects, -⟩ := beq_isPartialEquivalence
  have hzeros : (array [number Double.zero] == array [number Double.zero.neg]) = true := by decide
  have hback : (array [number Double.zero.neg] == array [number Double.zero]) = true := by decide
  refine ⟨hzeros, htrans _ _ _ hzeros hback, ?_, hkinds _ _ (by decide), ?_⟩
  · rw [← Bool.not_eq_true, hself]
    intro h
    have hnan : Occurs (number Double.nan) (object [("a", array [void, number Double.nan])]) :=
      .part List.mem_cons_self (.part (List.mem_cons_of_mem _ List.mem_cons_self) .self)
    exact absurd (h _ hnan) (by decide)
  · rw [← Bool.not_eq_true, ofFields, ofFields, hobjects]
    intro h
    exact absurd (h.1 "b") (by decide)

end Value

end Clausal
