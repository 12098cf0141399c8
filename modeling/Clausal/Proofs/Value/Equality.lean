import Clausal.Primitive
import Mathlib.Data.List.Forall2

/-!
# Equality of values

Equality of values is not identity: zeros of both signs are equal, and what is no number equals
nothing, not even itself.  It is symmetric and transitive all the same, and equal values are of one
kind.  `Value.Equal` says what equality means one level deep; the parts of arrays and objects are
compared by equality again.

## Main definitions

- `Value.Equal`: two values of one kind have equal contents
- `Value.parts`: the elements of an array and the values under the keys of an object
-/

namespace Clausal

namespace Double

variable {x y z : Double}

theorem beq_eq_true_iff :
    (x == y) = true ↔ x.isNaN = false ∧ y.isNaN = false ∧ x.rank = y.rank := by
  have hdef : (x == y) = (!x.isNaN && !y.isNaN && x.rank == y.rank) := rfl
  rw [hdef]
  simp [and_assoc]

theorem beq_symm (h : (x == y) = true) : (y == x) = true := by
  obtain ⟨hx, hy, hrank⟩ := beq_eq_true_iff.mp h
  exact beq_eq_true_iff.mpr ⟨hy, hx, hrank.symm⟩

theorem beq_trans (h : (x == y) = true) (h' : (y == z) = true) : (x == z) = true := by
  obtain ⟨hx, -, hrank⟩ := beq_eq_true_iff.mp h
  obtain ⟨-, hz, hrank'⟩ := beq_eq_true_iff.mp h'
  exact beq_eq_true_iff.mpr ⟨hx, hz, hrank.trans hrank'⟩

theorem isNaN_of_isFinite (h : x.isFinite = true) : x.isNaN = false := by
  have hlt : x.code < BinaryFormat.double.infinityCode := of_decide_eq_true h
  simpa [isNaN] using Nat.le_of_lt hlt

theorem compare?_eq_of_beq (h : (x == y) = true) (z : Double) : x.compare? z = y.compare? z := by
  obtain ⟨hx, hy, hrank⟩ := beq_eq_true_iff.mp h
  rw [compare?, compare?, hx, hy, hrank]

end Double

section Forall₂

variable {α : Type} {R : α → α → Prop} {xs ys zs : List α}

theorem forall₂_symm_of_mem (h : ∀ x ∈ xs, ∀ y, R x y → R y x) (hxy : List.Forall₂ R xs ys) :
    List.Forall₂ R ys xs := by
  induction hxy with
  | nil => exact .nil
  | cons hhead _ ih =>
    obtain ⟨hx, hrest⟩ := List.forall_mem_cons.mp h
    exact .cons (hx _ hhead) (ih hrest)

theorem forall₂_trans_of_mem (h : ∀ x ∈ xs, ∀ y z, R x y → R y z → R x z)
    (hxy : List.Forall₂ R xs ys) (hyz : List.Forall₂ R ys zs) : List.Forall₂ R xs zs := by
  induction hxy generalizing zs with
  | nil => exact hyz
  | cons hhead _ ih =>
    obtain ⟨hx, hrest⟩ := List.forall_mem_cons.mp h
    cases hyz with
    | cons hhead' htail' => exact .cons (hx _ _ hhead hhead') (ih hrest htail')

end Forall₂

namespace Value

/-- The elements of an array and the values under the keys of an object. -/
def parts : Value → List Value
  | array items => items
  | object fields => fields.map (·.2)
  | _ => []

theorem sizeOf_lt_of_mem_parts {v x : Value} (h : x ∈ v.parts) : sizeOf x < sizeOf v := by
  cases v with
  | array items =>
    have hx : sizeOf x < sizeOf items := List.sizeOf_lt_of_mem h
    rw [array.sizeOf_spec]
    omega
  | object fields =>
    obtain ⟨⟨key, y⟩, hmem, rfl⟩ := List.mem_map.mp h
    have hy : sizeOf (key, y) < sizeOf fields := List.sizeOf_lt_of_mem hmem
    rw [Prod.mk.sizeOf_spec] at hy
    rw [object.sizeOf_spec]
    dsimp only
    omega
  | _ => exact absurd h List.not_mem_nil

theorem parts_induction {P : Value → Prop} (step : ∀ v, (∀ x ∈ v.parts, P x) → P v) (v : Value) :
    P v :=
  step v fun x hx =>
    have : sizeOf x < sizeOf v := sizeOf_lt_of_mem_parts hx
    parts_induction step x
termination_by sizeOf v

/-- Two fields have one key and equal values. -/
def EqualField (f g : String × Value) : Prop :=
  f.1 = g.1 ∧ (f.2 == g.2) = true

/-- Two values are of one kind and have equal contents. -/
inductive Equal : Value → Value → Prop where
  | void : Equal .void .void
  | null : Equal .null .null
  | string (text : String) : Equal (.string text) (.string text)
  | number {x y : Double} (h : (x == y) = true) : Equal (.number x) (.number y)
  | boolean (b : Bool) : Equal (.boolean b) (.boolean b)
  | array {xs ys : List Value} (h : xs.Forall₂ (fun x y => (x == y) = true) ys) :
    Equal (.array xs) (.array ys)
  | object {fs gs : List (String × Value)} (h : fs.Forall₂ EqualField gs) :
    Equal (.object fs) (.object gs)
  | function {f g : FunctionRef} (h : f.identity = g.identity) : Equal (.function f) (.function g)
  | instance {i j : InstanceRef} (h : i.identity = j.identity) : Equal (.instance i) (.instance j)

variable {a b c : Value} {xs ys : List Value} {fs gs : List (String × Value)}

theorem beqItems_iff : beqItems xs ys = true ↔ xs.Forall₂ (fun x y => (x == y) = true) ys := by
  induction xs generalizing ys with
  | nil => cases ys <;> simp [beqItems]
  | cons x xs ih =>
    cases ys with
    | nil => simp [beqItems]
    | cons y ys =>
      rw [beqItems, Bool.and_eq_true_iff, List.forall₂_cons, ih]
      rfl

theorem beqFields_iff : beqFields fs gs = true ↔ fs.Forall₂ EqualField gs := by
  induction fs generalizing gs with
  | nil => cases gs <;> simp [beqFields]
  | cons f fs ih =>
    cases gs with
    | nil => simp [beqFields]
    | cons g gs =>
      rw [beqFields, Bool.and_eq_true_iff, Bool.and_eq_true_iff, List.forall₂_cons, ih, beq_iff_eq]
      rfl

theorem beq_iff_equal : (a == b) = true ↔ a.Equal b := by
  change a.beq b = true ↔ a.Equal b
  constructor
  · intro h
    cases a <;> cases b <;>
      simp only [beq, Bool.false_eq_true, beq_iff_eq, beqItems_iff, beqFields_iff] at h
    case void => exact .void
    case null => exact .null
    case string => exact h ▸ .string _
    case number => exact .number h
    case boolean => exact h ▸ .boolean _
    case array => exact .array h
    case object => exact .object h
    case function => exact .function h
    case «instance» => exact .instance h
  · intro h
    cases h with
    | void => rfl
    | null => rfl
    | string text => exact beq_self_eq_true text
    | number h => exact h
    | boolean b => exact beq_self_eq_true b
    | array h => exact beqItems_iff.mpr h
    | object h => exact beqFields_iff.mpr h
    | function h => exact beq_iff_eq.mpr h
    | «instance» h => exact beq_iff_eq.mpr h

theorem beq_symm (h : (a == b) = true) : (b == a) = true := by
  induction a using parts_induction generalizing b with
  | step a ih =>
    rw [beq_iff_equal] at h ⊢
    cases h with
    | void => exact .void
    | null => exact .null
    | string text => exact .string text
    | number h => exact .number (Double.beq_symm h)
    | boolean b => exact .boolean b
    | array h => exact .array (forall₂_symm_of_mem (fun x hx y hxy => ih x hx hxy) h)
    | object h =>
      refine .object (forall₂_symm_of_mem (fun f hf g hfg => ⟨hfg.1.symm, ?_⟩) h)
      exact ih f.2 (List.mem_map_of_mem hf) hfg.2
    | function h => exact .function h.symm
    | «instance» h => exact .instance h.symm

theorem beq_trans (h : (a == b) = true) (h' : (b == c) = true) : (a == c) = true := by
  induction a using parts_induction generalizing b c with
  | step a ih =>
    rw [beq_iff_equal] at h h' ⊢
    cases h with
    | void => exact h'
    | null => exact h'
    | string text => exact h'
    | number h =>
      cases h' with
      | number h' => exact .number (Double.beq_trans h h')
    | boolean b => exact h'
    | array h =>
      cases h' with
      | array h' =>
        exact .array (forall₂_trans_of_mem (fun x hx y z hxy hyz => ih x hx hxy hyz) h h')
    | object h =>
      cases h' with
      | object h' =>
        refine .object (forall₂_trans_of_mem (fun f hf g k hfg hgk => ⟨hfg.1.trans hgk.1, ?_⟩) h h')
        exact ih f.2 (List.mem_map_of_mem hf) hfg.2 hgk.2
    | function h =>
      cases h' with
      | function h' => exact .function (h.trans h')
    | «instance» h =>
      cases h' with
      | «instance» h' => exact .instance (h.trans h')

theorem beq_congr_left (h : (a == b) = true) (c : Value) : (a == c) = (b == c) :=
  Bool.eq_iff_iff.mpr ⟨beq_trans (beq_symm h), beq_trans h⟩

theorem beq_congr_right (h : (a == b) = true) (c : Value) : (c == a) = (c == b) :=
  Bool.eq_iff_iff.mpr ⟨fun hc => beq_trans hc h, fun hc => beq_trans hc (beq_symm h)⟩

theorem test_eq_of_beq (h : (a == b) = true) (kind : Primitive) : kind.test a = kind.test b := by
  cases beq_iff_equal.mp h <;> cases kind <;> rfl

theorem isVoid_eq_of_beq (h : (a == b) = true) : a.isVoid = b.isVoid := by
  cases beq_iff_equal.mp h <;> rfl

theorem text?_eq_of_beq (h : (a == b) = true) : a.text? = b.text? := by
  cases beq_iff_equal.mp h <;> rfl

end Value

end Clausal
