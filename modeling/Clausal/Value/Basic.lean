import Clausal.Number.Double

/-!
# Values

`Value` is what a parameter can hold.  Besides data there are *void*, which says that the parameter
was not supplied at all, and references to functions and to instances of classes.  A reference is
equal to itself only, which its identity decides; all other values are compared by their contents.
-/

namespace Clausal

/-- A reference to a function. -/
structure FunctionRef where
  /-- The name that the function is shown with. -/
  name : String
  /-- What tells the function from all others. -/
  identity : Nat
deriving DecidableEq

/-- A class, known by its full name. -/
structure ClassName where
  fullName : String
deriving DecidableEq

/-- A reference to an instance of a class. -/
structure InstanceRef where
  ofClass : ClassName
  /-- What tells the instance from all others. -/
  identity : Nat
deriving DecidableEq

/-- What a parameter can hold. -/
inductive Value where
  /-- Nothing was supplied. -/
  | void
  /-- The explicit absence of a value. -/
  | null
  | string (text : String)
  | number (x : Double)
  | boolean (b : Bool)
  | array (items : List Value)
  /-- Values under keys; what makes them the fields of an object is in `Value.Fields`. -/
  | object (fields : List (String × Value))
  | function (f : FunctionRef)
  | instance (i : InstanceRef)

namespace Value

def kindName : Value → String
  | void => "void"
  | null => "null"
  | string _ => "string"
  | number _ => "number"
  | boolean _ => "boolean"
  | array _ => "array"
  | object _ => "object"
  | function _ => "function"
  | .instance _ => "instance"

def isVoid : Value → Bool
  | void => true
  | _ => false

def text? : Value → Option String
  | string s => some s
  | _ => none

def number? : Value → Option Double
  | number x => some x
  | _ => none

mutual

def beq : Value → Value → Bool
  | void, void => true
  | null, null => true
  | string s, string t => s == t
  | number x, number y => x == y
  | boolean a, boolean b => a == b
  | array xs, array ys => beqItems xs ys
  | object xs, object ys => beqFields xs ys
  | function f, function g => f.identity == g.identity
  | .instance i, .instance j => i.identity == j.identity
  | _, _ => false

def beqItems : List Value → List Value → Bool
  | [], [] => true
  | x :: xs, y :: ys => beq x y && beqItems xs ys
  | _, _ => false

def beqFields : List (String × Value) → List (String × Value) → Bool
  | [], [] => true
  | (k, x) :: xs, (l, y) :: ys => k == l && beq x y && beqFields xs ys
  | _, _ => false

end

instance : BEq Value := ⟨beq⟩

/-- Fields come in increasing order of their keys; so no two of them have one key. -/
def Increasing (fields : List (String × Value)) : Prop :=
  fields.Pairwise fun f g => f.1 < g.1

/-- Puts a value under a key into fields in increasing order of the keys, replacing the value that
was there. -/
def putField (key : String) (value : Value) : List (String × Value) → List (String × Value)
  | [] => [(key, value)]
  | (k, v) :: rest =>
    if key < k then (key, value) :: (k, v) :: rest
    else if key = k then (key, value) :: rest
    else (k, v) :: putField key value rest

section PutField

variable {key : String} {value : Value} {f : String × Value} {fields : List (String × Value)}

theorem mem_putField (h : f ∈ putField key value fields) : f = (key, value) ∨ f ∈ fields := by
  induction fields with
  | nil => exact .inl (List.mem_singleton.mp h)
  | cons g fields ih =>
    obtain ⟨k, v⟩ := g
    rw [putField] at h
    split at h
    · exact List.mem_cons.mp h
    · split at h
      · exact (List.mem_cons.mp h).imp_right (List.mem_cons_of_mem _)
      · rcases List.mem_cons.mp h with rfl | h
        · exact .inr List.mem_cons_self
        · exact (ih h).imp_right (List.mem_cons_of_mem _)

theorem increasing_putField (h : Increasing fields) (key : String) (value : Value) :
    Increasing (putField key value fields) := by
  induction fields with
  | nil => exact List.pairwise_singleton _ _
  | cons g fields ih =>
    obtain ⟨k, v⟩ := g
    have hafter : ∀ f ∈ fields, k < f.1 := fun f hf => List.rel_of_pairwise_cons h hf
    have htail : Increasing fields := h.of_cons
    rw [putField]
    split
    · next hlt =>
      refine h.cons fun f hf => ?_
      rcases List.mem_cons.mp hf with rfl | hf
      · exact hlt
      · exact String.lt_trans hlt (hafter f hf)
    · next hge =>
      split
      · next heq =>
        subst heq
        exact htail.cons hafter
      · next hne =>
        refine (ih htail).cons fun f hf => ?_
        rcases mem_putField hf with rfl | hf
        · have hgt : ¬ key ≤ k := fun hle => hne (String.le_antisymm hle (String.not_lt.mp hge))
          exact Decidable.not_not.mp fun h => hgt (String.not_lt.mp h)
        · exact hafter f hf

end PutField

/-- The fields of an object. -/
structure Fields where
  entries : List (String × Value)
  increasing : Increasing entries

namespace Fields

def empty : Fields := ⟨[], .nil⟩

/-- Puts a value under a key, replacing the value that was there. -/
def put (fields : Fields) (key : String) (value : Value) : Fields :=
  ⟨putField key value fields.entries, increasing_putField fields.increasing key value⟩

/-- The fields that entries in any order come to; of two values under one key the later one
counts. -/
def ofEntries (entries : List (String × Value)) : Fields :=
  entries.foldl (fun fields (k, v) => fields.put k v) empty

def toValue (fields : Fields) : Value := object fields.entries

end Fields

/-- The object with values under keys in any order. -/
def ofFields (entries : List (String × Value)) : Value :=
  (Fields.ofEntries entries).toValue

/-- The value of something that may be missing. -/
def ofOption {α : Type} (f : α → Value) : Option α → Value
  | none => void
  | some a => f a

/-- Whether a value is an instance of a class. -/
def isInstanceOf (v : Value) (c : ClassName) : Bool :=
  match v with
  | .instance i => i.ofClass == c
  | _ => false

end Value

end Clausal
