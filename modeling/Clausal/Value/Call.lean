import Clausal.Value.Basic

/-!
# Calling functions

A value refers to a function by its identity; what the function does is kept in a table.
-/

namespace Clausal

/-- What the functions of a program do, by their identities. -/
structure FunctionTable where
  /-- The functions, under their identities. -/
  entries : List (Nat × (List Value → Value))

namespace FunctionTable

def empty : FunctionTable := ⟨[]⟩

def add (t : FunctionTable) (identity : Nat) (run : List Value → Value) : FunctionTable :=
  ⟨(identity, run) :: t.entries⟩

def call? (t : FunctionTable) (f : FunctionRef) (arguments : List Value) : Option Value :=
  (t.entries.lookup f.identity).map fun run => run arguments

end FunctionTable

end Clausal
