import Clausal.Number.Shortest
import Clausal.Text.Quoted
import Clausal.Value.Basic

/-!
# The text of a value

`Value.toText` shows a value to a reader: texts are quoted, the fields of objects come in order of
their keys, and what has no contents to show stands between angles.
-/

namespace Clausal

namespace Value

mutual

def toText : Value → String
  | void => "<void>"
  | null => "null"
  | string s => Quoted.encode s
  | number x => x.toText
  | boolean b => if b then "true" else "false"
  | array items => "[" ++ ", ".intercalate (itemTexts items) ++ "]"
  | object fields => "\x7b" ++ ", ".intercalate (fieldTexts fields) ++ "\x7d"
  | function f => "<function " ++ f.name ++ ">"
  | .instance i => "<" ++ i.ofClass.fullName ++ " instance>"

def itemTexts : List Value → List String
  | [] => []
  | x :: xs => toText x :: itemTexts xs

def fieldTexts : List (String × Value) → List String
  | [] => []
  | (k, x) :: xs => (Quoted.encode k ++ ": " ++ toText x) :: fieldTexts xs

end

end Value

def FunctionRef.describe (f : FunctionRef) : String :=
  "Function \x7b name: " ++ Quoted.encode f.name ++ ", .. \x7d"

def InstanceRef.describe (i : InstanceRef) : String :=
  "Instance \x7b class: " ++ Quoted.encode i.ofClass.fullName ++ ", .. \x7d"

end Clausal
