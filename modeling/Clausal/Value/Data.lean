import Clausal.Json.Basic
import Clausal.Toml.Basic
import Clausal.Value.Basic

/-!
# Data as values

The data of JSON texts and TOML documents as values.  Integers become the nearest number, dates and
times the text they are written as, and an explicit absence stays one: no data is void, a function
or an instance.
-/

namespace Clausal

namespace Value

/-- The value of an integer. -/
def ofInt (n : Int) : Value := number (Double.ofInt n)

mutual

def ofJson : Json.Value → Value
  | .null => null
  | .boolean b => boolean b
  | .number n => number n.toDouble
  | .string s => string s
  | .array items => array (ofJsonItems items)
  | .object fields => ofFields (ofJsonFields fields)

/-- The values of JSON data in order. -/
def ofJsonItems : List Json.Value → List Value
  | [] => []
  | x :: xs => ofJson x :: ofJsonItems xs

/-- The values of JSON data under keys. -/
def ofJsonFields : List (String × Json.Value) → List (String × Value)
  | [] => []
  | (k, x) :: xs => (k, ofJson x) :: ofJsonFields xs

end

mutual

def ofToml : Toml.Value → Value
  | .string s => string s
  | .integer n => ofInt n
  | .float x => number x
  | .boolean b => boolean b
  | .datetime d => string d.toText
  | .array items => array (ofTomlItems items)
  | .table entries => ofFields (ofTomlFields entries)

/-- The values of TOML data in order. -/
def ofTomlItems : List Toml.Value → List Value
  | [] => []
  | x :: xs => ofToml x :: ofTomlItems xs

/-- The values of TOML data under keys. -/
def ofTomlFields : List (String × Toml.Value) → List (String × Value)
  | [] => []
  | (k, x) :: xs => (k, ofToml x) :: ofTomlFields xs

end

end Value

end Clausal
