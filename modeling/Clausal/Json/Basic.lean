import Clausal.Number.Double

/-!
# JSON values
-/

namespace Clausal

namespace Json

/-- A number of a JSON text. -/
inductive Number where
  /-- An integer that fits into sixty-four bits, with or without a sign. -/
  | integer (n : Int)
  /-- Any other number. -/
  | float (x : Double)

/-- The number of sixty-four bits nearest to a number. -/
def Number.toDouble : Number → Double
  | integer n => Double.ofInt n
  | float x => x

/-- The data that a JSON text describes. -/
inductive Value where
  | null
  | boolean (b : Bool)
  | number (n : Number)
  | string (text : String)
  | array (items : List Value)
  /-- Values under keys, in the order of the text. -/
  | object (fields : List (String × Value))

end Json

end Clausal
