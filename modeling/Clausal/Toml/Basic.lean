import Clausal.Number.Double

/-!
# TOML values

`Toml.Value` is the data that a TOML document describes, and `Toml.Datetime` a date, a time of day,
or both.
-/

namespace Clausal

namespace Toml

/-- A day of the calendar. -/
structure Date where
  year : Nat
  /-- The month, from one. -/
  month : Nat
  /-- The day of the month, from one. -/
  day : Nat
deriving DecidableEq

/-- A time of day. -/
structure Time where
  hour : Nat
  minute : Nat
  /-- The second; sixty for a leap second. -/
  second : Nat
  /-- The billionths of a second. -/
  nanosecond : Nat
deriving DecidableEq

/-- How far a local time is ahead of the universal one. -/
inductive Offset where
  /-- Not at all, by the letter for the universal time. -/
  | universal
  /-- A number of minutes, which may be negative. -/
  | minutes (count : Int)
deriving DecidableEq

/-- A date, a time of day, or both. -/
inductive Datetime where
  /-- A day, with a time of day and an offset if they are given. -/
  | date (day : Date) (time : Option (Time × Option Offset))
  | time (time : Time)
deriving DecidableEq

/-- The data that a document describes. -/
inductive Value where
  | string (text : String)
  /-- An integer of sixty-four bits. -/
  | integer (n : Int)
  | float (x : Double)
  | boolean (b : Bool)
  /-- A date, a time of day, or both. -/
  | datetime (d : Datetime)
  | array (items : List Value)
  /-- Values under keys. -/
  | table (entries : List (String × Value))

/-- A natural number with zeros in front up to a number of digits. -/
def padded (width n : Nat) : String :=
  let digits := Nat.repr n
  String.ofList (List.replicate (width - digits.length) '0') ++ digits

def Date.toText (d : Date) : String :=
  padded 4 d.year ++ "-" ++ padded 2 d.month ++ "-" ++ padded 2 d.day

/-- The text of a time of day; a fraction of a second has no zeros at its end. -/
def Time.toText (t : Time) : String :=
  let fraction := if t.nanosecond = 0 then "" else
    "." ++ String.ofList
      ((padded 9 t.nanosecond).toList.reverse.dropWhile (· == '0')).reverse
  padded 2 t.hour ++ ":" ++ padded 2 t.minute ++ ":" ++ padded 2 t.second ++ fraction

def Offset.toText : Offset → String
  | universal => "Z"
  | minutes n =>
    let sign := if n < 0 then "-" else "+"
    sign ++ padded 2 (n.natAbs / 60) ++ ":" ++ padded 2 (n.natAbs % 60)

def Datetime.toText : Datetime → String
  | date d none => d.toText
  | date d (some (t, none)) => d.toText ++ "T" ++ t.toText
  | date d (some (t, some o)) => d.toText ++ "T" ++ t.toText ++ o.toText
  | time t => t.toText

end Toml

end Clausal
