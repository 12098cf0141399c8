/-!
# Writing JSON texts

Texts are written between double quotes with a backslash before what cannot stand there: quotes,
backslashes and control codes.  All other characters are written as they are.
-/

namespace Clausal

namespace Json

/-- A hexadecimal digit in lower case. -/
def hexDigit (n : Nat) : Char := (Nat.digitChar n)

/-- The written form of one character. -/
def encodeChar (c : Char) : List Char :=
  if c = '"' then ['\\', '"']
  else if c = '\\' then ['\\', '\\']
  else if c = '\x08' then ['\\', 'b']
  else if c = '\x0c' then ['\\', 'f']
  else if c = '\n' then ['\\', 'n']
  else if c = '\r' then ['\\', 'r']
  else if c = '\t' then ['\\', 't']
  else if c.toNat < 0x20 then
    ['\\', 'u', '0', '0', hexDigit (c.toNat / 16), hexDigit (c.toNat % 16)]
  else [c]

/-- A text between double quotes. -/
def encode (s : String) : String :=
  String.ofList ('"' :: s.toList.flatMap encodeChar ++ ['"'])

/-- An object whose fields are texts, one field on each line. -/
def objectLines (fields : List (String × String)) : String :=
  "\x7b\n" ++ ",\n".intercalate (fields.map fun (k, v) => "  " ++ encode k ++ ": " ++ encode v) ++
    "\n\x7d"

end Json

end Clausal
