import Clausal.Text.Category
import Clausal.Text.Property

/-!
# Quoted text

`Quoted.encode` writes a text between double quotes so that every character can be told apart in
print: quotes and backslashes get a backslash, the common control codes their usual letters, and a
character that does not print, or that would join the one before it, its number in hexadecimal.
-/

namespace Clausal

namespace Quoted

/-- The characters that leave a mark of their own, with the space. -/
def printable : CharSet :=
  ((Category.anyOf [.cc, .cf, .co, .zl, .zp, .zs]).union
    (Category.surrogates.union Category.unassigned)).complement.union (CharSet.singleton ' ')

/-- The characters that join the one before them. -/
def joining : CharSet :=
  (Property.members? "graphemeextend").getD CharSet.empty

/-- The escape with the number of a character. -/
def numbered (c : Char) : List Char :=
  ['\\', 'u', '{'] ++ Nat.toDigits 16 c.toNat ++ ['}']

/-- The written form of one character. -/
def encodeChar (c : Char) : List Char :=
  if c = '"' then ['\\', '"']
  else if c = '\\' then ['\\', '\\']
  else if c = '\t' then ['\\', 't']
  else if c = '\n' then ['\\', 'n']
  else if c = '\r' then ['\\', 'r']
  else if c = '\x00' then ['\\', '0']
  else if 0x20 ≤ c.toNat && c.toNat < 0x7F then [c]
  else if joining.contains c || !printable.contains c then numbered c
  else [c]

/-- A text between double quotes. -/
def encode (s : String) : String :=
  String.ofList ('"' :: s.toList.flatMap encodeChar ++ ['"'])

end Quoted

end Clausal
