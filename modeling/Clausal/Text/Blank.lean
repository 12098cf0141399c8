/-!
# Blanks

The characters of the Unicode property White_Space, here called *blanks*, and what they delimit:
`trim` removes them at both ends of a text and `words` are the longest runs of other characters.
-/

namespace Clausal

/-- Whether a character is a blank. -/
def isBlank (c : Char) : Bool :=
  let n := c.toNat
  (0x9 ≤ n && n ≤ 0xD) || n = 0x20 || n = 0x85 || n = 0xA0 || n = 0x1680 ||
    (0x2000 ≤ n && n ≤ 0x200A) || n = 0x2028 || n = 0x2029 || n = 0x202F || n = 0x205F ||
    n = 0x3000

namespace Blank

/-- The characters without the blanks at their beginning. -/
def trimLeft (cs : List Char) : List Char :=
  cs.dropWhile isBlank

/-- The characters without the blanks at their end. -/
def trimRight (cs : List Char) : List Char :=
  (cs.reverse.dropWhile isBlank).reverse

/-- The characters without the blanks at both ends. -/
def trimChars (cs : List Char) : List Char :=
  trimRight (trimLeft cs)

/-- The longest runs of characters that are no blanks; `current` is the run being read, from its
last character on. -/
def wordsFrom (current : List Char) : List Char → List (List Char)
  | [] => if current.isEmpty then [] else [current.reverse]
  | c :: rest =>
    if isBlank c then
      if current.isEmpty then wordsFrom [] rest
      else current.reverse :: wordsFrom [] rest
    else wordsFrom (c :: current) rest

end Blank

/-- A text without the blanks at both ends. -/
def trim (s : String) : String :=
  String.ofList (Blank.trimChars s.toList)

/-- The words of a text: the longest runs of characters that are no blanks. -/
def words (s : String) : List String :=
  (Blank.wordsFrom [] s.toList).map String.ofList

end Clausal
