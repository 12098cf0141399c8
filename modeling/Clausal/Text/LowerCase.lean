import Clausal.Text.CaseRule
import Clausal.Text.Property

/-!
# Lower case

`lowerCase` is the full lower-casing of a text.  Every letter is mapped by itself, with two
exceptions of the Unicode standard: a capital I with a dot becomes two characters, and a capital
sigma becomes a final sigma where it ends a word.
-/

namespace Clausal

namespace LowerCase

/-- The characters that have case. -/
def cased : CharSet :=
  (Property.members? "cased").getD CharSet.empty

/-- The characters that stand inside a word without being letters with case. -/
def caseIgnorable : CharSet :=
  (Property.members? "caseignorable").getD CharSet.empty

/-- Whether the first character that counts for case is a letter with case. -/
def beginsCased (cs : List Char) : Bool :=
  match cs.dropWhile caseIgnorable.contains with
  | [] => false
  | c :: _ => cased.contains c

/-- The lower-case form of a character by itself.  ASCII letters are mapped by their offset. -/
def ofChar (c : Char) : List Char :=
  if c.toNat < 0x80 then [c.toLower]
  else if c.toNat = 0x130 then ['i', Char.ofNat 0x307]
  else [Char.ofNat ((CaseRule.applyFirst? CaseRule.lowerRules c.toNat).getD c.toNat)]

/-- The lower-case form of characters that follow others, which are given from the last one on. -/
def ofChars (before : List Char) : List Char → List Char
  | [] => []
  | c :: rest =>
    let mapped :=
      if c = 'Σ' then
        if beginsCased before && !beginsCased rest then ['ς'] else ['σ']
      else ofChar c
    mapped ++ ofChars (c :: before) rest

end LowerCase

/-- The lower-case form of a text. -/
def lowerCase (s : String) : String :=
  String.ofList (LowerCase.ofChars [] s.toList)

end Clausal
