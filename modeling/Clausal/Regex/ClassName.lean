import Clausal.Regex.Basic
import Clausal.Regex.Tree
import Clausal.Text.Blank
import Clausal.Text.Script

/-!
# Named classes of characters

The sets that names of classes denote inside regular expressions.  Names of Unicode classes are
compared loosely: case, blanks, hyphens and underscores do not count, nor does a leading `is`.
-/

namespace Clausal

namespace Regex

/-- A name without what does not count when names are compared. -/
def looseName (cs : List Char) : String :=
  let isLed := (cs.take 2).map Char.toLower == ['i', 's']
  let counted := ((if isLed then cs.drop 2 else cs).filter fun c =>
    c.toNat < 0x80 && c != ' ' && c != '_' && c != '-').map Char.toLower
  if isLed && counted == ['c'] then "isc" else String.ofList counted

/-- The set that a name of a category denotes, or one of the three names that hold for every
character, for every assigned one, and for every one of ASCII. -/
def categoryNamed? (name : String) : Option CharSet :=
  if name = "any" then some CharSet.all
  else if name = "assigned" then some (Category.unassigned.complement.diff Category.surrogates)
  else if name = "ascii" then some (CharSet.ofText "0-7F")
  else Category.named? name

/-- The set that a name by itself denotes: a property, else a category, else a script. -/
def propertyNamed? (name : String) : Option CharSet :=
  match Property.members? name with
  | some set => some set
  | none =>
    match categoryNamed? name with
    | some set => some set
    | none => Script.members? name

/-- The names of the properties of Unicode, and their short forms, that hold more than a yes or a
no. -/
def valuedProperties : List String :=
  ["age", "bc", "bidiclass", "bidimirroringglyph", "bidipairedbracket", "bidipairedbrackettype",
    "blk", "block", "bmg", "bpb", "bpt", "canonicalcombiningclass", "casefolding", "ccc", "cf",
    "decompositionmapping", "decompositiontype", "dm", "dt", "ea", "eastasianwidth",
    "equideo", "equivalentunifiedideograph", "fcnfkc", "fcnfkcclosure", "gc", "gcb",
    "generalcategory", "graphemeclusterbreak", "hangulsyllabletype", "hst", "incb",
    "indicconjunctbreak", "indicpositionalcategory", "indicsyllabiccategory", "inpc", "insc", "isc",
    "isocomment", "jamoshortname", "jg", "joininggroup", "joiningtype", "jsn", "jt", "lb", "lc",
    "linebreak", "lowercasemapping", "na", "na1", "name", "namealias", "nfcqc", "nfcquickcheck",
    "nfdqc", "nfdquickcheck", "nfkccasefold", "nfkccf", "nfkcqc", "nfkcquickcheck",
    "nfkcscf", "nfkcsimplecasefold", "nfkdqc", "nfkdquickcheck", "nt", "numerictype",
    "numericvalue", "nv", "sb", "sc", "scf", "script", "scriptextensions", "scx", "sentencebreak",
    "simplecasefolding", "simplelowercasemapping", "simpletitlecasemapping",
    "simpleuppercasemapping", "slc", "stc", "suc", "tc", "titlecasemapping", "uc",
    "unicode1name", "unicoderadicalstroke", "uppercasemapping", "verticalorientation", "vo", "wb",
    "wordbreak"]

def propertyValue (property value : String) : Except Fault CharSet :=
  let found :=
    if property = "gc" || property = "generalcategory" then categoryNamed? value
    else if property = "sc" || property = "script" then Script.members? value
    else if property = "scx" || property = "scriptextensions" then Script.extendedMembers? value
    else if property = "age" then Property.assignedBy? value
    else none
  match found with
  | some set => .ok set
  | none =>
    if valuedProperties.contains property || (Property.members? property).isSome then
      .error .propertyValueUnknown
    else .error .propertyUnknown

/-- The set that a Unicode class denotes. -/
def ClassQuery.members : ClassQuery → Except Fault CharSet
  | .name text =>
    match propertyNamed? (looseName text) with
    | some set => .ok set
    | none => .error .propertyUnknown
  | .value property text => propertyValue (looseName property) (looseName text)

def blankCharacters : CharSet :=
  CharSet.ofText "9-D 20 85 A0 1680 2000-200A 2028-2029 202F 205F 3000"

/-- The set that a class with a letter of its own denotes in Unicode. -/
def ShortClass.members : ShortClass → CharSet
  | .digit => Category.members .nd
  | .space => blankCharacters
  | .word => wordCharacters

/-- The set that a class with a letter of its own denotes in ASCII. -/
def ShortClass.asciiMembers : ShortClass → CharSet
  | .digit => CharSet.ofText "30-39"
  | .space => CharSet.ofText "9-D 20"
  | .word => asciiWordCharacters

/-- The classes of ASCII that have names between colons, each as a written list of intervals. -/
def asciiClasses : List (List Char × String) :=
  [("alnum".toList, "30-39 41-5A 61-7A"), ("alpha".toList, "41-5A 61-7A"),
   ("ascii".toList, "0-7F"), ("blank".toList, "9 20"), ("cntrl".toList, "0-1F 7F"),
   ("digit".toList, "30-39"), ("graph".toList, "21-7E"), ("lower".toList, "61-7A"),
   ("print".toList, "20-7E"), ("punct".toList, "21-2F 3A-40 5B-60 7B-7E"),
   ("space".toList, "9-D 20"), ("upper".toList, "41-5A"),
   ("word".toList, "30-39 41-5A 5F 61-7A"), ("xdigit".toList, "30-39 41-46 61-66")]

end Regex

end Clausal
