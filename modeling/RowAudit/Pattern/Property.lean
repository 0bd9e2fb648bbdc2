import RowAudit.Pattern.Fault
import RowAudit.Pattern.Property.Boundary
import RowAudit.Text.Table.Ages
import RowAudit.Text.Table.SharedScripts

/-!
# Properties that patterns may name

A property is named by itself (`\p{Alphabetic}`), by the value of the general category or the
script (`\p{Lu}`, `\p{Greek}`), or as a property with a value (`\p{Script=Greek}`). Names are
compared without regard to case, blanks, hyphens, underscores and a leading `is`. Patterns know the
characters of Unicode 16.
-/

namespace RowAudit.Pattern.Property

open RowAudit.Text

/-! ## Names -/

/-- The characters of a name that count, in lower case. -/
def essential (cs : List Char) : List Char :=
  (cs.filter fun c => c.toNat < 128 && c != ' ' && c != '_' && c != '-').map Char.toLower

/-- The form in which names are compared. The name `isc` keeps its beginning. -/
def normal (cs : List Char) : String :=
  let marked := (cs.take 2).map Char.toLower == ['i', 's']
  let rest := essential (if marked then cs.drop 2 else cs)
  if marked && rest == ['c'] then "isc" else String.ofList rest

/-- What a name stands for in a list of named things. -/
def named? {α : Type} (things : List (List String × α)) (name : String) : Option α :=
  (things.find? (·.1.contains name)).map Prod.snd

/-! ## Scripts and ages -/

/-- The script with a name. -/
def script? (name : String) : Option CharSet := (named? Table.scripts name).map .table

/-- The characters that scripts share. -/
def shared : CharSet := .table (Table.sharedScripts.flatMap Prod.fst)

/-- The characters used with a script: its own, unless they are shared, and those shared by it. -/
def usedWith? (name : String) : Option CharSet :=
  (Table.scripts.find? (·.1.contains name)).map fun script =>
    let groups := Table.sharedScripts.filter fun group => group.2.any script.1.contains
    .union (.diff (.table script.2) shared) (.table (groups.flatMap Prod.fst))

/-- The characters that a version of Unicode knows: those of the versions up to it. -/
def age? (name : String) : Option CharSet :=
  (named? Table.ages name).map fun added =>
    .table ((Table.ages.takeWhile (!·.1.contains name)).flatMap Prod.snd ++ added)

/-! ## Properties with a value -/

/-- A property whose values are known. -/
inductive Valued where
  | age
  | category
  | cluster
  | script
  | usedScript
  | sentence
  | word
  deriving DecidableEq, Repr

/-- The properties with a value and their names. -/
def valuedNames : List (List String × Valued) :=
  [(["age"], .age),
   (["gc", "generalcategory"], .category),
   (["gcb", "graphemeclusterbreak"], .cluster),
   (["sc", "script"], .script),
   (["scx", "scriptextensions"], .usedScript),
   (["sb", "sentencebreak"], .sentence),
   (["wb", "wordbreak"], .word)]

/-- The characters for which a property has a value. -/
def Valued.set? : Valued → String → Option CharSet
  | age, value => age? value
  | category, value => named? categories value
  | cluster, value => named? clusterParts value
  | script, value => script? value
  | usedScript, value => usedWith? value
  | sentence, value => named? sentenceParts value
  | word, value => named? wordParts value

/-- Other properties that are known, without characters here. -/
def otherNames : List String :=
  ["bc", "bidiclass", "bidimirroringglyph", "bidipairedbracket", "bidipairedbrackettype", "blk",
   "block", "bmg", "bpb", "bpt", "canonicalcombiningclass", "casefolding", "ccc", "ce", "cf",
   "changeswhennfkccasefolded", "cjkaccountingnumeric", "cjkcompatibilityvariant", "cjkiicore",
   "cjkirggsource", "cjkirghsource", "cjkirgjsource", "cjkirgkpsource", "cjkirgksource",
   "cjkirgmsource", "cjkirgssource", "cjkirgtsource", "cjkirguksource", "cjkirgusource",
   "cjkirgvsource", "cjkothernumeric", "cjkprimarynumeric", "cjkrsunicode", "compex",
   "compositionexclusion", "cwkcf", "decompositionmapping", "decompositiontype", "dm", "dt", "ea",
   "eastasianwidth", "equideo", "equivalentunifiedideograph", "expandsonnfc", "expandsonnfd",
   "expandsonnfkc", "expandsonnfkd", "fcnfkc", "fcnfkcclosure", "fullcompositionexclusion",
   "hangulsyllabletype", "hst", "incb", "indicconjunctbreak", "indicpositionalcategory",
   "indicsyllabiccategory", "inpc", "insc", "isc", "jamoshortname", "jg", "joininggroup",
   "joiningtype", "jsn", "jt", "kaccountingnumeric", "kcompatibilityvariant", "kehcat", "kehdesc",
   "kehhg", "kehifao", "kehjsesh", "kehnomirror", "kehnorotate", "kiicore", "kirggsource",
   "kirghsource", "kirgjsource", "kirgkpsource", "kirgksource", "kirgmsource", "kirgssource",
   "kirgtsource", "kirguksource", "kirgusource", "kirgvsource", "kothernumeric", "kprimarynumeric",
   "krsunicode", "lb", "lc", "linebreak", "lowercasemapping", "na", "na1", "name", "namealias",
   "nfcqc", "nfcquickcheck", "nfdqc", "nfdquickcheck", "nfkccasefold", "nfkccf", "nfkcqc",
   "nfkcquickcheck", "nfkcscf", "nfkcsimplecasefold", "nfkdqc", "nfkdquickcheck", "nt",
   "numerictype", "numericvalue", "nv", "ocomment", "scf", "sfc", "simplecasefolding",
   "simplelowercasemapping", "simpletitlecasemapping", "simpleuppercasemapping", "slc", "stc",
   "suc", "tc", "titlecasemapping", "uc", "unicode1name", "unicoderadicalstroke",
   "uppercasemapping", "urs", "verticalorientation", "vo", "xonfc", "xonfd", "xonfkc", "xonfkd"]

/-! ## Look-up -/

/-- Names that mean a category although a property has them too. -/
def preferredCategories : List String := ["cf", "sc", "lc"]

/-- Values that are known and have no characters: surrogates are none, no character is of an unknown
script, and none is common to the two Japanese syllabaries alone. -/
def emptyValues : List String :=
  surrogateNames ++ ["hrkt", "katakanaorhiragana", "unknown", "zzzz"]

/-- The characters with a property, by its name or the name of a category or script. -/
def ofName (text : List Char) : Except Cause CharSet :=
  let name := normal text
  let property :=
    if preferredCategories.contains name then none
    else if (named? valuedNames name).isSome || otherNames.contains name then
      some (.error .propertyNotFound)
    else (named? binary name).map .ok
  match property with
  | some found => found
  | none =>
    match (named? categories name).or (script? name) with
    | some set => .ok set
    | none =>
      .error (if emptyValues.contains name then .propertyValueNotFound else .propertyNotFound)

/-- The characters with a value of a property. -/
def ofValue (property value : List Char) : Except Cause CharSet :=
  let name := normal property
  match named? valuedNames name with
  | some valued =>
    match valued.set? (normal value) with
    | some set => .ok set
    | none => .error .propertyValueNotFound
  | none =>
    if otherNames.contains name || (named? binary name).isSome then .error .propertyValueNotFound
    else .error .propertyNotFound

end RowAudit.Pattern.Property
