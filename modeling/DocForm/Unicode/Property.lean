import DocForm.Unicode.Category
import DocForm.Unicode.CharSet
import DocForm.Unicode.Script
import DocForm.Unicode.Trait

/-! The character properties of Unicode 16 by name: general categories, scripts, and the
yes-or-no properties, some of which follow from others. -/

namespace DocForm.Unicode

def category (name : String) : CharSet := .runs ((categoryCatalog.find? name).getD [])

def categories (names : List String) : CharSet := .unions (names.map category)

def listedTrait (name : String) : CharSet := .runs ((traitCatalog.find? name).getD [])

def letter (_ : Unit) : CharSet := categories ["lu", "ll", "lt", "lm", "lo"]

def mark (_ : Unit) : CharSet := categories ["mn", "mc", "me"]

def assigned (_ : Unit) : CharSet :=
  categories (categoryCatalog.map fun entry => (entry.1.takeWhile (· ≠ ' ')).toString)

def lowercase (_ : Unit) : CharSet := .union (category "ll") (listedTrait "otherlowercase")

def uppercase (_ : Unit) : CharSet := .union (category "lu") (listedTrait "otheruppercase")

def cased (_ : Unit) : CharSet := .unions [lowercase (), uppercase (), category "lt"]

def alphabetic (_ : Unit) : CharSet :=
  .unions [letter (), category "nl", listedTrait "otheralphabetic", listedTrait "otherlowercase",
    listedTrait "otheruppercase"]

/-- Characters that a name may not hold although their category allows it. -/
private def patternCharacters (_ : Unit) : CharSet :=
  .union (listedTrait "patternsyntax") (listedTrait "patternwhitespace")

def identifierStart (_ : Unit) : CharSet :=
  .diff (.unions [letter (), category "nl", listedTrait "otheridstart"]) (patternCharacters ())

def identifierRest (_ : Unit) : CharSet :=
  .union (identifierStart ())
    (.diff (.unions [categories ["mn", "mc", "nd", "pc"], listedTrait "otheridcontinue"])
      (patternCharacters ()))

def graphemeExtend (_ : Unit) : CharSet :=
  .union (categories ["mn", "me"]) (listedTrait "othergraphemeextend")

/-- Letters whose compatibility form may not stand at the start of a name. -/
private def unstableStart : String :=
  "37A E33 EB3 309B-309C FC5E-FC63 FDFA-FDFB FE70-FE7E/2 FF9E-FF9F"

private def unstableRest : String := "37A 309B-309C FC5E-FC63 FDFA-FDFB FE70-FE7E/2"

/-- Punctuation within words, whose case is not looked at. -/
private def wordPunctuation : String :=
  "27 2E 3A B7 387 55F 5F4 2018-2019 2024 2027 FE13 FE52 FE55 FF07 FF0E FF1A"

def derivedTrait? (name : String) : Option CharSet :=
  match name with
  | "alpha" | "alphabetic" => some (alphabetic ())
  | "lower" | "lowercase" => some (lowercase ())
  | "upper" | "uppercase" => some (uppercase ())
  | "cased" => some (cased ())
  | "ci" | "caseignorable" =>
    some (.union (categories ["mn", "me", "cf", "lm", "sk"]) (.ofText wordPunctuation))
  | "cwcm" | "changeswhencasemapped" =>
    some (.unions [listedTrait "cwl", listedTrait "cwu", listedTrait "cwt"])
  | "grbase" | "graphemebase" =>
    some (.diff (assigned ())
      (.union (categories ["cc", "cf", "co", "zl", "zp"]) (graphemeExtend ())))
  | "grext" | "graphemeextend" => some (graphemeExtend ())
  | "ids" | "idstart" => some (identifierStart ())
  | "idc" | "idcontinue" => some (identifierRest ())
  | "xids" | "xidstart" => some (.diff (identifierStart ()) (.ofText unstableStart))
  | "xidc" | "xidcontinue" => some (.diff (identifierRest ()) (.ofText unstableRest))
  | "math" => some (.union (category "sm") (listedTrait "othermath"))
  | _ => none

def trait? (name : String) : Option CharSet :=
  (derivedTrait? name) <|> (traitCatalog.find? name).map .runs

def category? (name : String) : Option CharSet :=
  match name with
  | "any" => some .all
  | "ascii" => some (.range 0 0x7F)
  | "assigned" => some (assigned ())
  | "cn" | "unassigned" => some (.complement (assigned ()))
  | "l" | "letter" => some (letter ())
  | "lc" | "casedletter" => some (categories ["lu", "ll", "lt"])
  | "m" | "mark" | "combiningmark" => some (mark ())
  | "n" | "number" => some (categories ["nd", "nl", "no"])
  | "p" | "punct" | "punctuation" => some (categories ["pc", "pd", "ps", "pe", "pi", "pf", "po"])
  | "s" | "symbol" => some (categories ["sm", "sc", "sk", "so"])
  | "z" | "separator" => some (categories ["zs", "zl", "zp"])
  | "c" | "other" => some (.union (categories ["cc", "cf", "co"]) (.complement (assigned ())))
  | _ => (categoryCatalog.find? name).map .runs

def script? (name : String) : Option CharSet := (scriptCatalog.find? name).map .runs

private def shared (_ : Unit) : CharSet :=
  .unions (sharedCatalog.map fun entry => .ofText entry.2)

/-- The characters that are used with a script. The scripts for common and inherited
characters keep those that no other script uses. -/
def scriptExtension? (name : String) : Option CharSet :=
  (script? name).map fun own =>
    if ["zyyy", "common", "zinh", "inherited", "qaai"].contains name then .diff own (shared ())
    else .union own (.runs ((sharedCatalog.find? name).getD []))

/-- How names of properties are compared: without case, spaces, hyphens and underscores,
and without a leading `is`. Characters beyond ASCII are left out. -/
def looseName (name : List Char) : String :=
  let stripped := match name with
    | 'i' :: 's' :: rest | 'I' :: 's' :: rest | 'i' :: 'S' :: rest | 'I' :: 'S' :: rest => some rest
    | _ => none
  let loosen (cs : List Char) : List Char :=
    (cs.filter fun c => c.toNat < 0x80 && c != ' ' && c != '_' && c != '-').map Char.toLower
  let short := (stripped.map loosen).getD (loosen name)
  String.ofList (if stripped.isSome && short == ['c'] then ['i', 's', 'c'] else short)

def named? (name : List Char) : Option CharSet :=
  let short := looseName name
  trait? short <|> category? short <|> script? short

/-- The characters with a given value of a property. The age of characters and the breaks between
graphemes, words and sentences are not covered: a pattern that names one of them cannot be read. -/
def valued? (property value : List Char) : Option CharSet :=
  let short := looseName value
  match looseName property with
  | "gc" | "generalcategory" => category? short
  | "sc" | "script" => script? short
  | "scx" | "scriptextensions" => scriptExtension? short
  | _ => none

def digitSet : CharSet := category "nd"

def blankSet : CharSet := listedTrait "whitespace"

def wordSet : CharSet :=
  .unions [alphabetic (), mark (), categories ["nd", "pc"], listedTrait "joincontrol"]

end DocForm.Unicode
