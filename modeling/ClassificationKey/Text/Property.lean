import ClassificationKey.Text.Category
import ClassificationKey.Text.CharClass
import ClassificationKey.Text.Script
import ClassificationKey.Text.Trait

/-!
# Properties by name

A property is asked for by the name of a trait, of a general category or of a script, or by a pair
of property and value. Names are compared loosely: case, blanks, low lines, hyphens and a leading
`is` do not count.

Words are made of letters and digits: the characters that are `Alphabetic` or of general category
`Nd`, `Nl` or `No`. ASCII is decided by comparison, the rest by the tables.
-/

namespace ClassificationKey.Text

/-! ### Derived traits -/

/-- The characters of some categories. -/
def ofCategories (codes : List String) : CharClass := .points (categories codes)

def ofTrait (name : String) : CharClass := .points (trait name)

def lowercase : CharClass := .union (ofCategories ["ll"]) (ofTrait "olower")

def uppercase : CharClass := .union (ofCategories ["lu"]) (ofTrait "oupper")

def cased : CharClass := .unions [lowercase, uppercase, ofCategories ["lt"]]

def alphabetic : CharClass :=
  .points ((categories ["ll", "lu", "lt", "lm", "lo", "nl"]).union (trait "oalpha"))

def graphemeExtend : CharClass := .union (ofCategories ["me", "mn"]) (ofTrait "ogrext")

def graphemeBase : CharClass :=
  .diff (.points assigned)
    (.union (ofCategories ["cc", "cf", "co", "zl", "zp"]) graphemeExtend)

/-- The characters of patterns, which identifiers leave out. -/
def patternUse : CharClass := .union (ofTrait "patsyn") (ofTrait "patws")

def identifierStart : CharClass :=
  .diff (.union (ofCategories ["lu", "ll", "lt", "lm", "lo", "nl"]) (ofTrait "oids")) patternUse

def identifierContinue : CharClass :=
  .union identifierStart
    (.diff (.union (ofCategories ["mn", "mc", "nd", "pc"]) (ofTrait "oidc")) patternUse)

/-- The characters that make a word in a pattern. -/
def patternWord : CharClass :=
  .unions [alphabetic, ofCategories ["mn", "mc", "me", "nd", "pc"], ofTrait "joinc"]

/-- The traits that are defined from others, by short and long name. -/
def derivedTraits : List (List String × CharClass) :=
  [(["lower", "lowercase"], lowercase),
    (["upper", "uppercase"], uppercase),
    (["cased"], cased),
    (["alpha", "alphabetic"], alphabetic),
    (["math"], .union (ofCategories ["sm"]) (ofTrait "omath")),
    (["ci", "caseignorable"],
      .union (ofCategories ["mn", "me", "cf", "lm", "sk"]) (.points otherCaseIgnorable)),
    (["grext", "graphemeextend"], graphemeExtend),
    (["grbase", "graphemebase"], graphemeBase),
    (["ids", "idstart"], identifierStart),
    (["idc", "idcontinue"], identifierContinue),
    (["xids", "xidstart"], .diff identifierStart (.points unstableStart)),
    (["xidc", "xidcontinue"], .diff identifierContinue (.points unstableContinue))]

/-! ### Categories by name -/

/-- The names of the categories and of their groups, with the codes they comprise. -/
def categoryNames : List (List String × List String) :=
  [(["lu", "uppercaseletter"], ["lu"]), (["ll", "lowercaseletter"], ["ll"]),
    (["lt", "titlecaseletter"], ["lt"]), (["lc", "casedletter"], ["lu", "ll", "lt"]),
    (["lm", "modifierletter"], ["lm"]), (["lo", "otherletter"], ["lo"]),
    (["l", "letter"], ["lu", "ll", "lt", "lm", "lo"]),
    (["mn", "nonspacingmark"], ["mn"]), (["mc", "spacingmark"], ["mc"]),
    (["me", "enclosingmark"], ["me"]), (["m", "mark", "combiningmark"], ["mn", "mc", "me"]),
    (["nd", "decimalnumber", "digit"], ["nd"]), (["nl", "letternumber"], ["nl"]),
    (["no", "othernumber"], ["no"]), (["n", "number"], ["nd", "nl", "no"]),
    (["pc", "connectorpunctuation"], ["pc"]), (["pd", "dashpunctuation"], ["pd"]),
    (["ps", "openpunctuation"], ["ps"]), (["pe", "closepunctuation"], ["pe"]),
    (["pi", "initialpunctuation"], ["pi"]), (["pf", "finalpunctuation"], ["pf"]),
    (["po", "otherpunctuation"], ["po"]),
    (["p", "punctuation", "punct"], ["pc", "pd", "ps", "pe", "pi", "pf", "po"]),
    (["sm", "mathsymbol"], ["sm"]), (["sc", "currencysymbol"], ["sc"]),
    (["sk", "modifiersymbol"], ["sk"]), (["so", "othersymbol"], ["so"]),
    (["s", "symbol"], ["sm", "sc", "sk", "so"]),
    (["zs", "spaceseparator"], ["zs"]), (["zl", "lineseparator"], ["zl"]),
    (["zp", "paragraphseparator"], ["zp"]), (["z", "separator"], ["zs", "zl", "zp"]),
    (["cc", "control", "cntrl"], ["cc"]), (["cf", "format"], ["cf"]),
    (["co", "privateuse"], ["co"])]

/-- The class of a category or of a group of categories. -/
def categoryClass? (name : String) : Option CharClass :=
  if name = "any" then some (.complement .empty)
  else if name = "assigned" then some (.points assigned)
  else if name = "ascii" then some (.points (.span 0 127))
  else if name = "cn" || name = "unassigned" then some (.complement (.points assigned))
  else if name = "c" || name = "other" then
    some (.union (ofCategories ["cc", "cf", "co"]) (.complement (.points assigned)))
  else (categoryNames.find? fun entry => entry.1.contains name).map fun entry =>
    ofCategories entry.2

/-! ### Looking up a property -/

/-- The form in which names are compared. -/
def looseName (cs : List Char) : String :=
  let body := match cs with
    | a :: b :: rest => if a.toLower = 'i' && b.toLower = 's' then rest else cs
    | _ => cs
  let kept := (body.filter fun c =>
    c.toNat < 128 && c != ' ' && c != '_' && c != '-').map Char.toLower
  if kept = ['c'] && body ≠ cs then "isc" else String.ofList kept

/-- The class of a script. -/
def scriptClass? (name : String) : Option CharClass := (script? name).map fun s => .points s.2

/-- The class of the characters that a script uses. Characters shared among scripts are neither
`Common` nor `Inherited` here. -/
def scriptExtensionClass? (name : String) : Option CharClass :=
  (script? name).map fun s =>
    if s.1 = "zyyy" || s.1 = "zinh" then .diff (.points s.2) (.points sharedAmongScripts)
    else .points (s.2.union (scriptExtension s.1))

/-- The class of the trait of a name. -/
def traitClass? (name : String) : Option CharClass :=
  ((trait? name).map CharClass.points).or
    ((derivedTraits.find? fun entry => entry.1.contains name).map (·.2))

/-- The class of a trait, a category or a script; the first that has the name is meant. -/
def propertyClass? (cs : List Char) : Option CharClass :=
  let name := looseName cs
  ((traitClass? name).or (categoryClass? name)).or (scriptClass? name)

/-- The class of a property's value: a category, a script, or the extensions of a script. -/
def propertyValueClass? (property value : List Char) : Option CharClass :=
  let property := looseName property
  let value := looseName value
  if property = "gc" || property = "generalcategory" then categoryClass? value
  else if property = "sc" || property = "script" then scriptClass? value
  else if property = "scx" || property = "scriptextensions" then scriptExtensionClass? value
  else none

/-! ### Words -/

/-- The numeric characters of every script. -/
def numeric : CharClass := ofCategories ["nd", "nl", "no"]

def isAlphabetic (c : Char) : Bool :=
  if c.toNat < 128 then c.isAlpha else alphabetic.has c.toNat

/-- Letters and digits of every script. -/
def isAlphanumeric (c : Char) : Bool :=
  if c.toNat < 128 then c.isAlphanum else alphabetic.has c.toNat || numeric.has c.toNat

/-- The characters of a word: letters, digits and the low line. -/
def isWordChar (c : Char) : Bool := c == '_' || isAlphanumeric c

theorem isAlphanumeric_of_isAlphanum {c : Char} (h : c.isAlphanum = true) :
    isAlphanumeric c = true := by
  have hc : c.toNat < 128 := by
    have hranges : (decide (65 ≤ c.val ∧ c.val ≤ 90) ||
        (decide (97 ≤ c.val) && decide (c.val ≤ 122)) ||
        (decide (48 ≤ c.val) && decide (c.val ≤ 57))) = true := h
    have hn : c.toNat = c.val.toNat := rfl
    simp [UInt32.le_iff_toNat_le] at hranges
    omega
  simp [isAlphanumeric, hc, h]

end ClassificationKey.Text
