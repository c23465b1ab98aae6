import Criteria.Pattern.CharSet
import Criteria.Pattern.Property.Binary
import Criteria.Pattern.Property.Category
import Criteria.Pattern.Property.Script

/-!
# Categories, scripts and binary properties

The sets of characters that a general category, a script, or a property that a
character has or lacks stands for. A name is compared without its letter case,
blanks, underscores and hyphens, and an `is` before it does not count.
-/

namespace Criteria

namespace Property

/-- The form in which names are compared. Characters outside ASCII are dropped, and `isc`
stays whole, since it abbreviates a name of its own. -/
def normalize (name : Text) : String :=
  let core (t : Text) : Text :=
    Text.lower (t.filter fun c => c.toNat < 0x80 && !(" _-".toList.contains c))
  String.ofList <| match name with
    | i :: s :: rest =>
        if i.toLower = 'i' ∧ s.toLower = 's' then
          if core rest = ['c'] then "isc".toList else core rest
        else core name
    | _ => core name

/-! ## General categories -/

/-- The characters that some category of the table holds. -/
def assigned : CharSet := .unionAll (categoryTable.map fun entry => .ofTable entry.2)

def category (code : String) : CharSet :=
  if code = "cn" then assigned.complement
  else CharSet.ofTable ((categoryTable.lookup code).getD "")

def categories (codes : List String) : CharSet := .unionAll (codes.map category)

/-- The names of categories and of groups of categories, with the codes they stand for. -/
def categoryNames : List (List String × List String) := [
  (["l", "letter"], ["lu", "ll", "lt", "lm", "lo"]),
  (["lc", "casedletter"], ["lu", "ll", "lt"]),
  (["lu", "uppercaseletter"], ["lu"]),
  (["ll", "lowercaseletter"], ["ll"]),
  (["lt", "titlecaseletter"], ["lt"]),
  (["lm", "modifierletter"], ["lm"]),
  (["lo", "otherletter"], ["lo"]),
  (["m", "mark", "combiningmark"], ["mn", "mc", "me"]),
  (["mn", "nonspacingmark"], ["mn"]),
  (["mc", "spacingmark"], ["mc"]),
  (["me", "enclosingmark"], ["me"]),
  (["n", "number"], ["nd", "nl", "no"]),
  (["nd", "decimalnumber", "digit"], ["nd"]),
  (["nl", "letternumber"], ["nl"]),
  (["no", "othernumber"], ["no"]),
  (["p", "punctuation", "punct"], ["pc", "pd", "ps", "pe", "pi", "pf", "po"]),
  (["pc", "connectorpunctuation"], ["pc"]),
  (["pd", "dashpunctuation"], ["pd"]),
  (["ps", "openpunctuation"], ["ps"]),
  (["pe", "closepunctuation"], ["pe"]),
  (["pi", "initialpunctuation"], ["pi"]),
  (["pf", "finalpunctuation"], ["pf"]),
  (["po", "otherpunctuation"], ["po"]),
  (["s", "symbol"], ["sm", "sc", "sk", "so"]),
  (["sm", "mathsymbol"], ["sm"]),
  (["sc", "currencysymbol"], ["sc"]),
  (["sk", "modifiersymbol"], ["sk"]),
  (["so", "othersymbol"], ["so"]),
  (["z", "separator"], ["zs", "zl", "zp"]),
  (["zs", "spaceseparator"], ["zs"]),
  (["zl", "lineseparator"], ["zl"]),
  (["zp", "paragraphseparator"], ["zp"]),
  (["c", "other"], ["cc", "cf", "cn", "co"]),
  (["cc", "control", "cntrl"], ["cc"]),
  (["cf", "format"], ["cf"]),
  (["cn", "unassigned"], ["cn"]),
  (["co", "privateuse"], ["co"])]

def category? (name : String) : Option CharSet :=
  if name = "any" then some .full
  else if name = "assigned" then some assigned
  else if name = "ascii" then some (.ofCodes 0 0x7F)
  else (categoryNames.find? fun entry => entry.1.contains name).map fun entry =>
    categories entry.2

/-! ## Scripts -/

def script? (name : String) : Option CharSet :=
  (scriptTable.find? fun entry => entry.1.contains name).map fun entry => .ofTable entry.2

/-- The characters that a script uses, shared ones included. -/
def scriptExtension? (name : String) : Option CharSet :=
  (scriptTable.find? fun entry => entry.1.contains name).map fun entry =>
    .ofTable ((scriptExtensionTable.lookup (entry.1.headD "")).getD entry.2)

/-! ## Properties that a character has or lacks -/

def listed (name : String) : CharSet :=
  match binaryTable.find? fun entry => entry.1.contains name with
  | some entry => .ofTable entry.2
  | none => .empty

def lowercase : CharSet := (category "ll").union (listed "otherlowercase")

def uppercase : CharSet := (category "lu").union (listed "otheruppercase")

/-- The letters that have a case. -/
def cased : CharSet := .unionAll [lowercase, uppercase, category "lt"]

def alphabetic : CharSet :=
  .unionAll [lowercase, uppercase, categories ["lt", "lm", "lo", "nl"], listed "otheralphabetic"]

def graphemeExtend : CharSet :=
  (categories ["me", "mn"]).union (listed "othergraphemeextend")

/-- Marks, signs and the punctuation inside words, which letter case does not see. -/
def caseIgnorable : CharSet :=
  (categories ["mn", "me", "cf", "lm", "sk"]).union
    (.ofTable "27 2E 3A B7 387 55F 5F4 2018-2019 2024 2027 FE13 FE52 FE55 FF07 FF0E FF1A")

def idStart : CharSet :=
  ((categories ["lu", "ll", "lt", "lm", "lo", "nl"]).union (listed "otheridstart")).diff
    ((listed "patternsyntax").union (listed "patternwhitespace"))

def idContinue : CharSet :=
  (CharSet.unionAll [idStart, categories ["mn", "mc", "nd", "pc"], listed "otheridcontinue"]).diff
    ((listed "patternsyntax").union (listed "patternwhitespace"))

/-- What the start of an identifier loses for the sake of normalization. -/
def notClosedStart : CharSet :=
  .ofTable "37A E33 EB3 309B-309C FC5E-FC63 FDFA-FDFB FE70-FE7E/2 FF9E-FF9F"

/-- What the rest of an identifier loses for the sake of normalization. -/
def notClosedContinue : CharSet :=
  .ofTable "37A 309B-309C FC5E-FC63 FDFA-FDFB FE70-FE7E/2"

def defaultIgnorable : CharSet :=
  (CharSet.unionAll
    [listed "otherdefaultignorablecodepoint", category "cf", listed "variationselector"]).diff
    (.unionAll [listed "whitespace", listed "prependedconcatenationmark",
      .ofTable "FFF9-FFFB 13430-1343F"])

def graphemeBase : CharSet :=
  (assigned.diff (categories ["cc", "cf", "co", "zl", "zp"])).diff graphemeExtend

/-- The properties that follow from others. -/
def derived? (name : String) : Option CharSet :=
  match name with
  | "alphabetic" | "alpha" => some alphabetic
  | "lowercase" | "lower" => some lowercase
  | "uppercase" | "upper" => some uppercase
  | "cased" => some cased
  | "caseignorable" | "ci" => some caseIgnorable
  | "changeswhencasemapped" | "cwcm" =>
      some (.unionAll [listed "cwl", listed "cwt", listed "cwu"])
  | "math" => some ((category "sm").union (listed "othermath"))
  | "graphemeextend" | "grext" => some graphemeExtend
  | "graphemebase" | "grbase" => some graphemeBase
  | "defaultignorablecodepoint" | "di" => some defaultIgnorable
  | "idstart" | "ids" => some idStart
  | "idcontinue" | "idc" => some idContinue
  | "xidstart" | "xids" => some (idStart.diff notClosedStart)
  | "xidcontinue" | "xidc" => some (idContinue.diff notClosedContinue)
  | _ => none

def binary? (name : String) : Option CharSet :=
  (derived? name).or
    ((binaryTable.find? fun entry => entry.1.contains name).map fun entry => .ofTable entry.2)

end Property

end Criteria
