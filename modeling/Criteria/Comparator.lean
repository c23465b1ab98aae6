import Criteria.LetterCase

/-!
# The catalog of comparators

A comparator is the verb of a filter. The catalog says, for each of the
twenty-one, how it may be written, which shape of controls it takes, whether it
compares numbers, and in which evaluation modes it may be used. `Comparator.find?`
reads a comparator back from any of its spellings.
-/

namespace Criteria

inductive Comparator where
  | any
  | equal
  | notEqual
  | greater
  | greaterOrEqual
  | lesser
  | lesserOrEqual
  | is
  | isNot
  | isIn
  | notIn
  | between
  | startsWith
  | endsWith
  | contain
  | matching
  | hasLengthOf
  | isEmpty
  | isNotEmpty
  | isDefined
  | isUndefined
deriving DecidableEq, Repr

/-- The shape of the control text a comparator reads. -/
inductive Arity where
  /-- The controls are not read. -/
  | none
  | scalar
  /-- A bracketed list `[a|b|c]`. -/
  | list
  /-- A bracketed pair of bounds `[min|max]`. -/
  | range
deriving DecidableEq, Repr

/-- The evaluation modes a comparator is limited to. -/
inductive ModeLimit where
  | any
  | contextOnly
  /-- No comparator of the catalog is limited so. -/
  | literalOnly
deriving DecidableEq, Repr

namespace Comparator

/-- The comparators in the order of the catalog. -/
def all : List Comparator :=
  [any, equal, notEqual, greater, greaterOrEqual, lesser, lesserOrEqual, is, isNot, isIn, notIn,
    between, startsWith, endsWith, contain, matching, hasLengthOf, isEmpty, isNotEmpty, isDefined,
    isUndefined]

/-- The spellings of a comparator in lower case, with single spaces between words. -/
def aliases : Comparator → List Text
  | any => ["match any".toList]
  | equal => ["=".toList, "==".toList]
  | notEqual => ["!=".toList, "<>".toList]
  | greater => [">".toList, "greater than".toList]
  | greaterOrEqual => [">=".toList, "greater or equal".toList]
  | lesser => ["<".toList, "less than".toList]
  | lesserOrEqual => ["<=".toList, "less or equal".toList]
  | is => ["is".toList]
  | isNot => ["is not".toList]
  | isIn => ["in".toList]
  | notIn => ["not in".toList]
  | between => ["between".toList]
  | startsWith => ["start with".toList, "starts with".toList]
  | endsWith => ["end with".toList, "ends with".toList]
  | contain => ["contain".toList, "contains".toList]
  | matching => ["match".toList]
  | hasLengthOf => ["has length of".toList]
  | isEmpty => ["is empty".toList]
  | isNotEmpty => ["is not empty".toList]
  | isDefined => ["is defined".toList]
  | isUndefined => ["is undefined".toList]

/-- The spelling a filter is displayed with: the first of its spellings, and capitals
for the comparator that always holds. -/
def symbol : Comparator → Text
  | any => "MATCH ANY".toList
  | c => c.aliases.headD []

def arity : Comparator → Arity
  | any | isEmpty | isNotEmpty | isDefined | isUndefined => .none
  | is | isNot | isIn | notIn | contain => .list
  | between => .range
  | _ => .scalar

/-- Whether both sides have to be numbers for the comparison to hold. -/
def isNumeric : Comparator → Bool
  | greater | greaterOrEqual | lesser | lesserOrEqual | between | hasLengthOf => true
  | _ => false

/-- A comparator that asks whether a name is defined needs a context to ask. -/
def mode : Comparator → ModeLimit
  | isDefined | isUndefined => .contextOnly
  | _ => .any

/-- The word by which data formats name a comparator. -/
def tag : Comparator → String
  | any => "Any"
  | equal => "Equal"
  | notEqual => "NotEqual"
  | greater => "Greater"
  | greaterOrEqual => "GreaterOrEqual"
  | lesser => "Lesser"
  | lesserOrEqual => "LesserOrEqual"
  | is => "Is"
  | isNot => "IsNot"
  | isIn => "In"
  | notIn => "NotIn"
  | between => "Between"
  | startsWith => "StartsWith"
  | endsWith => "EndsWith"
  | contain => "Contain"
  | matching => "Match"
  | hasLengthOf => "HasLengthOf"
  | isEmpty => "IsEmpty"
  | isNotEmpty => "IsNotEmpty"
  | isDefined => "IsDefined"
  | isUndefined => "IsUndefined"

def ofTag? (tag : String) : Option Comparator :=
  all.find? fun c => c.tag == tag

/-- The comparator with the given spelling, whatever its letter case and blanks. -/
def find? (spelling : Text) : Option Comparator :=
  let wanted := Text.lowerCase ([' '].intercalate (Text.words spelling))
  all.find? fun c => c.aliases.contains wanted

end Comparator

end Criteria
