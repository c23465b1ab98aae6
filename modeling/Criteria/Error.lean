import Criteria.Comparator

/-!
# What can be wrong with a filter

Each error carries its cause and the text at fault; `FilterError.message` words
it.
-/

namespace Criteria

/-- Why a text is no filter. -/
inductive FilterFault where
  | blank
  | noComparator
  | blankSubject
deriving DecidableEq, Repr

/-- Why a control text is no pair of bounds. -/
inductive RangeFault where
  | unbracketed
  | count (found : Nat)
deriving DecidableEq, Repr

inductive FilterError where
  | malformedFilter (filter : Text) (fault : FilterFault)
  | unknownComparator (spelling : Text)
  | malformedList (controls : Text)
  | malformedRange (controls : Text) (fault : RangeFault)
  /-- The comparator may not be used in the mode of the evaluation. -/
  | unsupported (comparator : Comparator)
  /-- The pattern of a comparator that matches patterns cannot be read. -/
  | invalidPattern (pattern : Text)
deriving DecidableEq, Repr

def FilterFault.message : FilterFault → Text
  | blank => "null or blank".toList
  | noComparator => "does not match required format".toList
  | blankSubject => "empty/blank subject".toList

def RangeFault.message : RangeFault → Text
  | unbracketed => "expected [min|max]".toList
  | count found => "exactly 2 values (low, high) required, found ".toList ++ Nat.toDigits 10 found

namespace FilterError

/-- How an error names the comparator that holds a pattern. -/
def patternComparator (pattern : Text) : Text :=
  Comparator.matching.symbol ++ ' ' :: pattern

def message : FilterError → Text
  | malformedFilter filter fault =>
      "invalid filter '".toList ++ filter ++ "': ".toList ++ fault.message
  | unknownComparator spelling => "unknown comparator: '".toList ++ spelling ++ ['\'']
  | malformedList controls =>
      "invalid list controls '".toList ++ controls ++ "': expected [item|item|...]".toList
  | malformedRange controls fault =>
      "invalid range controls '".toList ++ controls ++ "': ".toList ++ fault.message
  | unsupported comparator =>
      "comparator '".toList ++ comparator.symbol ++ "' is not applicable here".toList
  | invalidPattern pattern =>
      "invalid comparator '".toList ++ patternComparator pattern ++
        "': not a valid pattern".toList

end FilterError

end Criteria
