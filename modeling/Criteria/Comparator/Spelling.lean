import Criteria.Comparator

/-!
# Spellings as patterns

Inside a filter text a spelling is recognised letter by letter: letter case is
ignored and each space of the spelling stands for any run of blanks. Where
several spellings fit, the longest wins, so the catalog is also listed longest
first, words apart from symbols, and each list can be written out as one pattern
of alternatives.
-/

namespace Criteria

namespace Spelling

/-- Spellings with a letter are words; the others are symbols. -/
def isWord (spelling : Text) : Bool := spelling.any Char.isAlpha

/-- The order of a dictionary, by the numbers of the characters. -/
def dictionaryOrder : Text → Text → Bool
  | [], _ => true
  | _ :: _, [] => false
  | c :: s, d :: t => c.toNat < d.toNat || (c == d && dictionaryOrder s t)

/-- Longer spellings come first, and spellings of one length in the order of a dictionary. -/
def precedes (a b : Text) : Bool :=
  b.length < a.length || (a.length == b.length && dictionaryOrder a b)

def insertLongest (a : Text) : List Text → List Text
  | [] => [a]
  | b :: rest => if precedes a b then a :: b :: rest else b :: insertLongest a rest

def longestFirst (spellings : List Text) : List Text :=
  spellings.foldr insertLongest []

/-- The word spellings of the catalog, longest first. -/
def catalogWords : List Text :=
  longestFirst ((Comparator.all.flatMap Comparator.aliases).filter isWord)

/-- The symbol spellings of the catalog, longest first. -/
def catalogSymbols : List Text :=
  longestFirst ((Comparator.all.flatMap Comparator.aliases).filter fun a => !isWord a)

/-- One pattern for a list of spellings. No spelling of the catalog holds a character
that patterns reserve, so the words stand in it as they are. -/
def alternatives (spellings : List Text) : Text :=
  ['|'].intercalate (spellings.map fun a => "\\s+".toList.intercalate (Text.words a))

/-- Whether a character of a text stands for a letter of a spelling. Letter case is
ignored under simple case folding, which also makes the long s an `s`. -/
def sameLetter (letter c : Char) : Bool :=
  c.toLower == letter || (letter == 's' && c == '\u017F')

/-- Recognises a spelling at the start of a text; gives what was read and what is left.
A space of the spelling takes a whole run of blanks. -/
def read? : Text → Text → Option (Text × Text)
  | [], t => some ([], t)
  | letter :: spelling, t =>
      if letter = ' ' then
        let gap := Text.leadingBlanks t
        if gap.isEmpty then none
        else (read? spelling (Text.trimStart t)).map fun (taken, rest) => (gap ++ taken, rest)
      else match t with
        | [] => none
        | c :: t =>
            if sameLetter letter c then
              (read? spelling t).map fun (taken, rest) => (c :: taken, rest)
            else none

end Spelling

end Criteria
