import Criteria.Comparator.Spelling

/-!
# The three parts of a filter text

A filter text reads as a sentence: a subject, a comparator, and the controls that
the comparator works with. The comparator stands at the first place, after at
least one character of subject, where a spelling of the catalog is found:

* a word spelling needs a blank before it, and a blank or the end of the text
  after it, so a word is never found inside a longer one;
* a symbol spelling needs neither;
* of the spellings that fit at one place a word comes before a symbol, and a
  longer spelling before a shorter one;
* the blanks on both sides belong to the comparator's part.
-/

namespace Criteria

/-- The three parts; put together in order they are the whole text. -/
structure Sentence where
  subject : Text
  operator : Text
  controls : Text
deriving DecidableEq, Repr

namespace Sentence

/-- Takes the blanks that follow a spelling into the comparator's part. -/
def closeOperator (taken rest : Text) : Text × Text :=
  (taken ++ Text.leadingBlanks rest, Text.trimStart rest)

/-- A word has to be followed by a blank or by nothing. -/
def atWordEnd : Text → Bool
  | [] => true
  | c :: _ => Text.isBlank c

/-- A word spelling at the start of a text, right after the blanks before it. -/
def readWord? (blanks t : Text) : Option (Text × Text) :=
  if blanks.isEmpty then none
  else Spelling.catalogWords.findSome? fun spelling =>
    match Spelling.read? spelling t with
    | some (taken, rest) =>
        if atWordEnd rest then some (closeOperator (blanks ++ taken) rest) else none
    | none => none

/-- A symbol spelling at the start of a text, right after the blanks before it. -/
def readSymbol? (blanks t : Text) : Option (Text × Text) :=
  Spelling.catalogSymbols.findSome? fun spelling =>
    (Spelling.read? spelling t).map fun (taken, rest) => closeOperator (blanks ++ taken) rest

/-- The comparator's part at the start of a text, and what follows it. -/
def readOperator? (t : Text) : Option (Text × Text) :=
  let blanks := Text.leadingBlanks t
  let rest := Text.trimStart t
  (readWord? blanks rest).or (readSymbol? blanks rest)

def prependSubject (c : Char) (parts : Sentence) : Sentence :=
  { parts with subject := c :: parts.subject }

/-- Splits a text whose subject may be empty: at the first place where a comparator
stands. -/
def splitAnywhere? : Text → Option Sentence
  | [] => (readOperator? []).map fun (operator, controls) => ⟨[], operator, controls⟩
  | c :: t =>
      match readOperator? (c :: t) with
      | some (operator, controls) => some ⟨[], operator, controls⟩
      | none => (splitAnywhere? t).map (prependSubject c)

/-- Splits a filter text: its first character always belongs to the subject. -/
def split? : Text → Option Sentence
  | [] => none
  | c :: t => (splitAnywhere? t).map (prependSubject c)

/-- The same split as one pattern, with a group for each of the parts. -/
def grammar : Text :=
  "(?is)^(.+?)(\\s+(?:".toList ++ Spelling.alternatives Spelling.catalogWords ++
    ")(?:\\s+|$)|\\s*(?:".toList ++ Spelling.alternatives Spelling.catalogSymbols ++
    ")\\s*)(.*)$".toList

end Sentence

end Criteria
