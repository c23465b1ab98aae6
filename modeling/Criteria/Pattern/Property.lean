import Criteria.Pattern.Property.Age
import Criteria.Pattern.Property.Segmentation

/-!
# Properties by name

A pattern names a set of characters by a name alone, which is that of a general
category, a script, or a property that a character has or lacks, or by a
property and its value. Some sets have a shorthand or a name inside brackets.
-/

namespace Criteria

namespace Property

/-! ## Ages -/

/-- The characters of a version of the Unicode standard: those that it adds and those of all
versions before it. -/
def age? (name : String) : Option CharSet :=
  (ageTable.findIdx? fun entry => entry.1.contains name).map fun i =>
    .unionAll ((ageTable.take (i + 1)).map fun entry => .ofTable entry.2)

/-! ## Lookup -/

/-- The set that a name alone stands for. -/
def find? (name : Text) : Option CharSet :=
  let name := normalize name
  ((binary? name).or (category? name)).or (script? name)

/-- The set that the value of a property stands for. -/
def findValue? (property value : Text) : Option CharSet :=
  let value := normalize value
  match normalize property with
  | "gc" | "generalcategory" => category? value
  | "sc" | "script" => script? value
  | "scx" | "scriptextensions" => scriptExtension? value
  | "age" => age? value
  | "gcb" | "graphemeclusterbreak" => clusterBreak? value
  | "wb" | "wordbreak" => wordBreak? value
  | "sb" | "sentencebreak" => sentenceBreak? value
  | _ => none

/-! ## The sets with a shorthand -/

def digits : CharSet := category "nd"

def blanks : CharSet := listed "whitespace"

/-- The characters of words: letters, marks, digits, connecting punctuation, and the two
joiners. -/
def wordChars : CharSet :=
  .unionAll [alphabetic, categories ["mn", "mc", "me", "nd", "pc"], listed "joincontrol"]

def asciiDigits : CharSet := .ofTable "30-39"

def asciiBlanks : CharSet := .ofTable "9-D 20"

def asciiWordChars : CharSet := .ofTable "30-39 41-5A 5F 61-7A"

/-- The sets that have a name inside brackets. -/
def bracketName? (name : String) : Option CharSet :=
  match name with
  | "alnum" => some (.ofTable "30-39 41-5A 61-7A")
  | "alpha" => some (.ofTable "41-5A 61-7A")
  | "ascii" => some (.ofTable "0-7F")
  | "blank" => some (.ofTable "9 20")
  | "cntrl" => some (.ofTable "0-1F 7F")
  | "digit" => some asciiDigits
  | "graph" => some (.ofTable "21-7E")
  | "lower" => some (.ofTable "61-7A")
  | "print" => some (.ofTable "20-7E")
  | "punct" => some (.ofTable "21-2F 3A-40 5B-60 7B-7E")
  | "space" => some asciiBlanks
  | "upper" => some (.ofTable "41-5A")
  | "word" => some asciiWordChars
  | "xdigit" => some (.ofTable "30-39 41-46 61-66")
  | _ => none

end Property

end Criteria
