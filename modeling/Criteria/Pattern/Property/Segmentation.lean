import Criteria.Pattern.Property.Basic

/-!
# Segmentation

The classes by which the Unicode standard finds where a character as the user
sees it, a word or a sentence ends. A class follows from other properties, with
some characters more or less that the standard lists. The rest of the characters
has no class of its own.
-/

namespace Criteria

namespace Property

def carriageReturn : CharSet := .ofTable "D"

def lineFeed : CharSet := .ofTable "A"

def zeroWidthJoiner : CharSet := .ofTable "200D"

def spacingMarks : CharSet := category "mc"

/-- The script of a name, where the name is known to be one. -/
def scriptNamed (name : String) : CharSet := (script? name).getD .empty

/-! ## Clusters of characters -/

def clusterExtend : CharSet := graphemeExtend.union (listed "emojimodifier")

/-- Controls, formats and what is kept for them; these stand alone. -/
def clusterControl : CharSet :=
  ((categories ["cc", "cf", "zl", "zp"]).union ((category "cn").inter defaultIgnorable)).diff
    (.unionAll [carriageReturn, lineFeed, zeroWidthJoiner, graphemeExtend,
      listed "prependedconcatenationmark"])

/-- Vowel signs that stand after the letter of a cluster. Those of a few scripts begin a
cluster of their own. -/
def clusterSpacingMark : CharSet :=
  (spacingMarks.diff (clusterExtend.union (.ofTable
    "102B-102C 1038 1062-1064 1067-106D 1083 1087-108C 108F 109A-109C 1A61 1A63-1A64 AA7B
     AA7D 11720-11721"))).union (.ofTable "E33 EB3")

def clusterPrepend : CharSet :=
  (listed "prependedconcatenationmark").union
    (.ofTable "D4E 111C2-111C3 113D1 1193F 11941 11A3A 11A84-11A89 11D46 11F02")

/-- The syllables of Hangul without a final consonant: one in 28. -/
def openSyllables : CharSet := .ofTable "AC00-D788/1C"

def closedSyllables : CharSet := (CharSet.ofTable "AC00-D7A3").diff openSyllables

def clusterBreak? (value : String) : Option CharSet :=
  match value with
  | "cn" | "control" => some clusterControl
  | "cr" => some carriageReturn
  | "ex" | "extend" => some clusterExtend
  | "l" => some (.ofTable "1100-115F A960-A97C")
  | "lf" => some lineFeed
  | "lv" => some openSyllables
  | "lvt" => some closedSyllables
  | "pp" | "prepend" => some clusterPrepend
  | "ri" | "regionalindicator" => some (listed "regionalindicator")
  | "sm" | "spacingmark" => some clusterSpacingMark
  | "t" => some (.ofTable "11A8-11FF D7CB-D7FB")
  | "v" => some (.ofTable "1160-11A7 D7B0-D7C6 16D63 16D67-16D6A")
  | "zwj" => some zeroWidthJoiner
  | _ => none

/-! ## Words -/

def wordExtend : CharSet :=
  .unionAll [graphemeExtend, spacingMarks, listed "emojimodifier"]

def wordFormat : CharSet :=
  (category "cf").diff
    (.unionAll [wordExtend, zeroWidthJoiner, listed "prependedconcatenationmark",
      .ofTable "200B"])

def hebrewLetters : CharSet := (scriptNamed "hebr").inter (category "lo")

def katakana : CharSet :=
  (scriptNamed "kana").union (.ofTable "3031-3035 309B-309C 30A0 30FC FF70")

/-- The scripts that set no blank between words, besides the ideographs. -/
def unspacedScripts : CharSet :=
  .unionAll (["hira", "thai", "laoo", "mymr", "khmr", "tale", "talu", "lana", "tavt",
    "ahom"].map scriptNamed)

/-- Letters of the scripts that set blanks between words. -/
def wordLetters : CharSet :=
  (alphabetic.diff (.unionAll
    [wordExtend, hebrewLetters, katakana, listed "ideographic", unspacedScripts])).union
    (.ofTable
      "2C2-2C5 2D2-2D7 2DE-2DF 2E5-2EB 2ED 2EF-2FF 55A-55C 55E 58A 5F3 70F A708-A716
       A720-A721 A789-A78A AB5B")

def wordNumeric : CharSet :=
  (category "nd").union (.ofTable "600-605 66B 6DD 890-891 8E2 19DA 110BD 110CD")

def wordBreak? (value : String) : Option CharSet :=
  match value with
  | "le" | "aletter" => some wordLetters
  | "cr" => some carriageReturn
  | "dq" | "doublequote" => some (.ofTable "22")
  | "extend" => some wordExtend
  | "ex" | "extendnumlet" => some (.ofTable "5F 202F 203F-2040 2054 FE33-FE34 FE4D-FE4F FF3F")
  | "fo" | "format" => some wordFormat
  | "hl" | "hebrewletter" => some hebrewLetters
  | "ka" | "katakana" => some katakana
  | "lf" => some lineFeed
  | "mb" | "midnumlet" => some (.ofTable "2E 2018-2019 2024 FE52 FF07 FF0E")
  | "ml" | "midletter" => some (.ofTable "3A B7 387 55F 5F4 2027 FE13 FE55 FF1A")
  | "mn" | "midnum" =>
      some (.ofTable "2C 3B 37E 589 60C-60D 66C 7F8 2044 FE50 FE54 FF0C FF1B")
  | "nl" | "newline" => some (.ofTable "B-C 85 2028-2029")
  | "nu" | "numeric" => some wordNumeric
  | "ri" | "regionalindicator" => some (listed "regionalindicator")
  | "sq" | "singlequote" => some (.ofTable "27")
  | "wsegspace" => some (.ofTable "20 1680 2000-2006 2008-200A 205F 3000")
  | "zwj" => some zeroWidthJoiner
  | _ => none

/-! ## Sentences -/

def sentenceExtend : CharSet := .unionAll [graphemeExtend, spacingMarks, zeroWidthJoiner]

/-- Small letters. Georgian does not begin a sentence with a capital, so its letters count
as neither. -/
def sentenceLower : CharSet :=
  lowercase.diff (graphemeExtend.union (.ofTable "10D0-10FA 10FD-10FF"))

def sentenceUpper : CharSet :=
  (uppercase.union (category "lt")).diff (.ofTable "1C90-1CBA 1CBD-1CBF")

def sentenceLetters : CharSet :=
  (alphabetic.union (.ofTable "5F3")).diff
    (.unionAll [sentenceLower, sentenceUpper, sentenceExtend])

def sentenceNumeric : CharSet :=
  (category "nd").union (.ofTable "600-605 66B-66C 6DD 890-891 8E2 19DA 110BD 110CD")

def sentenceFormat : CharSet := (category "cf").diff (sentenceExtend.union sentenceNumeric)

def sentenceSeparators : CharSet := .ofTable "85 2028-2029"

def sentenceSpaces : CharSet :=
  (listed "whitespace").diff (.unionAll [carriageReturn, lineFeed, sentenceSeparators])

/-- Full stops, which may end a sentence or stand inside one. -/
def fullStops : CharSet := .ofTable "2E 2024 FE52 FF0E"

/-- Quotation marks and closing punctuation after the end of a sentence. -/
def sentenceClose : CharSet :=
  (CharSet.unionAll [categories ["ps", "pe", "pi", "pf"], listed "quotationmark",
    .ofTable "275B-2760 2E00-2E01 2E06-2E08 2E0B 1F676-1F678"]).diff (.ofTable "FF02 FF07")

def sentenceContinue : CharSet :=
  .ofTable
    "2C-2D 3A-3B 37E 55D 60C-60D 7F8 1802 1808 2013-2014 3001 FE10-FE11 FE13-FE14 FE31-FE32
     FE50-FE51 FE54-FE55 FE58 FE63 FF0C-FF0D FF1A-FF1B FF64"

def sentenceBreak? (value : String) : Option CharSet :=
  match value with
  | "at" | "aterm" => some fullStops
  | "cl" | "close" => some sentenceClose
  | "cr" => some carriageReturn
  | "ex" | "extend" => some sentenceExtend
  | "fo" | "format" => some sentenceFormat
  | "le" | "oletter" => some sentenceLetters
  | "lf" => some lineFeed
  | "lo" | "lower" => some sentenceLower
  | "nu" | "numeric" => some sentenceNumeric
  | "sc" | "scontinue" => some sentenceContinue
  | "se" | "sep" => some sentenceSeparators
  | "sp" => some sentenceSpaces
  | "st" | "sterm" => some ((listed "sentenceterminal").diff fullStops)
  | "up" | "upper" => some sentenceUpper
  | _ => none

end Property

end Criteria
