/-!
# Texts, their blanks and their edges

A text is read as a list of characters. This module fixes which characters
separate words and how a text is trimmed, cut into words or fields, and freed
of a pair of marks around it.

* `isBlank`: the characters that separate words.
* `trim`: a text without the blanks at its edges.
* `words`: the maximal runs without blanks, in order.
* `split`: the fields between the separators, empty ones included.
* `inside?`, `unwrap`: what stands between an opening and a closing mark.
-/

namespace Criteria

/-- No rule of the library counts bytes, so a text is the list of its characters. -/
abbrev Text := List Char

namespace Text

/-- A blank is a character with the property `White_Space`: the controls U+0009 to
U+000D, the space, the next-line control, and the spaces and separators outside
Latin script. The zero-width characters are not among them. -/
def isBlank (c : Char) : Bool :=
  let n := c.toNat
  (0x09 ≤ n && n ≤ 0x0D) || n == 0x20 || n == 0x85 || n == 0xA0 || n == 0x1680 ||
    (0x2000 ≤ n && n ≤ 0x200A) || n == 0x2028 || n == 0x2029 || n == 0x202F ||
    n == 0x205F || n == 0x3000

/-- The blanks a text opens with. -/
def leadingBlanks (t : Text) : Text := t.takeWhile isBlank

/-- A text from its first character that is not blank. -/
def trimStart (t : Text) : Text := t.dropWhile isBlank

/-- A text up to its last character that is not blank. -/
def trimEnd (t : Text) : Text := (t.reverse.dropWhile isBlank).reverse

/-- A text without the blanks at its two edges; those inside it stay. -/
def trim (t : Text) : Text := trimEnd (trimStart t)

/-- A text without any of its blanks. -/
def squeeze (t : Text) : Text := t.filter fun c => !isBlank c

/-- The maximal runs of characters that are not blank, in order. -/
def words : Text → List Text
  | [] => []
  | c :: rest =>
      if isBlank c then words rest
      else match rest, words rest with
        | d :: _, word :: more => if isBlank d then [c] :: word :: more else (c :: word) :: more
        | _, more => [c] :: more

/-- The fields between the separators. There is one more of them than separators, so
the empty text has one empty field. -/
def split (separator : Char) : Text → List Text
  | [] => [[]]
  | c :: rest =>
      match split separator rest with
      | [] => [[c]]
      | field :: more => if c = separator then [] :: field :: more else (c :: field) :: more

/-- What stands between an opening mark at the start and a closing mark at the end;
the two may not be the same occurrence. -/
def inside? (opening closing : Char) : Text → Option Text
  | [] => none
  | c :: rest => if c = opening && rest.getLast? == some closing then some rest.dropLast else none

/-- Takes away one pair of the mark around a text, if there is one. -/
def unwrap (mark : Char) (t : Text) : Text := (inside? mark mark t).getD t

/-- Takes away one mark at the start of a text, if there is one. -/
def withoutLeading (mark : Char) : Text → Text
  | [] => []
  | c :: rest => if c = mark then rest else c :: rest

/-- Whether `part` occurs in a text as a run of neighbouring characters. -/
def occursIn (part : Text) : Text → Bool
  | [] => part.isEmpty
  | c :: rest => part.isPrefixOf (c :: rest) || occursIn part rest

/-- The text before the first place where `mark` stands, and the text after it. -/
def cut? (mark : Text) : Text → Option (Text × Text)
  | [] => if mark.isEmpty then some ([], []) else none
  | c :: rest =>
      if mark.isPrefixOf (c :: rest) then some ([], (c :: rest).drop mark.length)
      else (cut? mark rest).map fun (before, after) => (c :: before, after)

/-- The lower-case form of the letters A to Z; every other character stays as it is. -/
def lower (t : Text) : Text := t.map Char.toLower

end Text

end Criteria
