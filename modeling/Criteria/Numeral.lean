import Criteria.Binary64
import Criteria.Pattern.Reader

/-!
# How numbers are written

A number is recognised by its written form, which is a pattern: first that of
hexadecimal numbers, then that of decimal ones. What has the decimal form is
freed of the letters for its type and read as a number of the format. The
reader of these takes ASCII digits only, but words such as `inf` too, so it is
the form and the reader together that decide what is a number:

* decimal: an optional sign, digits with at most one point among or beside them
  and at least one digit, an optional power of ten, and an optional letter `d`
  or `f`;
* decimal, whole: an optional sign, digits, and the letter `l`;
* hexadecimal: an optional sign, `0x`, and one to fifteen digits.

A number with blanks around it is none; `Numeral.cleaned` takes away what people
write around numbers: quotes, a dollar sign, and blanks.
-/

namespace Criteria

namespace Numeral

/-! ## Numbers of the format -/

/-- The values of the digits at the start of a text. -/
def leadingDigits : Text → List Nat
  | [] => []
  | c :: rest =>
      match Digit.decimal? c with
      | some d => d :: leadingDigits rest
      | none => []

/-- What follows the digits at the start of a text. -/
def afterDigits (t : Text) : Text := t.dropWhile fun c => (Digit.decimal? c).isSome

/-- A sign and what follows it; without a sign a number is positive. -/
def splitSign : Text → Bool × Text
  | '-' :: rest => (true, rest)
  | '+' :: rest => (false, rest)
  | t => (false, t)

/-- The digits before and after the point, without the point. -/
structure Significand where
  whole : List Nat
  fraction : List Nat
deriving DecidableEq, Repr

/-- Reads digits with at most one point; at least one digit has to be there. -/
def readSignificand? (t : Text) : Option (Significand × Text) :=
  let whole := leadingDigits t
  match afterDigits t with
  | '.' :: rest =>
      let fraction := leadingDigits rest
      if whole.isEmpty && fraction.isEmpty then none
      else some (⟨whole, fraction⟩, afterDigits rest)
  | rest => if whole.isEmpty then none else some (⟨whole, []⟩, rest)

/-- Reads a power of ten if one stands here with at least one digit. -/
def readExponent : Text → Int × Text
  | e :: rest =>
      if e = 'e' ∨ e = 'E' then
        let (negative, body) := splitSign rest
        let digits := leadingDigits body
        if digits.isEmpty then (0, e :: rest)
        else
          let size : Int := Digit.number 10 digits
          (if negative then -size else size, afterDigits body)
      else (0, e :: rest)
  | [] => (0, [])

/-- The number that a significand and a power of ten stand for. -/
def Significand.value (s : Significand) (negative : Bool) (exponent : Int) : Binary64 :=
  let digits := s.whole ++ s.fraction
  Binary64.ofDecimal negative (Digit.number 10 digits) digits.length (exponent - s.fraction.length)

/-- The number that a word stands for, written in small letters. -/
def ofWord? (negative : Bool) (word : Text) : Option Binary64 :=
  if word = "inf".toList ∨ word = "infinity".toList then some (.infinity negative)
  else if word = "nan".toList then some .nan
  else none

/-- Reads what follows a sign as a number of the format: a word in letters of either case, or
digits with an optional point and an optional power of ten. -/
def readUnsigned? (negative : Bool) (body : Text) : Option Binary64 :=
  (ofWord? negative (Text.lower body)).or do
    let (significand, rest) ← readSignificand? body
    let (exponent, ending) := readExponent rest
    if ending.isEmpty then some (significand.value negative exponent) else none

/-- Reads a whole text as a number of the format. -/
def readFloat? (t : Text) : Option Binary64 :=
  let (negative, body) := splitSign t
  readUnsigned? negative body

/-! ## Written forms -/

/-- Hexadecimal numbers, with a group for the sign and one for the digits. -/
def hexForm : Text := "^([+-]?)0[xX]([0-9a-fA-F]\x7b1,15\x7d)$".toList

/-- Decimal numbers with the letter for their type. The digits are those of every script. -/
def decimalForm : Text :=
  "^[+-]?(?:(?:\\d+\\.?\\d*|\\.\\d+)(?:[eE][+-]?\\d+)?[dDfF]?|\\d+[lL])$".toList

def hexPattern? : Option Reader.Piece := Pattern.parse? hexForm

def decimalPattern? : Option Reader.Piece := Pattern.parse? decimalForm

/-- Whether a text has a written form. -/
def hasForm (form : Option Reader.Piece) (t : Text) : Bool :=
  form.any fun piece => piece.pattern.isFoundIn t

def isSign (c : Char) : Bool := c == '+' || c == '-'

/-- What the groups of the hexadecimal form hold, the sign and the digits. A text has the form in
one way only: the sign is what it opens with, and the digits follow the zero and the mark. -/
def hexGroups? (t : Text) : Option (Text × Text) :=
  if hasForm hexPattern? t then some (t.takeWhile isSign, (t.dropWhile isSign).drop 2) else none

/-- The integer that hexadecimal digits stand for, if 64 bits with a sign can hold it. -/
def hexInteger? (digits : Text) : Option Nat :=
  (Digit.hexNumber? digits).filter fun n => n < 1 <<< 63

/-- The letters that may end a number and tell its type. -/
def isTypeLetter (c : Char) : Bool := "dDfFlL".toList.contains c

/-- A text without the letters for types that it ends with, however many there are. -/
def withoutType (t : Text) : Text := (t.reverse.dropWhile isTypeLetter).reverse

/-- Reads a whole text as a number. The digits of a hexadecimal number are rounded before
the sign is put to them. -/
def read? (t : Text) : Option Binary64 :=
  match hexGroups? t with
  | some (sign, digits) =>
      (hexInteger? digits).map fun n =>
        let magnitude := Binary64.ofNat false n
        if sign = ['-'] then magnitude.negated else magnitude
  | none => if hasForm decimalPattern? t then readFloat? (withoutType t) else none

/-! ## Cleaning -/

/-- A text without what people write around numbers: double quotes, then single quotes,
then blanks at the edges, then one dollar sign, then every blank. -/
def cleaned (t : Text) : Text :=
  Text.squeeze (Text.withoutLeading '$' (Text.trim (Text.unwrap '\'' (Text.unwrap '"' t))))

/-- Reads a text as a number after cleaning it. -/
def readCleaned? (t : Text) : Option Binary64 := read? (cleaned t)

end Numeral

/-- Two texts are equal as texts, or as numbers where both are numbers. -/
def sameTextOrNumber (a b : Text) : Bool :=
  a == b ||
    match Numeral.readCleaned? a, Numeral.readCleaned? b with
    | some x, some y => x.isEqual y
    | _, _ => false

end Criteria
