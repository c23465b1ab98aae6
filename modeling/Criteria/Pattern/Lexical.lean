import Criteria.Pattern.Basic
import Criteria.Pattern.Property.Folding

/-!
# The parts of written patterns

Reading a pattern is governed by flags, which the pattern itself may change. The
flags decide what is skipped between its parts and what sets of characters its
parts stand for. This module reads the parts that stand both outside and inside
brackets: everything that a backslash opens.
-/

namespace Criteria

/-- The flags that decide how a pattern is read. The flag for which of several matches is
preferred is accepted, but whether there is a match does not depend on it. -/
structure Flags where
  ignoreCase : Bool
  /-- The anchors of a text hold at lines as well. -/
  multiLine : Bool
  /-- The dot takes line feeds too. -/
  dotAll : Bool
  /-- Sets of characters reach beyond ASCII. -/
  unicode : Bool
  /-- Lines may end with a carriage return. -/
  crlf : Bool
  /-- Blanks and comments in the pattern do not count. -/
  spaced : Bool
deriving DecidableEq, Repr

namespace Flags

/-- The flags in force at the start of a pattern. -/
def initial : Flags := ⟨false, false, false, true, false, false⟩

def set? (f : Flags) (letter : Char) (on : Bool) : Option Flags :=
  match letter with
  | 'i' => some { f with ignoreCase := on }
  | 'm' => some { f with multiLine := on }
  | 's' => some { f with dotAll := on }
  | 'U' => some f
  | 'u' => some { f with unicode := on }
  | 'R' => some { f with crlf := on }
  | 'x' => some { f with spaced := on }
  | _ => none

/-- A set with all letter cases of its characters, if letter case is ignored. -/
def fold (f : Flags) (s : CharSet) : CharSet :=
  if f.ignoreCase then (if f.unicode then Folding.closure s else Folding.asciiClosure s) else s

/-- A set, or its complement. Without Unicode a set may hold ASCII alone. -/
def settle? (f : Flags) (negated : Bool) (s : CharSet) : Option CharSet :=
  let s := (f.fold s).complementIf negated
  if f.unicode || s.isAscii then some s else none

end Flags

namespace Lexical

/-! ## What is skipped -/

/-- Skips blanks, and comments from `#` to the end of the line. -/
def skipIgnored : (inComment : Bool) → Text → Text
  | _, [] => []
  | true, c :: rest => skipIgnored (c != '\n') rest
  | false, c :: rest =>
      if Text.isBlank c then skipIgnored false rest
      else if c = '#' then skipIgnored true rest
      else c :: rest

/-- Goes on to the next character that counts. -/
def skip (spaced : Bool) (t : Text) : Text := if spaced then skipIgnored false t else t

/-- Takes characters that pass the test, skipping after each what does not count. The
first argument is at least the length of the text. -/
def takeSpaced (spaced : Bool) (test : Char → Bool) : Nat → Text → Text × Text
  | 0, t => ([], t)
  | _, [] => ([], [])
  | fuel + 1, c :: rest =>
      if test c then
        let (taken, rest) := takeSpaced spaced test fuel (skip spaced rest)
        (c :: taken, rest)
      else ([], c :: rest)

def takeAll (spaced : Bool) (test : Char → Bool) (t : Text) : Text × Text :=
  takeSpaced spaced test t.length t

/-- What stands between an opening brace, which has been read, and the closing one. -/
def readBraced? (spaced : Bool) (t : Text) : Option (Text × Text) :=
  match takeAll spaced (· != '\x7d') (skip spaced t) with
  | (body, _ :: rest) => some (body, rest)
  | (_, []) => none

/-! ## Characters by number -/

/-- The character with a code point; a surrogate is none. -/
def charOf? (code : Nat) : Option Char :=
  if code < 0xD800 ∨ (0xDFFF < code ∧ code ≤ CharSet.maxCode) then some (Char.ofNat code)
  else none

/-- The character that hexadecimal digits stand for; there has to be a digit. -/
def charOfHex? (digits : Text) : Option Char :=
  if digits.isEmpty then none else (Digit.hexNumber? digits).bind charOf?

/-- The given number of characters, skipping after each what does not count. -/
def takeCount? (spaced : Bool) : Nat → Text → Option (Text × Text)
  | 0, t => some ([], t)
  | _ + 1, [] => none
  | n + 1, c :: rest =>
      (takeCount? spaced n (skip spaced rest)).map fun (taken, rest) => (c :: taken, rest)

/-- How many digits follow the letter that opens a character's number. -/
def hexLength : Char → Nat
  | 'x' => 2
  | 'u' => 4
  | _ => 8

/-! ## What a backslash opens -/

inductive Escape where
  /-- A character; one that is written by the number of a byte stands for that byte. -/
  | char (c : Char) (isByte : Bool)
  | anchor (a : Anchor)
  | set (s : CharSet)
deriving DecidableEq, Repr

/-- Reads a character's number after the letter that opens it. -/
def readHex? (spaced : Bool) (letter : Char) (t : Text) : Option (Escape × Text) :=
  match skip spaced t with
  | [] => none
  | '\x7b' :: body => do
      let (digits, rest) ← readBraced? spaced body
      let c ← charOfHex? digits
      some (.char c false, rest)
  | t => do
      let (digits, rest) ← takeCount? spaced (hexLength letter) t
      let c ← charOfHex? digits
      some (.char c (letter == 'x'), rest)

/-- The set that a property stands for: a name alone, or a name and a value between which
there is `!=`, a colon, or an equals sign. -/
def property? (t : Text) : Option CharSet :=
  match Text.cut? "!=".toList t with
  | some (name, value) => Property.findValue? name value
  | none =>
      match Text.cut? [':'] t with
      | some (name, value) => Property.findValue? name value
      | none =>
          match Text.cut? ['='] t with
          | some (name, value) => Property.findValue? name value
          | none => Property.find? t

/-- Reads a property: one letter, or a name in braces. -/
def readProperty? (f : Flags) (negated : Bool) (t : Text) : Option (Escape × Text) := do
  let (name, rest) ← match skip f.spaced t with
    | [] => none
    | '\x7b' :: body => readBraced? f.spaced body
    | c :: rest => if c = '\\' then none else some ([c], rest)
  let s ← property? name
  let s ← if f.unicode then f.settle? negated s else none
  some (.set s, rest)

/-- The sets with a letter of their own. They hold all letter cases of their characters. -/
def shorthand? (f : Flags) (letter : Char) : Option CharSet :=
  match letter.toLower with
  | 'd' => some (if f.unicode then Property.digits else Property.asciiDigits)
  | 's' => some (if f.unicode then Property.blanks else Property.asciiBlanks)
  | 'w' => some (if f.unicode then Property.wordChars else Property.asciiWordChars)
  | _ => none

/-- A capital stands for the complement. -/
def readShorthand? (f : Flags) (letter : Char) : Option CharSet := do
  let s ← shorthand? f letter
  if !letter.isUpper then some s
  else if f.unicode then some s.complement
  else none

/-- Every ASCII character stands for itself after a backslash, except for letters, digits
and the angle brackets. -/
def isEscapable (c : Char) : Bool :=
  c.toNat < 0x80 && !c.isAlphanum && c != '<' && c != '>'

/-- The controls with a letter of their own. -/
def controlOf? : Char → Option Char
  | 'a' => some '\x07'
  | 'f' => some '\x0C'
  | 't' => some '\t'
  | 'n' => some '\n'
  | 'r' => some '\r'
  | 'v' => some '\x0B'
  | _ => none

def edgeOf? (name : Text) : Option WordEdge :=
  if name = "start".toList then some .start
  else if name = "end".toList then some .finish
  else if name = "start-half".toList then some .startHalf
  else if name = "end-half".toList then some .finishHalf
  else none

def isEdgeNameChar (c : Char) : Bool := c.isAlpha || c == '-'

/-- Reads what may follow `\b`. A brace opens the name of an edge if a letter or a hyphen
follows it; else it is left to be read as bounds. -/
def readEdge? (spaced : Bool) (t : Text) : Option (WordEdge × Text) :=
  match t with
  | '\x7b' :: body =>
      match skip spaced body with
      | [] => none
      | c :: rest =>
          if isEdgeNameChar c then
            match takeAll spaced isEdgeNameChar (c :: rest) with
            | (name, '\x7d' :: rest) => (edgeOf? name).map fun edge => (edge, rest)
            | _ => none
          else some (.boundary, t)
  | _ => some (.boundary, t)

/-- The anchors with one character of their own. -/
def anchorOf? (unicode : Bool) : Char → Option Anchor
  | 'A' => some .textStart
  | 'z' => some .textEnd
  | 'B' => some (.word unicode .notBoundary)
  | '<' => some (.word unicode .start)
  | '>' => some (.word unicode .finish)
  | _ => none

/-- Reads what follows a backslash. -/
def readEscape? (f : Flags) : Text → Option (Escape × Text)
  | [] => none
  | c :: rest =>
      if c = 'x' ∨ c = 'u' ∨ c = 'U' then readHex? f.spaced c rest
      else if c = 'p' ∨ c = 'P' then readProperty? f (c == 'P') rest
      else if c = 'b' then
        (readEdge? f.spaced rest).map fun (edge, rest) => (.anchor (.word f.unicode edge), rest)
      else if isEscapable c then some (.char c false, rest)
      else
        (((readShorthand? f c).map Escape.set).or ((controlOf? c).map (Escape.char · false))).or
          ((anchorOf? f.unicode c).map Escape.anchor)
          |>.map fun escape => (escape, rest)

end Lexical

end Criteria
