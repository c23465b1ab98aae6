import Criteria.Pattern.Bracketed
import Criteria.Pattern.Search
import Criteria.Pattern.Weight

/-!
# Reading a pattern

A written pattern is a row of parts; `|` separates alternatives, parentheses
group, and a repetition applies to the part before it. It is read from left to
right with a stack of the groups that are open:

* a part is added to the row that is being read;
* `|` ends the row and begins the next alternative of the same group;
* `(` puts the row and the alternatives before it on the stack;
* `)` makes a part of the group and goes on with the row it was opened in, under
  the flags that were in force there.

A flag that is set inside a group stays in force up to the end of the group,
across its alternatives. A written pattern is refused if it breaks a rule, is
nested too deeply, or is too heavy.
-/

namespace Criteria

namespace Reader

/-- A part of a pattern, with how deeply it is nested. A change of flags is a part too, but
cannot be repeated. -/
structure Piece where
  pattern : Pattern
  depth : Nat
  repeatable : Bool
deriving DecidableEq, Repr

def Piece.flat (p : Pattern) : Piece := ⟨p, 0, true⟩

/-- Joins parts, the last one first; two or more are one level deeper. -/
def join (combine : Pattern → Pattern → Pattern) : List Piece → Piece
  | [] => .flat .empty
  | [piece] => piece
  | last :: rest =>
      { pattern := rest.foldl (fun p piece => combine piece.pattern p) last.pattern
        depth := rest.foldl (fun d piece => max piece.depth d) last.depth + 1
        repeatable := true }

/-- A row of parts and the alternatives before it, each the latest first. -/
structure Row where
  pieces : List Piece
  alternatives : List Piece
deriving DecidableEq, Repr

namespace Row

def empty : Row := ⟨[], []⟩

def add (row : Row) (piece : Piece) : Row := { row with pieces := piece :: row.pieces }

def next (row : Row) : Row := ⟨[], join .sequence row.pieces :: row.alternatives⟩

/-- All alternatives as one part. -/
def toPiece (row : Row) : Piece := join .either row.next.alternatives

/-- Applies a repetition to the last part, if there is one that can be repeated. -/
def repeatLast? (row : Row) (least : Nat) (extra : Option Nat) : Option Row :=
  match row.pieces with
  | piece :: rest =>
      if piece.repeatable then
        some { row with
          pieces := ⟨.repeated piece.pattern least extra, piece.depth + 1, true⟩ :: rest }
      else none
  | [] => none

end Row

/-- A group that is open: the row around it and the flags in force there. -/
structure Frame where
  row : Row
  flags : Flags
  captures : Bool
deriving DecidableEq, Repr

structure State where
  row : Row
  flags : Flags
  /-- The open groups, the innermost first. -/
  frames : List Frame
  /-- The names that groups have. -/
  names : List Text
deriving DecidableEq, Repr

namespace State

def initial : State := ⟨.empty, .initial, [], []⟩

def add (s : State) (piece : Piece) : State := { s with row := s.row.add piece }

def addPattern (s : State) (p : Pattern) : State := s.add (.flat p)

/-! ## Groups -/

def openGroup (s : State) (flags : Flags) (captures : Bool) : State :=
  { s with row := .empty, flags := flags, frames := ⟨s.row, s.flags, captures⟩ :: s.frames }

def closeGroup? (s : State) : Option State :=
  match s.frames with
  | [] => none
  | frame :: frames =>
      let inner := s.row.toPiece
      let pattern := if frame.captures then Pattern.group inner.pattern else inner.pattern
      some { s with
        row := frame.row.add ⟨pattern, inner.depth + 1, true⟩
        flags := frame.flags
        frames := frames }

/-- A name begins with a letter or an underscore. -/
def isNameStart (c : Char) : Bool := c == '_' || Property.alphabetic.contains c

/-- Further characters of a name may be digits, points and brackets as well. -/
def isNameChar (c : Char) : Bool :=
  isNameStart c || "[].".toList.contains c || (Property.categories ["nd", "nl", "no"]).contains c

def isName : Text → Bool
  | [] => false
  | c :: rest => isNameStart c && rest.all isNameChar

/-- Reads the name of a group up to the closing angle bracket; no two groups have one
name. -/
def openNamed? (s : State) (t : Text) : Option (State × Text) :=
  match Text.cut? ['>'] t with
  | some (name, rest) =>
      if isName name ∧ name ∉ s.names then
        some ({ s.openGroup s.flags true with names := name :: s.names }, rest)
      else none
  | none => none

/-- Reads flags up to a colon or a closing parenthesis; gives the flags, the mark that ends
them, and what follows. No letter stands twice, and a single hyphen, with letters after
it, opens the flags to turn off. The letters `seen` are those before. -/
def readFlags? (seen : Text) (flags : Flags) : Text → Option (Flags × Text × Char × Text)
  | [] => none
  | c :: rest =>
      if c = ':' ∨ c = ')' then
        if seen.head? = some '-' then none else some (flags, seen, c, rest)
      else if c ∈ seen then none
      else if c = '-' then readFlags? (c :: seen) flags rest
      else
        match flags.set? c !(seen.contains '-') with
        | some flags => readFlags? (c :: seen) flags rest
        | none => none

/-- Reads what follows the question mark of a group without a name: flags for the group, or
for the rest of the group around it. -/
def openFlagged? (s : State) (t : Text) : Option (State × Text) :=
  match readFlags? [] s.flags t with
  | some (flags, seen, mark, rest) =>
      if mark = ':' then some (s.openGroup flags false, rest)
      else if seen.isEmpty then none
      else some ({ s.add ⟨.empty, 0, false⟩ with flags := flags }, rest)
  | none => none

/-- Reads what follows an opening parenthesis. A group may not look around. -/
def readOpening? (s : State) (t : Text) : Option (State × Text) :=
  match Lexical.skip s.flags.spaced t with
  | '?' :: '=' :: _ | '?' :: '!' :: _ | '?' :: '<' :: '=' :: _ | '?' :: '<' :: '!' :: _ => none
  | '?' :: 'P' :: '<' :: rest => s.openNamed? rest
  | '?' :: '<' :: rest => s.openNamed? rest
  | '?' :: rest => s.openFlagged? rest
  | rest => some (s.openGroup s.flags true, rest)

/-! ## Repetitions -/

/-- The greatest count that is accepted, the greatest number of 32 bits. -/
def maxCount : Nat := 0xFFFFFFFF

/-- Reads a count: digits, with blanks before and after them. -/
def readCount? (spaced : Bool) (t : Text) : Option (Nat × Text) :=
  let (digits, rest) :=
    Lexical.takeAll spaced (fun c => (Digit.decimal? c).isSome) (Text.trimStart t)
  let count := Digit.number 10 (digits.filterMap Digit.decimal?)
  if digits.isEmpty ∨ maxCount < count then none
  else some (count, (Lexical.takeAll spaced Text.isBlank rest).2)

/-- Reads bounds after their opening brace: a count, a count and a comma, or two counts in
order. Gives the least number of copies and how many more there may be. -/
def readBounds? (spaced : Bool) (t : Text) : Option (Nat × Option Nat × Text) := do
  let (least, rest) ← readCount? spaced (Lexical.skip spaced t)
  match rest with
  | '\x7d' :: rest => some (least, some 0, rest)
  | ',' :: rest =>
      match Lexical.skip spaced rest with
      | '\x7d' :: rest => some (least, none, rest)
      | rest => do
          let (most, rest) ← readCount? spaced rest
          match rest with
          | '\x7d' :: rest => if least ≤ most then some (least, some (most - least), rest) else none
          | _ => none
  | _ => none

/-- A question mark after a repetition says which match is preferred, not whether there is
one. -/
def skipPreference : Text → Text := Text.withoutLeading '?'

def repeatLast? (s : State) (least : Nat) (extra : Option Nat) (rest : Text) :
    Option (State × Text) :=
  (s.row.repeatLast? least extra).map fun row => ({ s with row := row }, skipPreference rest)

def readBounded? (s : State) (t : Text) : Option (State × Text) := do
  let (least, extra, rest) ← readBounds? s.flags.spaced t
  s.repeatLast? least extra (Lexical.skip s.flags.spaced rest)

/-! ## Parts of one character -/

/-- The set that a character stands for. Without Unicode a byte has to be ASCII. -/
def charSet? (f : Flags) (c : Char) (isByte : Bool) : Option CharSet :=
  if isByte && !f.unicode && 0x80 ≤ c.toNat then none else some (f.fold (.single c))

/-- The set that the dot stands for: every character, or all but the ends of lines. -/
def dotSet? (f : Flags) : Option CharSet :=
  if !f.unicode then none
  else if f.dotAll then some .full
  else if f.crlf then some ((CharSet.single '\n').union (.single '\r')).complement
  else some (CharSet.single '\n').complement

def startAnchor (f : Flags) : Anchor := if f.multiLine then .lineStart f.crlf else .textStart

def endAnchor (f : Flags) : Anchor := if f.multiLine then .lineEnd f.crlf else .textEnd

def addEscape? (s : State) : Lexical.Escape → Option State
  | .char c isByte => (charSet? s.flags c isByte).map fun set => s.addPattern (.one set)
  | .anchor a => some (s.addPattern (.anchor a))
  | .set set => some (s.addPattern (.one set))

/-! ## The run -/

/-- Reads one part, given its first character and what follows that. -/
def step? (s : State) (c : Char) (rest : Text) : Option (State × Text) :=
  match c with
  | '(' => s.readOpening? rest
  | ')' => s.closeGroup?.map fun s => (s, rest)
  | '|' => some ({ s with row := s.row.next }, rest)
  | '[' =>
      (Bracketed.read? s.flags rest).map fun (part, rest) =>
        (s.add ⟨.one part.set, part.depth, true⟩, rest)
  | '?' => s.repeatLast? 0 (some 1) rest
  | '*' => s.repeatLast? 0 none rest
  | '+' => s.repeatLast? 1 none rest
  | '\x7b' => s.readBounded? rest
  | '\\' => do
      let (escape, rest) ← Lexical.readEscape? s.flags rest
      let s ← s.addEscape? escape
      some (s, rest)
  | '.' => (dotSet? s.flags).map fun set => (s.addPattern (.one set), rest)
  | '^' => some (s.addPattern (.anchor (startAnchor s.flags)), rest)
  | '$' => some (s.addPattern (.anchor (endAnchor s.flags)), rest)
  | c => some (s.addPattern (.one (s.flags.fold (.single c))), rest)

/-- Reads parts to the end of the text. Each part takes a character, so a first argument
above the length of the text is never used up. -/
def run? : Nat → State → Text → Option State
  | 0, _, _ => none
  | fuel + 1, s, t =>
      match Lexical.skip s.flags.spaced t with
      | [] => some s
      | c :: rest =>
          match s.step? c rest with
          | some (s, rest) => run? fuel s rest
          | none => none

/-- At the end no group is open. -/
def finish? (s : State) : Option Piece :=
  if s.frames.isEmpty then some s.row.toPiece else none

end State

end Reader

namespace Pattern

/-- How deeply a written pattern may be nested. -/
def maxDepth : Nat := 250

/-- Reads a written pattern, however deep and heavy. -/
def parse? (t : Text) : Option Reader.Piece :=
  (Reader.State.initial.run? (t.length + 1) t).bind Reader.State.finish?

/-- Whether a pattern is neither nested too deeply nor too heavy. -/
def isWithinLimits (piece : Reader.Piece) : Bool :=
  piece.depth ≤ maxDepth && piece.pattern.isLight

/-- Reads a written pattern within the limits. -/
def read? (t : Text) : Option Pattern :=
  ((parse? t).filter isWithinLimits).map Reader.Piece.pattern

/-- A written pattern put into a group between the two ends of a text. -/
def anchoredText (t : Text) : Text := "^(?:".toList ++ t ++ ")$".toList

/-- Reads a written pattern that has to match a whole text. The pattern is anchored as it
is written, before it is read. -/
def anchored? (t : Text) : Option Pattern := read? (anchoredText t)

end Pattern

end Criteria
