import Criteria.Pattern.Property

/-!
# Patterns and what they match

A pattern describes spans of a text. A span runs from one position to another,
where position `i` lies before the character with index `i`. `Pattern.Spans`
says which spans a pattern describes; there are no back-references and no
look-around, so this needs nothing but the text.
-/

namespace Criteria

/-- What a condition on a position compares: which of its two sides are word characters. -/
inductive WordEdge where
  | boundary
  | notBoundary
  | start
  | finish
  /-- Only the left side is looked at. -/
  | startHalf
  /-- Only the right side is looked at. -/
  | finishHalf
deriving DecidableEq, Repr

/-- A condition on a position in a text. -/
inductive Anchor where
  | textStart
  | textEnd
  /-- The start of a line; where `crlf` holds, lines end with `\r`, `\n` or both. -/
  | lineStart (crlf : Bool)
  | lineEnd (crlf : Bool)
  | word (unicode : Bool) (edge : WordEdge)
deriving DecidableEq, Repr

inductive Pattern where
  | empty
  | anchor (a : Anchor)
  /-- One character of a set. -/
  | one (s : CharSet)
  | sequence (p q : Pattern)
  | either (p q : Pattern)
  /-- Copies one after the other: `least` of them, then at most `extra` more, or any number
  more if there is no bound. -/
  | repeated (p : Pattern) (least : Nat) (extra : Option Nat)
  /-- A group that captures what it matches. -/
  | group (p : Pattern)
deriving DecidableEq, Repr

/-! ## Positions -/

def isWordChar (unicode : Bool) (c : Char) : Bool :=
  (if unicode then Property.wordChars else Property.asciiWordChars).contains c

def WordEdge.holds (edge : WordEdge) (before after : Bool) : Bool :=
  match edge with
  | boundary => before != after
  | notBoundary => before == after
  | start => !before && after
  | finish => before && !after
  | startHalf => !before
  | finishHalf => !after

/-- Whether a condition holds between two neighbouring characters; at an edge of the text
there is none on one side. -/
def Anchor.holds (a : Anchor) (before after : Option Char) : Bool :=
  match a with
  | textStart => before.isNone
  | textEnd => after.isNone
  | lineStart false => before.all (· == '\n')
  | lineEnd false => after.all (· == '\n')
  | lineStart true => before.all (· == '\n') || (before == some '\r' && after != some '\n')
  | lineEnd true => after.all (· == '\r') || (after == some '\n' && before != some '\r')
  | word unicode edge =>
      edge.holds (before.any (isWordChar unicode)) (after.any (isWordChar unicode))

/-- The character before a position. -/
def charBefore (t : Text) (i : Nat) : Option Char := if i = 0 then none else t[i - 1]?

/-! ## Spans -/

/-- `Spans t p i j`: the pattern `p` describes the span of `t` from `i` to `j`. -/
inductive Pattern.Spans (t : Text) : Pattern → Nat → Nat → Prop
  | empty {i : Nat} : i ≤ t.length → Spans t .empty i i
  | anchor {a : Anchor} {i : Nat} :
      i ≤ t.length → a.holds (charBefore t i) t[i]? → Spans t (.anchor a) i i
  | one {s : CharSet} {i : Nat} {c : Char} :
      t[i]? = some c → s.contains c → Spans t (.one s) i (i + 1)
  | sequence {p q : Pattern} {i j k : Nat} :
      Spans t p i j → Spans t q j k → Spans t (.sequence p q) i k
  | left {p q : Pattern} {i j : Nat} : Spans t p i j → Spans t (.either p q) i j
  | right {p q : Pattern} {i j : Nat} : Spans t q i j → Spans t (.either p q) i j
  | noCopy {p : Pattern} {i : Nat} {extra : Option Nat} :
      i ≤ t.length → Spans t (.repeated p 0 extra) i i
  | leastCopy {p : Pattern} {i j k least : Nat} {extra : Option Nat} :
      Spans t p i j → Spans t (.repeated p least extra) j k →
      Spans t (.repeated p (least + 1) extra) i k
  | extraCopy {p : Pattern} {i j k extra : Nat} :
      Spans t p i j → Spans t (.repeated p 0 (some extra)) j k →
      Spans t (.repeated p 0 (some (extra + 1))) i k
  | freeCopy {p : Pattern} {i j k : Nat} :
      Spans t p i j → Spans t (.repeated p 0 none) j k → Spans t (.repeated p 0 none) i k
  | group {p : Pattern} {i j : Nat} : Spans t p i j → Spans t (.group p) i j

/-- A pattern matches a whole text if it describes the span from its start to its end. -/
def Pattern.MatchesWhole (p : Pattern) (t : Text) : Prop := p.Spans t 0 t.length

/-- A pattern is found in a text if it describes any span of it. -/
def Pattern.Found (p : Pattern) (t : Text) : Prop := ∃ i j, p.Spans t i j

end Criteria
