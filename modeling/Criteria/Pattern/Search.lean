import Criteria.Pattern.Basic

/-!
# Finding a pattern in a text

The search moves a set of positions through the pattern: from the positions
where a span may start to those where it may end. Sets of positions are the
binary digits of a number. Each part of the pattern is looked up on the text
once, before the search, so that a set is moved by a few operations on numbers,
and a repetition stops as soon as it reaches nothing new. No choice is ever
taken back, whatever the pattern.
-/

namespace Criteria

/-- A set of positions: position `i` is in it if digit `i` is one. -/
abbrev Positions := Nat

namespace Positions

/-- The positions at which a list holds `true`. -/
def ofList : List Bool → Positions
  | [] => 0
  | b :: rest => 2 * ofList rest + b.toNat

/-- The positions from 0 to `n`. -/
def upTo (n : Nat) : Positions := 1 <<< (n + 1) - 1

/-- The positions of the first set that are not in the second. -/
def without (s t : Positions) : Positions := (s ||| t) ^^^ t

end Positions

/-- A pattern looked up on a text. -/
inductive Walk where
  | stay
  /-- Stays at the positions given and stops elsewhere. -/
  | stayAt (allowed : Positions)
  /-- Goes on by one character from the positions given. -/
  | advance (allowed : Positions)
  | both (first second : Walk)
  | either (first second : Walk)
  | repeated (w : Walk) (least : Nat) (extra : Option Nat)
deriving Repr

namespace Walk

/-- The two neighbours of each position, from the first position on. -/
def neighbours (before : Option Char) : Text → List (Option Char × Option Char)
  | [] => [(before, none)]
  | c :: rest => (before, some c) :: neighbours (some c) rest

def ofPattern (t : Text) : Pattern → Walk
  | .empty => stay
  | .anchor a => stayAt (.ofList ((neighbours none t).map fun (b, c) => a.holds b c))
  | .one s => advance (.ofList (t.map s.contains))
  | .sequence p q => both (ofPattern t p) (ofPattern t q)
  | .either p q => either (ofPattern t p) (ofPattern t q)
  | .repeated p least extra => repeated (ofPattern t p) least extra
  | .group p => ofPattern t p

/-- Takes a step the given number of times; a set that a step leaves as it is stays so. -/
def iterate (step : Positions → Positions) : Nat → Positions → Positions
  | 0, s => s
  | n + 1, s =>
      let next := step s
      if next = s then s else iterate step n next

/-- What at most the given number of steps reach: `found` so far, of which the positions
of `latest` have not been stepped from. -/
def spread (step : Positions → Positions) : Nat → Positions → Positions → Positions
  | 0, _, found => found
  | n + 1, latest, found =>
      let fresh := Positions.without (step latest) found
      if fresh = 0 then found else spread step n fresh (found ||| fresh)

/-- Moves a set of positions of a text of the given length. Without a bound on the copies,
as many as there are positions reach all that can be reached. -/
def move (length : Nat) : Walk → Positions → Positions
  | stay, s => s
  | stayAt allowed, s => s &&& allowed
  | advance allowed, s => (s &&& allowed) <<< 1
  | both first second, s => second.move length (first.move length s)
  | either first second, s => first.move length s ||| second.move length s
  | repeated w least extra, s =>
      let start := iterate (w.move length) least s
      spread (w.move length) (extra.getD (length + 1)) start start

end Walk

namespace Pattern

/-- Where the spans of a pattern end that start at one of the given positions. -/
def reach (p : Pattern) (t : Text) (s : Positions) : Positions :=
  (Walk.ofPattern t p).move t.length s

/-- Whether a pattern is found anywhere in a text. -/
def isFoundIn (p : Pattern) (t : Text) : Bool :=
  p.reach t (.upTo t.length) != 0

end Pattern

end Criteria
