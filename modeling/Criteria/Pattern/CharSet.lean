import Criteria.Digit

/-!
# Sets of characters

A set of characters is a list of ranges of code points. Every operation below
gives its ranges in order and apart from each other, so equal sets made by them
have equal lists. Ranges may cover the surrogate code points, which no text
holds.
-/

namespace Criteria

/-- The code points from `first` to `last`, both included. -/
structure CodeRange where
  first : Nat
  last : Nat
deriving DecidableEq, Repr

def CodeRange.contains (r : CodeRange) (n : Nat) : Bool := r.first ≤ n && n ≤ r.last

structure CharSet where
  ranges : List CodeRange
deriving DecidableEq, Repr

namespace CharSet

/-- The greatest code point. -/
def maxCode : Nat := 0x10FFFF

def empty : CharSet := ⟨[]⟩

def full : CharSet := ⟨[⟨0, maxCode⟩]⟩

def containsCode (s : CharSet) (n : Nat) : Bool := s.ranges.any (·.contains n)

def contains (s : CharSet) (c : Char) : Bool := s.containsCode c.toNat

def single (c : Char) : CharSet := ⟨[⟨c.toNat, c.toNat⟩]⟩

def ofCodes (first last : Nat) : CharSet := ⟨[⟨first, last⟩]⟩

/-- Adds a range to ranges in order, joining it with those that it meets or touches. -/
def insertRange (r : CodeRange) : List CodeRange → List CodeRange
  | [] => [r]
  | s :: rest =>
      if r.last + 1 < s.first then r :: s :: rest
      else if s.last + 1 < r.first then s :: insertRange r rest
      else insertRange ⟨min r.first s.first, max r.last s.last⟩ rest

/-- Puts ranges in order; fastest if they are in order already. -/
def ofRanges (ranges : List CodeRange) : CharSet := ⟨ranges.foldr insertRange []⟩

/-- Puts a range into ranges in order, and after it what `rest` makes of those that follow. -/
def mergeAt (r : CodeRange) (rest : List CodeRange → List CodeRange) :
    List CodeRange → List CodeRange
  | [] => r :: rest []
  | s :: later => if r.first ≤ s.first then r :: rest (s :: later) else s :: mergeAt r rest later

/-- The ranges of two lists in order, in order. -/
def merged (ranges : List CodeRange) : List CodeRange → List CodeRange :=
  ranges.foldr mergeAt id

def union (s t : CharSet) : CharSet := ofRanges (merged s.ranges t.ranges)

def unionAll (sets : List CharSet) : CharSet := sets.foldl union empty

/-- The gaps between ranges in order, from a code point on. -/
def gapsFrom (start : Nat) : List CodeRange → List CodeRange
  | [] => if start ≤ maxCode then [⟨start, maxCode⟩] else []
  | r :: rest =>
      if start < r.first then ⟨start, r.first - 1⟩ :: gapsFrom (r.last + 1) rest
      else gapsFrom (r.last + 1) rest

def complement (s : CharSet) : CharSet := ⟨gapsFrom 0 s.ranges⟩

def complementIf (negated : Bool) (s : CharSet) : CharSet :=
  if negated then s.complement else s

def inter (s t : CharSet) : CharSet := (s.complement.union t.complement).complement

def diff (s t : CharSet) : CharSet := s.inter t.complement

def symmDiff (s t : CharSet) : CharSet := (s.diff t).union (t.diff s)

/-- Whether all characters of a set are ASCII. -/
def isAscii (s : CharSet) : Bool := s.ranges.all fun r => r.last ≤ 0x7F

/-! ## Tables

A table is written as ranges in hexadecimal with a blank between them: `41-5A`, a
single code point as `AA`, and every second code point of a range as `100-12E/2`.
-/

def hexValue (digits : Text) : Nat := (Digit.hexNumber? digits).getD 0

/-- The code points from `first` on, each `step` above the one before. -/
def stepped (first step count : Nat) : List CodeRange :=
  (List.range count).map fun i => ⟨first + i * step, first + i * step⟩

/-- The ranges of one item of a table. -/
def tableItem (item : Text) : List CodeRange :=
  match Text.split '-' item with
  | [first, last] =>
      match Text.split '/' last with
      | [last, step] =>
          let step := hexValue step
          stepped (hexValue first) step ((hexValue last - hexValue first) / step + 1)
      | _ => [⟨hexValue first, hexValue last⟩]
  | _ => [⟨hexValue item, hexValue item⟩]

def ofTable (table : String) : CharSet :=
  ofRanges ((Text.words table.toList).flatMap tableItem)

end CharSet

end Criteria
