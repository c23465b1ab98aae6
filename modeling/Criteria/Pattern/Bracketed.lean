import Criteria.Pattern.Lexical

/-!
# Sets in brackets

A bracketed set is a union of characters, ranges, named sets and further
bracketed sets. Operators between such unions (`&&` for what is common, `--` for
what is left, `~~` for what is in one only) bind weaker than the union and
associate to the left. Reading keeps a stack of the brackets that are open.
-/

namespace Criteria

namespace Bracketed

/-- A part of a bracketed set, with how deeply it is nested. -/
structure Part where
  set : CharSet
  depth : Nat
deriving DecidableEq, Repr

inductive Operator where
  | inter
  | diff
  | symmDiff
deriving DecidableEq, Repr

def Operator.apply : Operator → CharSet → CharSet → CharSet
  | inter, s, t => s.inter t
  | diff, s, t => s.diff t
  | symmDiff, s, t => s.symmDiff t

/-- A bracket that is open. -/
structure Frame where
  negated : Bool
  /-- An operator that waits for its right side, with its left side. -/
  left : Option (Operator × Part)
  /-- The union read so far. -/
  union : CharSet
  /-- How many items the union has. -/
  count : Nat
  /-- The greatest depth among the items. -/
  depth : Nat
deriving DecidableEq, Repr

namespace Frame

def start (negated : Bool) : Frame := ⟨negated, none, .empty, 0, 0⟩

def add (frame : Frame) (part : Part) : Frame :=
  { frame with
    union := frame.union.union part.set
    count := frame.count + 1
    depth := max frame.depth part.depth }

/-- The union read so far as one part; two items or more are one level deeper. -/
def unionPart (frame : Frame) : Part :=
  ⟨frame.union, if 2 ≤ frame.count then frame.depth + 1 else frame.depth⟩

/-- The union as the right side of the operator that waits for it. -/
def combined (f : Flags) (frame : Frame) : Part :=
  match frame.left with
  | none => frame.unionPart
  | some (operator, left) =>
      let right := frame.unionPart
      ⟨operator.apply (f.fold left.set) (f.fold right.set), max left.depth right.depth + 1⟩

/-- An operator makes what was read its left side. -/
def operate (f : Flags) (operator : Operator) (frame : Frame) : Frame :=
  { start frame.negated with left := some (operator, frame.combined f) }

/-- The closing bracket. -/
def close? (f : Flags) (frame : Frame) : Option Part :=
  let part := frame.combined f
  (f.settle? frame.negated part.set).map fun s => ⟨s, part.depth + 1⟩

end Frame

/-- Reads what may follow an opening bracket: a caret for the complement, hyphens that
stand for themselves, and a closing bracket that stands for itself if nothing precedes
it. Something has to follow. -/
def readOpening? (spaced : Bool) (t : Text) : Option (Frame × Text) :=
  let t := Lexical.skip spaced t
  let (negated, t) := match t with
    | '^' :: rest => (true, Lexical.skip spaced rest)
    | t => (false, t)
  let (hyphens, t) := Lexical.takeAll spaced (· == '-') t
  let frame := hyphens.foldl (fun frame c => frame.add ⟨.single c, 0⟩) (Frame.start negated)
  match t with
  | [] => none
  | c :: rest =>
      if hyphens.isEmpty && c == ']' then
        match Lexical.skip spaced rest with
        | [] => none
        | rest => some (frame.add ⟨.single c, 0⟩, rest)
      else some (frame, c :: rest)

/-- Reads the name of a set after an opening bracket: `:alpha:]`, or `:^alpha:]` for the
complement. -/
def readName? : Text → Option (Bool × CharSet × Text)
  | ':' :: t =>
      let (negated, t) := match t with
        | '^' :: rest => (true, rest)
        | t => (false, t)
      match Text.cut? ":]".toList t with
      | some (name, rest) =>
          (Property.bracketName? (String.ofList name)).map fun s => (negated, s, rest)
      | none => none
  | _ => none

/-- An end of a range, or a set. -/
inductive Item where
  | char (c : Char)
  | set (s : CharSet)
deriving DecidableEq, Repr

def Item.toSet : Item → CharSet
  | char c => .single c
  | set s => s

/-- Without Unicode the characters in brackets are ASCII. -/
def charItem? (f : Flags) (c : Char) : Option Item :=
  if f.unicode || c.toNat < 0x80 then some (.char c) else none

def readItem? (f : Flags) : Text → Option (Item × Text)
  | [] => none
  | '\\' :: rest =>
      match Lexical.readEscape? f rest with
      | some (.char c _, rest) => (charItem? f c).map fun item => (item, rest)
      | some (.set s, rest) => some (.set s, rest)
      | some (.anchor _, _) => none
      | none => none
  | c :: rest => (charItem? f c).map fun item => (item, rest)

/-- The character that decides whether a hyphen opens a range: the next one that is not a
blank. A `#` on the way is passed over together with the blanks after it; where nothing
but blanks follows, the character right after the hyphen decides. -/
def peek (spaced : Bool) (t : Text) : Option Char :=
  if !spaced then t.head?
  else match Text.trimStart t with
    | [] => t.head?
    | '#' :: rest => (Text.trimStart rest).head?.or t.head?
    | c :: _ => some c

/-- Reads an item or a range. A hyphen before a closing bracket or before another hyphen
opens no range. -/
def readRange? (f : Flags) (t : Text) : Option (CharSet × Text) := do
  let (first, rest) ← readItem? f t
  match Lexical.skip f.spaced rest with
  | [] => none
  | '-' :: rest =>
      if peek f.spaced rest = some ']' ∨ peek f.spaced rest = some '-' then
        some (first.toSet, '-' :: rest)
      else do
        let (last, rest) ← readItem? f (Lexical.skip f.spaced rest)
        match first, last with
        | .char a, .char b => if a ≤ b then some (.ofCodes a.toNat b.toNat, rest) else none
        | _, _ => none
  | rest => some (first.toSet, rest)

/-- Reads up to the bracket that closes the last of the open ones; `frame` is the innermost
open bracket and `outer` those around it. The first argument is more than the length of
the text. -/
def readFrames? (f : Flags) (frame : Frame) (outer : List Frame) :
    Nat → Text → Option (Part × Text)
  | 0, _ => none
  | fuel + 1, t =>
      match Lexical.skip f.spaced t with
      | [] => none
      | '[' :: rest =>
          match readName? rest with
          | some (negated, s, rest) =>
              match f.settle? negated s with
              | some s => readFrames? f (frame.add ⟨s, 0⟩) outer fuel rest
              | none => none
          | none =>
              match readOpening? f.spaced rest with
              | some (inner, rest) => readFrames? f inner (frame :: outer) fuel rest
              | none => none
      | ']' :: rest =>
          match frame.close? f, outer with
          | none, _ => none
          | some part, [] => some (part, rest)
          | some part, parent :: outer => readFrames? f (parent.add part) outer fuel rest
      | '&' :: '&' :: rest => readFrames? f (frame.operate f .inter) outer fuel rest
      | '-' :: '-' :: rest => readFrames? f (frame.operate f .diff) outer fuel rest
      | '~' :: '~' :: rest => readFrames? f (frame.operate f .symmDiff) outer fuel rest
      | t =>
          match readRange? f t with
          | some (s, rest) => readFrames? f (frame.add ⟨s, 0⟩) outer fuel rest
          | none => none

/-- Reads a bracketed set after its opening bracket. -/
def read? (f : Flags) (t : Text) : Option (Part × Text) := do
  let (frame, rest) ← readOpening? f.spaced t
  readFrames? f frame [] (rest.length + 1) rest

end Bracketed

end Criteria
