import Criteria.Pattern.Basic

/-!
# The weight of a pattern

Repetition is written with numbers, so a short pattern may describe a huge one.
The weight of a pattern is the size in bytes of the automaton over the bytes of
a text that spells its repetitions out. There is one automaton for each
direction of reading, and a pattern is refused if either of them is heavier than
`Pattern.maxWeight`.
-/

namespace Criteria

/-- The direction in which an automaton reads a text. -/
inductive Direction where
  | forwards
  | backwards
deriving DecidableEq, Repr

/-- The size of one state. -/
def stateSize : Nat := 32

/-- What a range of bytes adds to the size of a state that tells several apart. -/
def branchSize : Nat := 8

/-- What one more way to go on adds to the size of a state of choice. -/
def linkSize : Nat := 4

namespace CharSet

/-! ## Spellings of sets

Every byte of a character after the first carries a digit to the base 64, so the
spellings of a range are rows of byte ranges such that every choice of bytes from
a row is a character of the range.
-/

/-- The numbers of `places + 1` digits to the base 64 from `low` to `high`, as rows of
ranges of digits. A row with a whole range in some place has whole ranges in all places
after it. -/
def digitRows : Nat → Nat → Nat → List (List CodeRange)
  | 0, low, high => [[⟨low, high⟩]]
  | places + 1, low, high =>
      let unit := 1 <<< (6 * (places + 1))
      let first := low / unit
      let last := high / unit
      let startsWhole := low % unit == 0
      let endsWhole := high % unit == unit - 1
      if first = last then
        (digitRows places (low % unit) (high % unit)).map (⟨first, first⟩ :: ·)
      else
        let opening :=
          if startsWhole then []
          else (digitRows places (low % unit) (unit - 1)).map (⟨first, first⟩ :: ·)
        let closing :=
          if endsWhole then []
          else (digitRows places 0 (high % unit)).map (⟨last, last⟩ :: ·)
        let first := if startsWhole then first else first + 1
        let stop := if endsWhole then last + 1 else last
        let middle :=
          if first < stop then
            [⟨first, stop - 1⟩ :: List.replicate (places + 1) ⟨0, 63⟩]
          else []
        opening ++ middle ++ closing

/-- The ranges of code points whose spellings have the same number of bytes after the first,
with this number. The surrogates have no spelling. -/
def spellingForms : List (Nat × CodeRange) :=
  [(0, ⟨0, 0x7F⟩), (1, ⟨0x80, 0x7FF⟩), (2, ⟨0x800, 0xD7FF⟩), (2, ⟨0xE000, 0xFFFF⟩),
    (3, ⟨0x10000, maxCode⟩)]

/-- Marks the first byte of a row with the number of those after it, as in a text. -/
def markFirst (places : Nat) : List CodeRange → List CodeRange
  | [] => []
  | r :: row =>
      let mark := match places with
        | 0 => 0
        | 1 => 0xC0
        | 2 => 0xE0
        | _ => 0xF0
      ⟨r.first + mark, r.last + mark⟩ :: row

/-- The spellings of the characters of a set, in order. -/
def spellings (s : CharSet) : List (List CodeRange) :=
  s.ranges.flatMap fun r =>
    spellingForms.flatMap fun (places, form) =>
      let first := max r.first form.first
      let last := min r.last form.last
      if first ≤ last then (digitRows places first last).map (markFirst places) else []

/-- How many ranges two rows have in common before they differ. -/
def sharedLength : List CodeRange → List CodeRange → Nat
  | r :: row, s :: row' => if r = s then sharedLength row row' + 1 else 0
  | _, _ => 0

/-- Backwards, a row shares states with the row before it as far as the two begin alike. -/
def statesBackwards (before : List CodeRange) : List (List CodeRange) → Nat
  | [] => 0
  | row :: rest => row.length - sharedLength before row + statesBackwards row rest

/-- The rows that begin alike, without the range that they begin with. -/
def byFirst : List (List CodeRange) → List (CodeRange × List (List CodeRange))
  | [] => []
  | [] :: rest => byFirst rest
  | (r :: row) :: rest =>
      match byFirst rest with
      | [] => [(r, [row])]
      | (s, rows) :: others =>
          if r = s then (r, row :: rows) :: others else (r, [row]) :: (s, rows) :: others

/-- Forwards, there is a state for what may follow the beginning of a row, down to a number
of bytes. -/
def statesForwards : Nat → List (List CodeRange) → List (List (List CodeRange))
  | 0, _ => []
  | places + 1, rows =>
      match byFirst rows with
      | [] => []
      | groups => rows :: groups.flatMap fun group => statesForwards places group.2

/-- Forwards, states that go on alike are the same state. -/
def weightForwards (rows : List (List CodeRange)) : Nat :=
  (statesForwards 4 rows).eraseDups.foldl
    (fun total state => total + stateSize + branchSize * (byFirst state).length) stateSize

/-- Backwards, there is a choice between the rows, and a state for each of their ranges. -/
def weightBackwards (rows : List (List CodeRange)) : Nat :=
  2 * stateSize + linkSize * rows.length + stateSize * statesBackwards [] rows

/-- A character takes a state for each of its bytes, and a set of ASCII characters one state
that tells its ranges apart and one where they meet. -/
def weight (direction : Direction) (s : CharSet) : Nat :=
  if s.ranges.length = 1 ∧ s.ranges.all fun r => r.first = r.last then
    stateSize * (s.spellings.headD []).length
  else if s.isAscii then 2 * stateSize + branchSize * s.ranges.length
  else
    match direction with
    | .forwards => weightForwards s.spellings
    | .backwards => weightBackwards s.spellings

end CharSet

namespace Pattern

/-! ## Parts that take less than they seem to -/

/-- Patterns whose spans are all empty by their form. -/
def isEmptyOnly : Pattern → Bool
  | empty | anchor _ => true
  | one _ => false
  | sequence p q | either p q => p.isEmptyOnly && q.isEmptyOnly
  | repeated p least extra => p.isEmptyOnly || (least == 0 && extra == some 0)
  | group p => p.isEmptyOnly

/-- Patterns that may describe an empty span by their form. A set without characters counts
as one. -/
def mayBeEmpty : Pattern → Bool
  | empty | anchor _ => true
  | one s => s.ranges.isEmpty
  | sequence p q => p.mayBeEmpty && q.mayBeEmpty
  | either p q => p.mayBeEmpty || q.mayBeEmpty
  | repeated p least _ => p.mayBeEmpty || least == 0
  | group p => p.mayBeEmpty

/-- Patterns that say nothing, so that a sequence drops them. -/
def isTrivial : Pattern → Bool
  | empty => true
  | sequence p q => p.isTrivial && q.isTrivial
  | repeated p least extra => (p.isTrivial && least != 0) || (least == 0 && extra == some 0)
  | _ => false

/-- A choice between characters is a set. -/
def asSet? : Pattern → Option CharSet
  | one s => some s
  | either p q => p.asSet?.bind fun s => q.asSet?.map s.union
  | _ => none

/-- The copies that have to be spelt out, the least number and those beyond: more than one
copy of what is empty says no more than one. -/
def copies (emptyOnly : Bool) (least : Nat) (extra : Option Nat) : Nat × Option Nat :=
  if emptyOnly then
    let once := min least 1
    (once, some (extra.elim 1 (fun extra => min (least + extra) 1) - once))
  else (least, extra)

/-! ## Weights -/

/-- A state that chooses between two ways to go on. -/
def forkSize : Nat := stateSize + 2 * linkSize

/-- The weight of copies of a part. Each copy that may be left out has a fork before it, and
any number of copies takes one fork behind the last that is spelt out. With no copy to stand
behind, the fork of a part that may be empty needs a second one before the part. -/
def copiesWeight (weight : Nat) (mayBeEmpty : Bool) : Nat → Option Nat → Nat
  | 0, some 0 => stateSize
  | least, some 0 => least * weight
  | 0, some 1 => weight + forkSize + stateSize
  | 0, some extra => 2 * stateSize + extra * (weight + forkSize)
  | least, some extra => least * weight + stateSize + extra * (weight + forkSize)
  | 0, none => if mayBeEmpty then weight + 2 * forkSize + stateSize else weight + forkSize
  | least, none => least * weight + forkSize

/-- The weight of a pattern in one direction, either alone or as a branch of a choice, which
has one state to choose and one where its branches meet. Only the automaton that reads
forwards has the two states that note what a group captures. -/
def weight (direction : Direction) (branch : Bool) (p : Pattern) : Nat :=
  match p with
  | either p q =>
      if branch then p.weight direction true + q.weight direction true
      else
        match (either p q).asSet? with
        | some s => s.weight direction
        | none => 2 * stateSize + p.weight direction true + q.weight direction true
  | empty | anchor _ => link + stateSize
  | one s => link + s.weight direction
  | sequence p q =>
      if p.isTrivial then link + q.weight direction false
      else if q.isTrivial then link + p.weight direction false
      else link + p.weight direction false + q.weight direction false
  | repeated p least extra =>
      let spelt := copies p.isEmptyOnly least extra
      link + copiesWeight (p.weight direction false) p.mayBeEmpty spelt.1 spelt.2
  | group p =>
      match direction with
      | .forwards => link + p.weight direction false + 2 * stateSize
      | .backwards => link + p.weight direction false
where
  /-- The link from the choice to its branch. -/
  link : Nat := if branch then linkSize else 0

/-- The greatest weight of a pattern that is accepted: ten mebibytes. -/
def maxWeight : Nat := 10 * 1024 * 1024

/-- Whether the automata of a pattern are not too heavy. Each has a state to begin with and
one for a match; forwards the whole match is captured, too. -/
def isLight (p : Pattern) : Bool :=
  p.weight .forwards false + 4 * stateSize ≤ maxWeight &&
    p.weight .backwards false + 2 * stateSize ≤ maxWeight

end Pattern

end Criteria
