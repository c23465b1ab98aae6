import Criteria.Diagnostics

/-!
# Control texts

The controls of a filter are a single value, a list `[a|b|c]` or a pair of
bounds `[min|max]`. A value may stand in double quotes. Reading a control text
also says which of its values have a quote on one side only.
-/

namespace Criteria

namespace Controls

/-! ## Single values -/

/-- A value without the blanks around it and without one pair of double quotes. -/
def scalar (t : Text) : Text := Text.unwrap '"' (Text.trim t)

/-- A value that opens or closes with a double quote but does not do both. -/
def isUnbalanced (value : Text) : Bool :=
  (value.head? == some '"') != (value.getLast? == some '"')

/-- The event that reading a value raises. -/
def scalarEvents (t : Text) : List Event :=
  let value := Text.trim t
  if isUnbalanced value then [.unbalancedQuote value] else []

def readScalar (t : Text) : Traced Text := ⟨scalar t, scalarEvents t⟩

/-! ## Lists -/

/-- What stands between the brackets of a control text. -/
def interior? (t : Text) : Option Text := Text.inside? '[' ']' (Text.trim t)

def isBracketed (t : Text) : Bool := (interior? t).isSome

/-- Brackets with nothing but blanks in and around them. -/
def isEmptyList (t : Text) : Bool := Text.squeeze t == ['[', ']']

/-- The entries between the brackets as they are written. Blanks at the two ends of the
interior do not count, and an entry without a character is none. -/
def entries (interior : Text) : List Text :=
  (Text.split '|' (Text.trim interior)).filter fun entry => !entry.isEmpty

/-- Reads every entry as a value. -/
def readEntries (interior : Text) : Traced (List Text) :=
  ⟨(entries interior).map scalar, (entries interior).flatMap scalarEvents⟩

def readList (controls : Text) : Traced (Except FilterError (List Text)) :=
  match interior? controls with
  | none => .quiet (.error (.malformedList controls))
  | some interior => (readEntries interior).map .ok

/-- A range has exactly two values. -/
def asBounds (controls : Text) (values : List Text) : Except FilterError (List Text) :=
  if values.length = 2 then .ok values
  else .error (.malformedRange controls (.count values.length))

def readRange (controls : Text) : Traced (Except FilterError (List Text)) :=
  match interior? controls with
  | none => .quiet (.error (.malformedRange controls .unbracketed))
  | some interior => (readEntries interior).map (asBounds controls)

/-- The control values of a comparator that takes a list or a range; the others have
none. Containment also takes one value without brackets. -/
def valuesFor (comparator : Comparator) (controls : Text) :
    Traced (Except FilterError (List Text)) :=
  match comparator.arity with
  | .list =>
      if comparator = .contain ∧ !isBracketed controls then
        (readScalar controls).map fun value => .ok [value]
      else readList controls
  | .range => readRange controls
  | .none | .scalar => .quiet (.ok [])

end Controls

end Criteria
