import Criteria.Sentence
import Criteria.Controls

/-!
# Filters

A filter is a subject, a comparator and its controls. It is made from its parts
or parsed from a text; `Filter.display` writes it with the comparator's symbol.
-/

namespace Criteria

structure Filter where
  subject : Text
  comparator : Comparator
  /-- The control text as written, without the blanks around it. -/
  controls : Text
  /-- The control values of a comparator that takes a list or a range. -/
  values : List Text
deriving DecidableEq, Repr

/-- Looks a comparator up by its spelling. What no comparator is spelt like is reported as it
is, without the blanks around it. -/
def Comparator.lookup (spelling : Text) : Except FilterError Comparator :=
  match Comparator.find? spelling with
  | some comparator => .ok comparator
  | none => .error (.unknownComparator (Text.trim spelling))

namespace Filter

/-- The subject that stands for any subject. -/
def anySubject : Text := "[ANY]".toList

def isAnySubject (f : Filter) : Bool := f.subject == anySubject

/-- Makes a filter from its parts, with the events of reading its control values. -/
def make (subject : Text) (comparator : Comparator) (controls : Text) :
    Traced (Except FilterError Filter) :=
  let subject := Text.trim subject
  let controls := Text.trim controls
  if subject.isEmpty then
    .quiet (.error (.malformedFilter (subject ++ ' ' :: comparator.symbol ++ ' ' :: controls)
      .blankSubject))
  else
    (Controls.valuesFor comparator controls).map fun values =>
      values.map fun values => ⟨subject, comparator, controls, values⟩

/-- Parses a filter text, with the events of reading its control values. -/
def parse (t : Text) : Traced (Except FilterError Filter) :=
  if (Text.trim t).isEmpty then .quiet (.error (.malformedFilter t .blank))
  else match Sentence.split? t with
    | none => .quiet (.error (.malformedFilter t .noComparator))
    | some parts =>
        if (Text.trim parts.subject).isEmpty then
          .quiet (.error (.malformedFilter t .blankSubject))
        else match Comparator.lookup parts.operator with
          | .error e => .quiet (.error e)
          | .ok comparator => make parts.subject comparator parts.controls

/-- The text of a filter; controls without a character leave no blank behind. -/
def display (f : Filter) : Text :=
  f.subject ++ ' ' :: f.comparator.symbol ++
    if f.controls.isEmpty then [] else ' ' :: f.controls

end Filter

end Criteria
