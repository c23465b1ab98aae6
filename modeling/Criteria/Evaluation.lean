import Criteria.Filter
import Criteria.Numeral
import Criteria.Pattern.Reader
import Criteria.Variables

/-!
# Evaluating a filter

A filter is evaluated in one of two modes.

* In context mode the subject and the controls are texts in which placeholders
  are resolved. Controls are compared as resolved, and the subject counts as a
  number only if it is written as one. An error is an event and no match.
* In literal mode a value is given, or is missing and reads as `null`. Quotes
  around the value and around a single control do not count, and what people
  write around numbers does not either. An error is the result.

Both modes share one comparison, `compare`.
-/

namespace Criteria

inductive Mode where
  | context (names : Context)
  | literal

namespace Mode

def name : Mode → ModeName
  | context _ => .context
  | literal => .literal

def isLiteral : Mode → Bool
  | context _ => false
  | literal => true

/-- A literal has no placeholders. -/
def resolve : Mode → Text → Text
  | context names, t => names.resolve t
  | literal, t => t

/-- The text to compare with. -/
def expected : Mode → Text → Traced Text
  | context names, controls => .quiet (names.resolve controls)
  | literal, controls => Controls.readScalar controls

/-- The number on the left side of a comparison. -/
def number? : Mode → Text → Option Binary64
  | context _, actual => Numeral.read? actual
  | literal, actual => Numeral.readCleaned? actual

def allows (mode : Mode) (comparator : Comparator) : Bool :=
  match comparator.mode with
  | .any => true
  | .contextOnly => !mode.isLiteral
  | .literalOnly => mode.isLiteral

/-- Whether a name is defined; only a context knows. -/
def isDefined (mode : Mode) (comparator : Comparator) (name : Text) : Except FilterError Bool :=
  match mode with
  | context names => .ok (names.isDefined name)
  | literal => .error (.unsupported comparator)

end Mode

namespace Evaluation

/-- Compares two texts as numbers; a side that is none makes the comparison fail. -/
def compareNumbers (comparator : Comparator) (mode : Mode) (test : Ordering → Bool)
    (actual expected : Text) : Traced Bool :=
  match mode.number? actual with
  | none => ⟨false, [.notANumber comparator actual]⟩
  | some x =>
      match Numeral.readCleaned? expected with
      | none => ⟨false, [.notANumber comparator expected]⟩
      | some y => .quiet (Binary64.ordered test x y)

/-- A bound of a range is resolved and freed of its quotes before it is read. -/
def readBound (comparator : Comparator) (mode : Mode) (control : Text) :
    Traced (Option Binary64) :=
  let resolved := mode.resolve (Text.trim control)
  let value := Controls.scalar resolved
  let number := Numeral.readCleaned? (Text.trim value)
  ⟨number, Controls.scalarEvents resolved ++
    if number.isNone then [.notANumber comparator value] else []⟩

def rangeContains (a b : Option Binary64) (value : Binary64) : Bool :=
  match a, b with
  | some a, some b => (Interval.between a b).contains value
  | _, _ => false

/-- Both bounds are read even if the first is no number. -/
def compareRange (comparator : Comparator) (mode : Mode) (actual : Text) (values : List Text) :
    Traced Bool :=
  match mode.number? actual with
  | none => ⟨false, [.notANumber comparator actual]⟩
  | some value =>
      match values with
      | [low, high] =>
          (readBound comparator mode low).andThen fun a =>
            (readBound comparator mode high).map fun b => rangeContains a b value
      | _ => ⟨false, [.missingBounds comparator values.length]⟩

/-- Tests the expected text; against a literal a bracketed list passes if any entry does. -/
def testText (f : Filter) (mode : Mode) (expected : Text) (test : Text → Bool) :
    Traced (Except FilterError Bool) :=
  if mode.isLiteral && Controls.isBracketed f.controls then
    (Controls.readList f.controls).map fun values => values.map fun values => values.any test
  else .quiet (.ok (test expected))

/-- Whether one of the control values resolves to the text. -/
def isMember (f : Filter) (mode : Mode) (actual : Text) : Bool :=
  f.values.any fun value => mode.resolve value == actual

/-- Whether a text matches a pattern. -/
def matchesPattern (actual pattern : Text) : Except FilterError Bool :=
  match Pattern.anchored? pattern with
  | none => .error (.invalidPattern pattern)
  | some compiled => .ok (compiled.isFoundIn actual)

/-- The length of a text as a number is written. -/
def lengthText (t : Text) : Text := Nat.toDigits 10 t.length

/-- The comparison itself. An empty literal is a member of every list, and not a member
of the list without entries. -/
def compare (f : Filter) (mode : Mode) (actual expected : Text) :
    Traced (Except FilterError Bool) :=
  let c := f.comparator
  let absent := mode.isLiteral && actual.isEmpty
  let answer (holds : Bool) : Traced (Except FilterError Bool) := .quiet (.ok holds)
  let numbers (test : Ordering → Bool) (actual : Text) : Traced (Except FilterError Bool) :=
    (compareNumbers c mode test actual expected).map .ok
  match c with
  | .any => answer true
  | .equal => answer (sameTextOrNumber actual expected)
  | .notEqual => answer !(sameTextOrNumber actual expected)
  | .greater => numbers (· == .gt) actual
  | .greaterOrEqual => numbers (· != .lt) actual
  | .lesser => numbers (· == .lt) actual
  | .lesserOrEqual => numbers (· != .gt) actual
  | .hasLengthOf => numbers (· == .eq) (lengthText actual)
  | .is | .isIn => answer (absent || isMember f mode actual)
  | .isNot | .notIn =>
      answer ((absent && Controls.isEmptyList f.controls) || !isMember f mode actual)
  | .between => (compareRange c mode actual f.values).map .ok
  | .startsWith => testText f mode expected fun control => control.isPrefixOf actual
  | .endsWith => testText f mode expected fun control => control.isSuffixOf actual
  | .contain => answer (f.values.all fun value => Text.occursIn (mode.resolve value) actual)
  | .matching => .quiet (matchesPattern actual (Text.trim (mode.resolve f.controls)))
  | .isEmpty => answer actual.isEmpty
  | .isNotEmpty => answer !actual.isEmpty
  | .isDefined => .quiet (mode.isDefined c f.subject)
  | .isUndefined => .quiet ((mode.isDefined c f.subject).map (!·))

/-- Evaluates a filter on the text of its subject. -/
def evaluate (f : Filter) (mode : Mode) (actual : Text) : Traced (Except FilterError Bool) :=
  if mode.allows f.comparator then
    (mode.expected f.controls).andThen fun expected =>
      (Traced.raise (.comparing mode.name actual f.comparator expected)).andThen fun _ =>
        compare f mode actual expected
  else .quiet (.error (.unsupported f.comparator))

end Evaluation

namespace Filter

/-- An error of a context evaluation is raised as an event and counts as no match. -/
def settle (f : Filter) : Except FilterError Bool → Traced Bool
  | .ok holds => .quiet holds
  | .error e => ⟨false, [.failed f.display e]⟩

/-- Evaluates a filter in a context. -/
def evaluateIn (f : Filter) (names : Context) : Traced Bool :=
  (Evaluation.evaluate f (.context names) (names.resolve f.subject)).andThen f.settle

/-- The value that a missing literal reads as. -/
def missingLiteral : Text := "null".toList

/-- Evaluates a filter on a literal value; the comparator that always holds does not look
at it. -/
def evaluateOn (f : Filter) (data : Option Text) : Traced (Except FilterError Bool) :=
  if f.comparator = .any then .quiet (.ok true)
  else
    (Controls.readScalar (data.getD missingLiteral)).andThen fun actual =>
      Evaluation.evaluate f .literal actual

end Filter

end Criteria
