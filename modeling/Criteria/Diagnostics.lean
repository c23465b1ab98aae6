import Criteria.Error

/-!
# Diagnostics

Reading and evaluating a filter raises events besides their result. A result
that comes with its events is a `Traced` value: the events are in the order in
which they were raised.
-/

namespace Criteria

/-- The two ways of evaluating a filter. -/
inductive ModeName where
  | context
  | literal
deriving DecidableEq, Repr

def ModeName.text : ModeName → Text
  | context => "context".toList
  | literal => "literal".toList

inductive Event where
  /-- A value opens or closes with a double quote, but does not do both. -/
  | unbalancedQuote (value : Text)
  /-- An evaluation reached its comparison. -/
  | comparing (mode : ModeName) (actual : Text) (comparator : Comparator) (expected : Text)
  | notANumber (comparator : Comparator) (value : Text)
  /-- A range comparison found other than two bounds. -/
  | missingBounds (comparator : Comparator) (count : Nat)
  /-- An error that counts as no match. -/
  | failed (filter : Text) (error : FilterError)
deriving DecidableEq, Repr

inductive Severity where
  | debug
  | warning
  | error
deriving DecidableEq, Repr

def Severity.label : Severity → Text
  | debug => "DEBUG".toList
  | warning => "WARN".toList
  | error => "ERROR".toList

namespace Event

def severity : Event → Severity
  | unbalancedQuote _ | notANumber .. | missingBounds .. => .warning
  | comparing .. => .debug
  | failed .. => .error

def message : Event → Text
  | unbalancedQuote _ => "found unbalanced double-quote, possible data issue".toList
  | comparing _ actual comparator expected =>
      '(' :: actual ++ ' ' :: comparator.symbol ++ ' ' :: expected ++ [')']
  | notANumber .. => "NOT A NUMBER".toList
  | missingBounds .. => "EXPECTS [min|max]".toList
  | failed .. => "filter evaluation failed".toList

/-- An event as a line of a log. -/
def line (event : Event) : Text :=
  event.severity.label ++ ' ' :: event.message ++ ['\n']

end Event

/-- A result and the events raised on the way to it, oldest first. -/
structure Traced (α : Type) where
  result : α
  events : List Event

namespace Traced

variable {α β : Type}

/-- A result without events. -/
def quiet (a : α) : Traced α := ⟨a, []⟩

/-- The events of the second step follow those of the first. -/
def andThen (first : Traced α) (next : α → Traced β) : Traced β :=
  let second := next first.result
  ⟨second.result, first.events ++ second.events⟩

def map (f : α → β) (t : Traced α) : Traced β := ⟨f t.result, t.events⟩

/-- Raises one event. -/
def raise (event : Event) : Traced Unit := ⟨(), [event]⟩

end Traced

end Criteria
