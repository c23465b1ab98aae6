import Criteria.Evaluation
import Criteria.Json

/-!
# The command line

A command line evaluates one filter. With values to test it evaluates the filter
on each of them as a literal, otherwise in the context of the variables given.
The answer is a report on the standard output and an exit code: 0 if every
result is a match, 1 if one is not, 2 if there is no report.

How arguments are read:

* an option that takes a value has it attached after `=`, or as the next
  argument if that does not begin with a dash or is a lone dash;
* an option without a value has none attached and is given at most once;
* an argument that begins with a dash is an option, a lone dash excepted;
* after `--` every argument is an expression;
* exactly one expression is given.
-/

namespace Criteria

/-- What the arguments ask for. -/
structure CommandLine where
  expression : Text
  /-- The literal values, in the order given. -/
  data : List Text
  /-- Whether a missing value is tested as well. -/
  testsMissing : Bool
  vars : List (Text × Text)
  pretty : Bool
  verbose : Bool
deriving DecidableEq, Repr

namespace CommandLine

/-- The arguments read so far. -/
structure Reading where
  expression : Option Text
  /-- The literal values, the latest first. -/
  data : List Text
  testsMissing : Bool
  /-- The variables, the latest first. -/
  vars : List (Text × Text)
  pretty : Bool
  verbose : Bool

def Reading.start : Reading := ⟨none, [], false, [], false, false⟩

/-- The options that take a value. -/
inductive ValueOption where
  | data
  | var
deriving DecidableEq, Repr

/-- The options that take none. -/
inductive Switch where
  | missing
  | pretty
  | verbose
deriving DecidableEq, Repr

/-- A variable is given as `NAME=VALUE`; blanks around the name do not count. -/
def readVar? (t : Text) : Option (Text × Text) :=
  (Text.cut? ['='] t).map fun (name, value) => (Text.trim name, value)

def Reading.addExpression? (r : Reading) (t : Text) : Option Reading :=
  if r.expression.isSome then none else some { r with expression := some t }

def Reading.addValue? (r : Reading) : ValueOption → Text → Option Reading
  | .data, t => some { r with data := t :: r.data }
  | .var, t => (readVar? t).map fun pair => { r with vars := pair :: r.vars }

def Reading.turnOn? (r : Reading) : Switch → Option Reading
  | .missing => if r.testsMissing then none else some { r with testsMissing := true }
  | .pretty => if r.pretty then none else some { r with pretty := true }
  | .verbose => if r.verbose then none else some { r with verbose := true }

def valueOption? (name : Text) : Option ValueOption :=
  if name = "data".toList then some .data
  else if name = "var".toList then some .var
  else none

def longSwitch? (name : Text) : Option Switch :=
  if name = "null".toList then some .missing
  else if name = "pretty".toList then some .pretty
  else if name = "verbose".toList then some .verbose
  else none

/-- Each letter after a single dash is a switch. -/
def Reading.turnOnLetters? (r : Reading) : Text → Option Reading
  | [] => some r
  | c :: rest =>
      if c = 'v' then (r.turnOn? .verbose).bind fun r => r.turnOnLetters? rest else none

/-- The kinds of argument before `--`. -/
inductive Argument where
  | endOfOptions
  /-- An option with its name after two dashes and the value attached to it. -/
  | long (name : Text) (attached : Option Text)
  | letters (letters : Text)
  | plain (t : Text)
deriving DecidableEq, Repr

def Argument.ofText : Text → Argument
  | '-' :: '-' :: [] => .endOfOptions
  | '-' :: '-' :: body =>
      match Text.cut? ['='] body with
      | some (name, value) => .long name (some value)
      | none => .long body none
  | '-' :: c :: rest => .letters (c :: rest)
  | t => .plain t

/-- Reads the arguments after `--`. -/
def Reading.readExpressions? (r : Reading) : List Text → Option Reading
  | [] => some r
  | t :: rest => (r.addExpression? t).bind fun r => r.readExpressions? rest

/-- Reads the arguments from left to right. -/
def Reading.readAll? (r : Reading) : List Text → Option Reading
  | [] => some r
  | t :: rest =>
      match Argument.ofText t with
      | .endOfOptions => r.readExpressions? rest
      | .plain t => (r.addExpression? t).bind fun r => r.readAll? rest
      | .letters letters => (r.turnOnLetters? letters).bind fun r => r.readAll? rest
      | .long name attached =>
          match valueOption? name, attached with
          | some option, some value => (r.addValue? option value).bind fun r => r.readAll? rest
          | some option, none =>
              match rest with
              | [] => none
              | value :: rest =>
                  match Argument.ofText value with
                  | .plain value => (r.addValue? option value).bind fun r => r.readAll? rest
                  | _ => none
          | none, some _ => none
          | none, none =>
              match longSwitch? name with
              | some switch => (r.turnOn? switch).bind fun r => r.readAll? rest
              | none => none

/-- Reads a command line; none if the arguments break a rule. -/
def ofArguments? (arguments : List Text) : Option CommandLine := do
  let r ← Reading.start.readAll? arguments
  let expression ← r.expression
  some ⟨expression, r.data.reverse, r.testsMissing, r.vars.reverse, r.pretty, r.verbose⟩

/-! ## The report -/

/-- The result for one input; a missing input has no text. -/
structure Outcome where
  input : Option Text
  matched : Bool
deriving DecidableEq, Repr

structure Report where
  filter : Text
  mode : ModeName
  results : List Outcome
deriving DecidableEq, Repr

def Outcome.toJson (o : Outcome) : Json :=
  .object
    [("input".toList, match o.input with | some t => .string t | none => .null),
     ("matched".toList, .bool o.matched)]

def Report.toJson (r : Report) : Json :=
  .object
    [("filter".toList, .string r.filter),
     ("mode".toList, .string r.mode.text),
     ("results".toList, .array (r.results.map Outcome.toJson))]

/-- The literals to test: the values in order, then the missing one. -/
def inputs (c : CommandLine) : List (Option Text) :=
  c.data.map some ++ if c.testsMissing then [none] else []

/-- Tests the literals in order up to the first error. -/
def testLiterals (f : Filter) : List (Option Text) → Traced (Except FilterError (List Outcome))
  | [] => .quiet (.ok [])
  | input :: rest =>
      (f.evaluateOn input).andThen fun
        | .error e => .quiet (.error e)
        | .ok matched =>
            (testLiterals f rest).map fun results => results.map (⟨input, matched⟩ :: ·)

/-- The report on a filter. -/
def reportOn (c : CommandLine) (f : Filter) : Traced (Except FilterError Report) :=
  if c.inputs.isEmpty then
    (f.evaluateIn (Variables.ofPairs c.vars)).map fun matched =>
      .ok ⟨f.display, .context, [⟨none, matched⟩]⟩
  else
    (testLiterals f c.inputs).map fun results =>
      results.map fun results => ⟨f.display, .literal, results⟩

/-- The report that a command line asks for. -/
def report (c : CommandLine) : Traced (Except FilterError Report) :=
  (Filter.parse c.expression).andThen fun
    | .error e => .quiet (.error e)
    | .ok f => c.reportOn f

def Report.allMatched (r : Report) : Bool := r.results.all Outcome.matched

/-- The written form of a report, on one line or over several. -/
def Report.text (r : Report) (pretty : Bool) : Text :=
  (if pretty then r.toJson.pretty else r.toJson.compact) ++ ['\n']

/-- Whether an event is worth a line of the log. -/
def logs (c : CommandLine) (event : Event) : Bool := c.verbose || event.severity != .debug

def log (c : CommandLine) (events : List Event) : Text :=
  (events.filter c.logs).flatMap Event.line

/-! ## The answer -/

/-- What a run writes and the code it ends with. -/
structure Answer where
  code : Nat
  stdout : Text
  stderr : Text
deriving DecidableEq, Repr

def usage : Text :=
  ("usage: criteria <EXPR> [--data VALUE]... [--null] [--var NAME=VALUE]... " ++
    "[--pretty] [-v|--verbose]\n").toList

/-- The answer to a command line. -/
def answerTo (c : CommandLine) : Answer :=
  let report := c.report
  match report.result with
  | .error e => ⟨2, [], c.log report.events ++ e.message ++ ['\n']⟩
  | .ok r => ⟨if r.allMatched then 0 else 1, r.text c.pretty, c.log report.events⟩

/-- The answer to a list of arguments. -/
def answer (arguments : List Text) : Answer :=
  match ofArguments? arguments with
  | none => ⟨2, [], usage⟩
  | some c => c.answerTo

end CommandLine

end Criteria
