import Criteria.Proofs.Arguments
import Criteria.Proofs.Evaluation
import Criteria.Proofs.Json

/-!
# What a command line is answered

The answer to accepted arguments is a report and a code, or the code of a failure
without a report.

* `Fails`: the expression is no filter, or a literal cannot be evaluated.
* `Results`: the results that are due for the inputs, in the order of the inputs.
* `testLiterals_ok_iff`, `testLiterals_error_iff`: testing literals gives all the
  results or the first error.
* `answer_of_accepted`: the answer to every list of arguments that is accepted.
-/

namespace Criteria

namespace CommandLine

/-! ## The report that is due -/

/-- There is no report to a command line that fails. -/
inductive Fails (c : CommandLine) : Prop
  | expression {e : FilterError} : (Filter.parse c.expression).result = .error e → Fails c
  | datum {f : Filter} {t : Text} {e : FilterError} : (Filter.parse c.expression).result = .ok f →
      t ∈ c.data → (f.evaluateOn (some t)).result = .error e → Fails c
  | missing {f : Filter} {e : FilterError} : (Filter.parse c.expression).result = .ok f →
      c.testsMissing = true → (f.evaluateOn none).result = .error e → Fails c

/-- Whether there is a literal to test. -/
def TestsLiterals (c : CommandLine) : Prop := c.data ≠ [] ∨ c.testsMissing = true

instance (c : CommandLine) : Decidable c.TestsLiterals := inferInstanceAs (Decidable (_ ∨ _))

/-- `Results c f outcomes`: the results that the command line asks for, in their order. -/
structure Results (c : CommandLine) (f : Filter) (outcomes : List Outcome) : Prop where
  /-- Each literal in the order given, then the missing one. -/
  literal_inputs : c.TestsLiterals → outcomes.map Outcome.input =
    c.data.map some ++ if c.testsMissing then [none] else []
  literal_matched : c.TestsLiterals →
    ∀ o ∈ outcomes, (f.evaluateOn o.input).result = .ok o.matched
  /-- One result without an input, for the variables given. -/
  context : ¬ c.TestsLiterals →
    outcomes = [⟨none, (f.evaluateIn (Variables.ofPairs c.vars)).result⟩]

/-- A report as a document. -/
def document (display mode : Text) (outcomes : List Outcome) : Json :=
  .object
    [("filter".toList, .string display),
      ("mode".toList, .string mode),
      ("results".toList, .array <| outcomes.map fun o => .object
        [("input".toList, o.input.elim .null .string), ("matched".toList, .bool o.matched)])]

/-- `Reports c f outcomes a`: the answer is a report of the results. -/
structure Reports (c : CommandLine) (f : Filter) (outcomes : List Outcome) (a : Answer) : Prop where
  stdout : ∃ text, a.stdout = text ++ ['\n'] ∧ Json.Denotes text
    (document f.display (if c.TestsLiterals then "literal".toList else "context".toList) outcomes)
  code : a.code = if ∀ o ∈ outcomes, o.matched = true then 0 else 1

/-! ## Testing literals -/

section Testing

variable {f : Filter} {inputs : List (Option Text)} {outcomes : List Outcome}

theorem testLiterals_cons (input : Option Text) :
    (testLiterals f (input :: inputs)).result =
      (f.evaluateOn input).result.bind fun matched =>
        (testLiterals f inputs).result.map fun outcomes => ⟨input, matched⟩ :: outcomes := by
  rw [testLiterals, Traced.andThen_result]
  cases (f.evaluateOn input).result <;> rfl

theorem testLiterals_cons_ok_iff {input : Option Text} :
    (testLiterals f (input :: inputs)).result = .ok outcomes ↔
      ∃ matched tested, (f.evaluateOn input).result = .ok matched ∧
        (testLiterals f inputs).result = .ok tested ∧ ⟨input, matched⟩ :: tested = outcomes := by
  rw [testLiterals_cons]
  cases (f.evaluateOn input).result with
  | error e => simp [Except.bind]
  | ok matched => cases (testLiterals f inputs).result <;> simp [Except.bind, Except.map]

/-- Literals are tested with success if each of them is. -/
theorem testLiterals_ok_iff :
    (testLiterals f inputs).result = .ok outcomes ↔
      outcomes.map Outcome.input = inputs ∧
        ∀ o ∈ outcomes, (f.evaluateOn o.input).result = .ok o.matched := by
  induction inputs generalizing outcomes with
  | nil => cases outcomes <;> simp [testLiterals, Traced.quiet]
  | cons input inputs ih =>
    rw [testLiterals_cons_ok_iff]
    constructor
    · rintro ⟨matched, tested, first, rest, rfl⟩
      obtain ⟨rfl, each⟩ := ih.mp rest
      exact ⟨rfl, List.forall_mem_cons.mpr ⟨first, each⟩⟩
    · rintro ⟨inOrder, each⟩
      obtain ⟨o, tested, rfl, rfl, rest⟩ := List.map_eq_cons_iff.mp inOrder
      obtain ⟨first, each⟩ := List.forall_mem_cons.mp each
      exact ⟨o.matched, tested, first, ih.mpr ⟨rest, each⟩, rfl⟩

/-- One literal that cannot be evaluated leaves no results, whatever came before it. -/
theorem testLiterals_error_iff :
    (∃ e, (testLiterals f inputs).result = .error e) ↔
      ∃ input ∈ inputs, ∃ e, (f.evaluateOn input).result = .error e := by
  induction inputs with
  | nil => simp [testLiterals, Traced.quiet]
  | cons input inputs ih =>
    rw [testLiterals_cons]
    simp only [List.mem_cons, exists_eq_or_imp, ← ih]
    cases (f.evaluateOn input).result with
    | error e => simp [Except.bind]
    | ok matched => cases (testLiterals f inputs).result <;> simp [Except.bind, Except.map]

end Testing

/-! ## The answer -/

section Answering

variable {c : CommandLine} {f : Filter} {outcomes : List Outcome}

theorem mem_inputs_iff {input : Option Text} :
    input ∈ c.inputs ↔ (∃ t ∈ c.data, some t = input) ∨ c.testsMissing = true ∧ input = none := by
  unfold inputs
  cases c.testsMissing <;> simp

theorem inputs_eq_nil_iff : c.inputs = [] ↔ ¬ c.TestsLiterals := by
  unfold inputs TestsLiterals
  cases c.testsMissing <;> simp

theorem report_of_error {e : FilterError} (broken : (Filter.parse c.expression).result = .error e) :
    c.report.result = .error e := by
  simp only [report, Traced.andThen_result, broken, Traced.quiet]

theorem report_of_literals (parsed : (Filter.parse c.expression).result = .ok f)
    (tests : c.TestsLiterals) :
    c.report.result =
      (testLiterals f c.inputs).result.map fun results => ⟨f.display, .literal, results⟩ := by
  have some : ¬ c.inputs.isEmpty = true := by
    rw [List.isEmpty_iff, inputs_eq_nil_iff]
    exact not_not_intro tests
  simp only [report, Traced.andThen_result, parsed, reportOn, if_neg some, Traced.map_result]

theorem report_of_context (parsed : (Filter.parse c.expression).result = .ok f)
    (tests : ¬ c.TestsLiterals) :
    c.report.result = .ok ⟨f.display, .context,
      [⟨none, (f.evaluateIn (Variables.ofPairs c.vars)).result⟩]⟩ := by
  have none : c.inputs.isEmpty = true := List.isEmpty_iff.mpr (inputs_eq_nil_iff.mpr tests)
  simp only [report, Traced.andThen_result, parsed, reportOn, if_pos none, Traced.map_result]

/-- A command line with a filter fails if one of its literals does. -/
theorem fails_iff (parsed : (Filter.parse c.expression).result = .ok f) :
    c.Fails ↔ ∃ input ∈ c.inputs, ∃ e, (f.evaluateOn input).result = .error e := by
  constructor
  · intro fails
    cases fails with
    | expression broken => cases parsed.symm.trans broken
    | datum parsed' mem error =>
      cases parsed.symm.trans parsed'
      exact ⟨_, mem_inputs_iff.mpr (.inl ⟨_, mem, rfl⟩), _, error⟩
    | missing parsed' tested error =>
      cases parsed.symm.trans parsed'
      exact ⟨_, mem_inputs_iff.mpr (.inr ⟨tested, rfl⟩), _, error⟩
  · rintro ⟨input, mem, e, error⟩
    rcases mem_inputs_iff.mp mem with ⟨t, given, rfl⟩ | ⟨tested, rfl⟩
    · exact .datum parsed given error
    · exact .missing parsed tested error

/-- There is an error in place of the report exactly if the command line fails. -/
theorem report_error_iff : (∃ e, c.report.result = .error e) ↔ c.Fails := by
  cases parsed : (Filter.parse c.expression).result with
  | error e => exact ⟨fun _ => .expression parsed, fun _ => ⟨e, report_of_error parsed⟩⟩
  | ok f =>
    rw [fails_iff parsed, ← testLiterals_error_iff]
    rcases Decidable.em c.TestsLiterals with tests | tests
    · rw [report_of_literals parsed tests]
      cases (testLiterals f c.inputs).result <;> simp [Except.map]
    · rw [report_of_context parsed tests, inputs_eq_nil_iff.mpr tests]
      simp [testLiterals, Traced.quiet]

/-- A report holds the results that are due. -/
theorem results_of_report {r : Report} (reported : c.report.result = .ok r) : ∃ f outcomes,
    (Filter.parse c.expression).result = .ok f ∧ c.Results f outcomes ∧
      r = ⟨f.display, if c.TestsLiterals then .literal else .context, outcomes⟩ := by
  cases parsed : (Filter.parse c.expression).result with
  | error e => cases (report_of_error parsed).symm.trans reported
  | ok f =>
    rcases Decidable.em c.TestsLiterals with tests | tests
    · rw [report_of_literals parsed tests] at reported
      cases tested : (testLiterals f c.inputs).result with
      | error e => rw [tested] at reported; cases reported
      | ok outcomes =>
        rw [tested] at reported
        cases reported
        obtain ⟨inOrder, each⟩ := testLiterals_ok_iff.mp tested
        rw [if_pos tests]
        exact ⟨f, outcomes, rfl, ⟨fun _ => inOrder, fun _ => each, absurd tests⟩, rfl⟩
    · rw [report_of_context parsed tests] at reported
      cases reported
      rw [if_neg tests]
      exact ⟨f, _, rfl, ⟨(absurd · tests), (absurd · tests), fun _ => rfl⟩, rfl⟩

theorem answerTo_of_error {e : FilterError} (h : c.report.result = .error e) :
    c.answerTo.code = 2 ∧ c.answerTo.stdout = [] := by
  simp only [answerTo, h, and_self]

theorem answerTo_of_ok {r : Report} (h : c.report.result = .ok r) :
    c.answerTo.code = (if r.allMatched then 0 else 1) ∧ c.answerTo.stdout = r.text c.pretty := by
  simp only [answerTo, h, and_self]

theorem toJson_eq (r : Report) : r.toJson = document r.filter r.mode.text r.results := by
  have entry : Outcome.toJson = fun o => .object
      [("input".toList, o.input.elim .null .string), ("matched".toList, .bool o.matched)] := by
    funext o
    cases o with
    | mk input matched => cases input <;> rfl
  rw [Report.toJson, document, entry]

/-- A report is written as the document of what it holds, on a line or over several. -/
theorem text_denotes (r : Report) (pretty : Bool) : ∃ text, r.text pretty = text ++ ['\n'] ∧
    Json.Denotes text (document r.filter r.mode.text r.results) := by
  rw [← toJson_eq]
  cases pretty with
  | true => exact ⟨_, rfl, Json.pretty_denotes _⟩
  | false => exact ⟨_, rfl, Json.compact_denotes _⟩

theorem allMatched_iff (r : Report) : r.allMatched = true ↔ ∀ o ∈ r.results, o.matched = true :=
  List.all_eq_true

/-- Accepted arguments are answered with the code 2 and no output if the expression is no filter
or a literal cannot be evaluated. Otherwise they are answered with a report of the results that
they ask for, and with the code 0 if all of them are matches and 1 if not. -/
theorem answer_of_accepted {arguments : List Text} (accepted : ofArguments? arguments = some c) :
    (∃ items, Written arguments items ∧ Asks items c) ∧
      (c.Fails → (answer arguments).code = 2 ∧ (answer arguments).stdout = []) ∧
      (¬ c.Fails → ∃ f outcomes, (Filter.parse c.expression).result = .ok f ∧
        c.Results f outcomes ∧ c.Reports f outcomes (answer arguments)) := by
  have answered : answer arguments = c.answerTo := by simp only [answer, accepted]
  rw [answered]
  refine ⟨ofArguments?_eq_some_iff.mp accepted, fun fails => ?_, fun succeeds => ?_⟩
  · obtain ⟨e, error⟩ := report_error_iff.mpr fails
    exact answerTo_of_error error
  · cases reported : c.report.result with
    | error e => exact absurd (report_error_iff.mp ⟨e, reported⟩) succeeds
    | ok r =>
      obtain ⟨f, outcomes, parsed, results, rfl⟩ := results_of_report reported
      obtain ⟨code, stdout⟩ := answerTo_of_ok reported
      obtain ⟨text, written, denotes⟩ := text_denotes
        ⟨f.display, if c.TestsLiterals then .literal else .context, outcomes⟩ c.pretty
      refine ⟨f, outcomes, parsed, results, ⟨text, stdout.trans written, ?_⟩, ?_⟩
      · split at denotes
        next tests => rw [if_pos tests]; exact denotes
        next tests => rw [if_neg tests]; exact denotes
      · rw [code]
        simp only [allMatched_iff]

/-- Two literals and the missing one, with an option before the expression and others after it. -/
theorem answer_of_accepted_literals :
    let arguments := ["--data=a", "x is [a|]", "--null", "--data", "-"].map String.toList
    let c : CommandLine := ⟨"x is [a|]".toList, [['a'], ['-']], true, [], false, false⟩
    ofArguments? arguments = some c ∧ c.TestsLiterals ∧
      ∃ f outcomes, (Filter.parse c.expression).result = .ok f ∧ c.Results f outcomes ∧
        c.Reports f outcomes (answer arguments) := by
  intro arguments c
  have accepted : ofArguments? arguments = some c := by decide
  have reported : c.report.result = .ok ⟨"x is [a|]".toList, .literal,
      [⟨some ['a'], true⟩, ⟨some ['-'], false⟩, ⟨none, false⟩]⟩ := by rfl
  have succeeds : ¬ c.Fails := by
    rw [← report_error_iff, reported]
    rintro ⟨e, h⟩
    cases h
  exact ⟨accepted, by decide, (answer_of_accepted accepted).2.2 succeeds⟩

end Answering

end CommandLine

end Criteria
