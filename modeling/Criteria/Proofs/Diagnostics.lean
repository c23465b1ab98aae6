import Criteria.Proofs.Failure

/-!
# What the events of an evaluation say

The events of an evaluation are read by people who ask why a filter did not match.
This module says what they can rely on.

* `IsRemark`: the events that reading values and numbers raises.
* `Remarks`: a log of remarks only, with a remark on a number exactly if a number is
  missing, and then there is no match.
* `compare_remarks`: the log of a comparison is of this kind, comparator by comparator.
* `diagnostics_truthful`: the log of an evaluation says exactly once that it reached its
  comparison, says that something is not a number exactly if it is not, and reports an
  error exactly if a pattern cannot be read.
-/

namespace Criteria

namespace Event

/-- How many events are of a severity. -/
def count (s : Severity) (events : List Event) : Nat := events.countP fun e => e.severity == s

/-- One of the events is a warning with these words. -/
def Warns (words : String) (events : List Event) : Prop :=
  ∃ e ∈ events, e.severity = .warning ∧ e.message = words.toList

/-- The events that reading values and numbers raises. -/
inductive IsRemark : Event → Prop
  | quote (v : Text) : IsRemark (.unbalancedQuote v)
  | number (c : Comparator) (v : Text) : IsRemark (.notANumber c v)

variable {events before after : List Event} {e : Event}

theorem count_append (s : Severity) (before after : List Event) :
    count s (before ++ after) = count s before + count s after := List.countP_append

theorem count_cons (s : Severity) (e : Event) (events : List Event) :
    count s (e :: events) = count s events + if e.severity == s then 1 else 0 := List.countP_cons

theorem warns_append {words : String} :
    Warns words (before ++ after) ↔ Warns words before ∨ Warns words after := by
  simp only [Warns, List.mem_append, or_and_right, exists_or]

/-- The words of a warning on a number belong to no other event. -/
theorem warns_number_iff :
    Warns "NOT A NUMBER" events ↔ ∃ c v, Event.notANumber c v ∈ events := by
  constructor
  · rintro ⟨e, mem, warning, words⟩
    cases e with
    | notANumber c v => exact ⟨c, v, mem⟩
    | unbalancedQuote v => exact absurd (show (unbalancedQuote []).message = _ from words) (by decide)
    | missingBounds c n => exact absurd (show (missingBounds .any 0).message = _ from words) (by decide)
    | comparing => cases warning
    | failed => cases warning
  · rintro ⟨c, v, mem⟩
    exact ⟨_, mem, rfl, rfl⟩

/-- The words of a warning on bounds belong to no other event. -/
theorem warns_bounds_iff :
    Warns "EXPECTS [min|max]" events ↔ ∃ c n, Event.missingBounds c n ∈ events := by
  constructor
  · rintro ⟨e, mem, warning, words⟩
    cases e with
    | missingBounds c n => exact ⟨c, n, mem⟩
    | unbalancedQuote v => exact absurd (show (unbalancedQuote []).message = _ from words) (by decide)
    | notANumber c v => exact absurd (show (notANumber .any []).message = _ from words) (by decide)
    | comparing => cases warning
    | failed => cases warning
  · rintro ⟨c, n, mem⟩
    exact ⟨_, mem, rfl, rfl⟩

theorem count_eq_zero_of_remarks {s : Severity} (other : s ≠ .warning)
    (remarks : ∀ e ∈ events, IsRemark e) : count s events = 0 := by
  refine List.countP_eq_zero.mpr fun e mem => ?_
  have warning : e.severity = .warning := by
    cases remarks e mem <;> rfl
  rw [warning, beq_iff_eq]
  exact other.symm

/-- Reading a value warns of its quotes only. -/
theorem scalarEvents_quote {t : Text} (mem : e ∈ Controls.scalarEvents t) :
    ∃ v, e = .unbalancedQuote v := by
  unfold Controls.scalarEvents at mem
  dsimp only at mem
  split at mem
  · exact ⟨_, List.mem_singleton.mp mem⟩
  · cases mem

theorem readList_quote {k : Text} (mem : e ∈ (Controls.readList k).events) :
    ∃ v, e = .unbalancedQuote v := by
  unfold Controls.readList at mem
  split at mem
  · cases mem
  · obtain ⟨entry, _, inEntry⟩ := List.mem_flatMap.mp mem
    exact scalarEvents_quote inEntry

end Event

namespace Evaluation

open Event

variable {f : Filter} {mode : Mode} {actual expected : Text} {c : Comparator}

/-! ## What a comparison reads as numbers -/

/-- The text whose number a comparator asks for. -/
def measured (c : Comparator) (actual : Text) : Text :=
  if c = .hasLengthOf then lengthText actual else actual

/-- What the controls read as, the two bounds of a range each by itself. -/
def readings (f : Filter) (mode : Mode) (expected : Text) : List (Option Binary64) :=
  if f.comparator = .between then f.values.map (bound mode) else [Numeral.readCleaned? expected]

/-- The comparator compares numbers, and its value or one of its controls is none. -/
def Unread (f : Filter) (mode : Mode) (actual expected : Text) : Prop :=
  f.comparator.isNumeric = true ∧
    (mode.number? (measured f.comparator actual) = none ∨ none ∈ readings f mode expected)

/-! ## The log of a comparison -/

/-- A log of remarks, with a remark on a number exactly if one is missing. -/
structure Remarks (events : List Event) (missing : Prop) : Prop where
  only : ∀ e ∈ events, IsRemark e
  warned : (∃ c v, Event.notANumber c v ∈ events) ↔ missing

variable {events before after : List Event} {missing late : Prop}

/-- A log that speaks of quotes alone says nothing of numbers. -/
theorem Remarks.quotes (quotes : ∀ e ∈ events, ∃ v, e = .unbalancedQuote v) (read : ¬ missing) :
    Remarks events missing where
  only e mem := by
    obtain ⟨v, rfl⟩ := quotes e mem
    exact .quote v
  warned := by
    refine ⟨fun ⟨c, v, mem⟩ => ?_, fun unread => absurd unread read⟩
    obtain ⟨_, other⟩ := quotes _ mem
    cases other

theorem Remarks.nil (read : ¬ missing) : Remarks [] missing := .quotes (fun _ mem => nomatch mem) read

theorem Remarks.number (c : Comparator) (v : Text) (unread : missing) :
    Remarks [.notANumber c v] missing where
  only e mem := by
    rw [List.mem_singleton.mp mem]
    exact .number c v
  warned := ⟨fun _ => unread, fun _ => ⟨c, v, List.mem_singleton_self _⟩⟩

theorem Remarks.append (first : Remarks before missing) (second : Remarks after late) :
    Remarks (before ++ after) (missing ∨ late) where
  only e mem := by
    cases List.mem_append.mp mem with
    | inl early => exact first.only e early
    | inr later => exact second.only e later
  warned := by
    rw [← first.warned, ← second.warned]
    simp only [List.mem_append, exists_or]

theorem Remarks.congr (h : Remarks events missing) (same : missing ↔ late) : Remarks events late :=
  ⟨h.only, h.warned.trans same⟩

theorem compareNumbers_remarks (test : Ordering → Bool) :
    Remarks (compareNumbers c mode test actual expected).events
      (mode.number? actual = none ∨ Numeral.readCleaned? expected = none) := by
  unfold compareNumbers
  cases mode.number? actual with
  | none => exact .number _ _ (.inl rfl)
  | some x =>
    cases Numeral.readCleaned? expected with
    | none => exact .number _ _ (.inr rfl)
    | some y => exact .nil (by simp)

theorem readBound_remarks (control : Text) :
    Remarks (readBound c mode control).events (bound mode control = none) := by
  have quotes : Remarks (Controls.scalarEvents (mode.resolve (Text.trim control))) False :=
    .quotes (fun _ mem => scalarEvents_quote mem) id
  have number : Remarks (if (bound mode control).isNone then
      [.notANumber c (Controls.scalar (mode.resolve (Text.trim control)))] else [])
      (bound mode control = none) := by
    split
    next missing => exact .number _ _ (Option.isNone_iff_eq_none.mp missing)
    next read => exact .nil fun missing => read (Option.isNone_iff_eq_none.mpr missing)
  exact (quotes.append number).congr (by simp)

theorem compareRange_remarks (low high : Text) :
    Remarks (compareRange c mode actual [low, high]).events
      (mode.number? actual = none ∨ none ∈ [bound mode low, bound mode high]) := by
  unfold compareRange
  cases mode.number? actual with
  | none => exact .number _ _ (.inl rfl)
  | some value =>
    -- both bounds are read, even if the first is none
    show Remarks ((readBound c mode low).events ++ (readBound c mode high).events) _
    refine ((readBound_remarks low).append (readBound_remarks high)).congr ?_
    simp [eq_comm]

theorem testText_remarks (test : Text → Bool) :
    ∀ e ∈ (testText f mode expected test).events, ∃ v, e = .unbalancedQuote v := by
  intro e mem
  unfold testText at mem
  split at mem
  · exact readList_quote mem
  · cases mem

/-- All comparators of numbers but the range compare one text with one other. -/
theorem compare_numbers (mode : Mode) (actual expected : Text)
    (numeric : f.comparator.isNumeric = true) (single : f.comparator ≠ .between) :
    ∃ test, compare f mode actual expected =
      (compareNumbers f.comparator mode test (measured f.comparator actual) expected).map .ok := by
  unfold compare
  cases c : f.comparator with
  | greater => exact ⟨_, rfl⟩
  | greaterOrEqual => exact ⟨_, rfl⟩
  | lesser => exact ⟨_, rfl⟩
  | lesserOrEqual => exact ⟨_, rfl⟩
  | hasLengthOf => exact ⟨_, rfl⟩
  | between => exact absurd c single
  | _ => rw [c] at numeric; cases numeric

theorem compare_range (between : f.comparator = .between) :
    compare f mode actual expected = (compareRange .between mode actual f.values).map .ok := by
  unfold compare
  rw [between]

/-- A comparison of texts speaks of quotes alone. -/
theorem compare_quotes (textual : f.comparator.isNumeric = false) :
    ∀ e ∈ (compare f mode actual expected).events, ∃ v, e = .unbalancedQuote v := by
  unfold compare
  cases c : f.comparator with
  | startsWith => exact testText_remarks _
  | endsWith => exact testText_remarks _
  | greater => rw [c] at textual; cases textual
  | greaterOrEqual => rw [c] at textual; cases textual
  | lesser => rw [c] at textual; cases textual
  | lesserOrEqual => rw [c] at textual; cases textual
  | hasLengthOf => rw [c] at textual; cases textual
  | between => rw [c] at textual; cases textual
  | _ => exact fun _ mem => nomatch mem

theorem unread_numbers (numeric : f.comparator.isNumeric = true) (single : f.comparator ≠ .between) :
    Unread f mode actual expected ↔
      mode.number? (measured f.comparator actual) = none ∨ Numeral.readCleaned? expected = none := by
  simp [Unread, readings, numeric, single, eq_comm]

theorem unread_range {low high : Text} (between : f.comparator = .between)
    (values : f.values = [low, high]) :
    Unread f mode actual expected ↔
      mode.number? actual = none ∨ none ∈ [bound mode low, bound mode high] := by
  simp [Unread, readings, measured, Comparator.isNumeric, between, values]

/-- The comparators with the flag for numbers, and they alone, remark on what is no number. -/
theorem compare_remarks (bounds : f.comparator = .between → f.values.length = 2) :
    Remarks (compare f mode actual expected).events (Unread f mode actual expected) := by
  by_cases numeric : f.comparator.isNumeric = true
  · by_cases between : f.comparator = .between
    · obtain ⟨low, high, values⟩ := exists_bounds (bounds between)
      rw [compare_range between, values]
      exact (compareRange_remarks low high).congr (unread_range between values).symm
    · obtain ⟨test, comparison⟩ := compare_numbers mode actual expected numeric between
      rw [comparison]
      exact (compareNumbers_remarks test).congr (unread_numbers numeric between).symm
  · exact .quotes (compare_quotes (Bool.eq_false_iff.mpr numeric)) fun unread => numeric unread.1

/-- Where something is no number, there is no match. -/
theorem compare_of_unread (bounds : f.comparator = .between → f.values.length = 2)
    (unread : Unread f mode actual expected) :
    (compare f mode actual expected).result = .ok false := by
  by_cases between : f.comparator = .between
  · obtain ⟨low, high, values⟩ := exists_bounds (bounds between)
    rw [compare_between between, values, compareRange_pair]
    refine congrArg Except.ok ?_
    have missing := (unread_range between values).mp unread
    cases number : mode.number? actual with
    | none => rfl
    | some x =>
      rw [number] at missing
      cases low : bound mode low with
      | none => rfl
      | some a =>
        cases high : bound mode high with
        | none => rfl
        | some b => simp [low, high] at missing
  · obtain ⟨test, comparison⟩ := compare_numbers mode actual expected unread.1 between
    rw [comparison, Traced.map_result, compareNumbers_result,
      numbersHold_none _ ((unread_numbers unread.1 between).mp unread)]

/-! ## The log of an evaluation -/

theorem expected_quotes (mode : Mode) (k : Text) :
    ∀ e ∈ (mode.expected k).events, ∃ v, e = .unbalancedQuote v := by
  cases mode with
  | context names => exact fun _ mem => nomatch mem
  | literal => exact fun _ mem => scalarEvents_quote mem

/-- A log that says once that a comparison was reached, remarks on numbers exactly if one is
missing, and reports the given number of errors. -/
structure Dispatched (events : List Event) (missing : Prop) (failures : Nat) : Prop where
  once : count .debug events = 1
  warned : Warns "NOT A NUMBER" events ↔ missing
  bounded : ¬ Warns "EXPECTS [min|max]" events
  failed : count .error events = failures

theorem Remarks.not_missingBounds (h : Remarks events missing) (c : Comparator) (n : Nat) :
    Event.missingBounds c n ∉ events := by
  intro mem
  cases h.only _ mem

theorem Remarks.count_eq_zero {s : Severity} (h : Remarks events missing) (other : s ≠ .warning) :
    count s events = 0 :=
  count_eq_zero_of_remarks other h.only

/-- Remarks on quotes, the event of reaching the comparison, and the remarks of the comparison. -/
theorem Remarks.dispatched (quotes : Remarks before False) (remarks : Remarks after missing)
    (name : ModeName) :
    Dispatched (before ++ .comparing name actual c expected :: after) missing 0 where
  once := by
    rw [count_append, count_cons, quotes.count_eq_zero (by decide), remarks.count_eq_zero (by decide)]
    rfl
  warned := by
    rw [warns_number_iff, ← remarks.warned]
    simp only [List.mem_append, List.mem_cons, exists_or, quotes.warned, false_or, reduceCtorEq]
  bounded := by
    rw [warns_bounds_iff]
    rintro ⟨c, n, mem⟩
    simp only [List.mem_append, List.mem_cons, quotes.not_missingBounds, remarks.not_missingBounds,
      reduceCtorEq, or_self] at mem
  failed := by
    rw [count_append, count_cons, quotes.count_eq_zero (by decide), remarks.count_eq_zero (by decide)]
    rfl

/-- More remarks on quotes before it do not change what a log says. -/
theorem Dispatched.prepend {failures : Nat} (h : Dispatched events missing failures)
    (quotes : Remarks before False) : Dispatched (before ++ events) missing failures where
  once := by rw [count_append, quotes.count_eq_zero (by decide), h.once]
  warned := by
    rw [warns_append, warns_number_iff, quotes.warned, false_or]
    exact h.warned
  bounded := by
    rw [warns_append, warns_bounds_iff]
    rintro (⟨c, n, mem⟩ | later)
    · exact quotes.not_missingBounds c n mem
    · exact h.bounded later
  failed := by rw [count_append, quotes.count_eq_zero (by decide), h.failed, Nat.zero_add]

/-- An error that is raised as an event adds to the errors alone. -/
theorem Dispatched.append_failed {failures : Nat} (h : Dispatched events missing failures)
    (filter : Text) (error : FilterError) :
    Dispatched (events ++ [.failed filter error]) missing (failures + 1) where
  once := by
    rw [count_append, h.once]
    rfl
  warned := by
    rw [warns_append, @warns_number_iff [.failed filter error]]
    simp only [List.mem_singleton, reduceCtorEq, exists_false, or_false]
    exact h.warned
  bounded := by
    rw [warns_append, @warns_bounds_iff [.failed filter error]]
    simp only [List.mem_singleton, reduceCtorEq, exists_false, or_false]
    exact h.bounded
  failed := by
    rw [count_append, h.failed]
    rfl

/-- The log of an evaluation that its mode allows. -/
theorem evaluate_dispatched (actual : Text) (allowed : mode.allows f.comparator = true)
    (bounds : f.comparator = .between → f.values.length = 2) :
    Dispatched (evaluate f mode actual).events
      (Unread f mode actual (mode.expected f.controls).result) 0 := by
  have quotes : Remarks (mode.expected f.controls).events False :=
    .quotes (expected_quotes mode f.controls) id
  rw [evaluate, if_pos allowed]
  exact quotes.dispatched (compare_remarks bounds) mode.name

/-- Where an evaluation remarks on a number, there is no match and no error. -/
theorem evaluate_unread (allowed : mode.allows f.comparator = true)
    (bounds : f.comparator = .between → f.values.length = 2)
    (unread : Unread f mode actual (mode.expected f.controls).result) :
    (evaluate f mode actual).result = .ok false := by
  rw [evaluate_compares allowed]
  exact compare_of_unread bounds unread

/-- The pattern that the controls resolve to cannot be read. -/
def Patternless (f : Filter) (names : Context) : Prop :=
  f.comparator = .matching ∧ Pattern.anchored? (Text.trim (names.resolve f.controls)) = none

/-- In a context nothing but such a pattern makes an evaluation fail. -/
theorem evaluate_context_error_iff {names : Context} :
    (∃ e, (evaluate f (.context names) actual).result = .error e) ↔ Patternless f names := by
  rw [evaluate_compares (context_allows names _)]
  by_cases matching : f.comparator = .matching
  · have comparison : ∀ expected, (compare f (.context names) actual expected).result =
        matchesPattern actual (Text.trim (names.resolve f.controls)) := by
      intro expected
      unfold compare
      rw [matching]
      rfl
    rw [comparison, Patternless, matchesPattern]
    cases Pattern.anchored? (Text.trim (names.resolve f.controls)) with
    | none => simp [matching]
    | some compiled => simp
  · have answered : ∃ holds, (compare f (.context names) actual
        (Mode.expected (.context names) f.controls).result).result = .ok holds := by
      by_cases anywhere : f.comparator.mode = .any
      · exact compare_ok matching anywhere
      · -- whether a name is defined, a context can say
        unfold compare
        cases c : f.comparator with
        | isDefined => exact ⟨_, rfl⟩
        | isUndefined => exact ⟨_, rfl⟩
        | _ => rw [c] at anywhere; exact absurd rfl anywhere
    obtain ⟨holds, answer⟩ := answered
    rw [answer]
    constructor
    · rintro ⟨e, error⟩
      cases error
    · exact fun patternless => absurd patternless.1 matching

end Evaluation

namespace Filter

open Event Evaluation

variable {f : Filter}

/-- What the log of an evaluation on a literal value says. -/
structure LiteralLog (f : Filter) (data : Option Text) : Prop where
  dispatched : count .debug (f.evaluateOn data).events =
    if f.comparator ∈ [Comparator.any, .isDefined, .isUndefined] then 0 else 1
  warned : Warns "NOT A NUMBER" (f.evaluateOn data).events ↔
    Unread f .literal (Controls.scalar (data.getD missingLiteral)) (Controls.scalar f.controls)
  unmatched : Warns "NOT A NUMBER" (f.evaluateOn data).events →
    (f.evaluateOn data).result = .ok false
  bounded : ¬ Warns "EXPECTS [min|max]" (f.evaluateOn data).events
  unfailed : count .error (f.evaluateOn data).events = 0

/-- What the log of an evaluation in a context says. -/
structure ContextLog (f : Filter) (names : Context) : Prop where
  dispatched : count .debug (f.evaluateIn names).events = 1
  warned : Warns "NOT A NUMBER" (f.evaluateIn names).events ↔
    Unread f (.context names) (names.resolve f.subject) (names.resolve f.controls)
  unmatched : Warns "NOT A NUMBER" (f.evaluateIn names).events →
    (f.evaluateIn names).result = false ∧ count .error (f.evaluateIn names).events = 0
  bounded : ¬ Warns "EXPECTS [min|max]" (f.evaluateIn names).events
  failed : Patternless f names →
    count .error (f.evaluateIn names).events = 1 ∧ (f.evaluateIn names).result = false
  unfailed : ¬ Patternless f names → count .error (f.evaluateIn names).events = 0

theorem evaluateOn_events (other : f.comparator ≠ .any) (data : Option Text) :
    (f.evaluateOn data).events =
      Controls.scalarEvents (data.getD missingLiteral) ++
        (evaluate f .literal (Controls.scalar (data.getD missingLiteral))).events := by
  rw [evaluateOn, if_neg other]
  rfl

theorem evaluateIn_events (names : Context) :
    (f.evaluateIn names).events =
      (evaluate f (.context names) (names.resolve f.subject)).events ++
        (f.settle (evaluate f (.context names) (names.resolve f.subject)).result).events := rfl

/-- A comparator that does not compare numbers leaves nothing unread. -/
theorem not_unread {mode : Mode} {actual expected : Text} (textual : f.comparator.isNumeric = false) :
    ¬ Unread f mode actual expected := by
  rintro ⟨numeric, _⟩
  rw [textual] at numeric
  cases numeric

/-- The log of a literal evaluation that does not reach its comparison speaks of quotes alone. -/
theorem LiteralLog.of_quotes {data : Option Text} (textual : f.comparator.isNumeric = false)
    (quotes : Remarks (f.evaluateOn data).events False)
    (early : f.comparator ∈ [Comparator.any, .isDefined, .isUndefined]) : LiteralLog f data where
  dispatched := by rw [if_pos early, quotes.count_eq_zero (by decide)]
  warned := by
    rw [warns_number_iff, quotes.warned]
    exact ⟨False.elim, not_unread textual⟩
  unmatched warns := (quotes.warned.mp (warns_number_iff.mp warns)).elim
  bounded := by
    rw [warns_bounds_iff]
    exact fun ⟨c, n, mem⟩ => quotes.not_missingBounds c n mem
  unfailed := quotes.count_eq_zero (by decide)

theorem literalLog (bounds : f.comparator = .between → f.values.length = 2) (data : Option Text) :
    LiteralLog f data := by
  have read : Remarks (Controls.scalarEvents (data.getD missingLiteral)) False :=
    .quotes (fun _ mem => scalarEvents_quote mem) id
  by_cases always : f.comparator = .any
  · refine .of_quotes (by rw [always]; rfl) ?_ (by rw [always]; decide)
    rw [evaluateOn, if_pos always]
    exact .nil id
  · by_cases named : f.comparator = .isDefined ∨ f.comparator = .isUndefined
    · refine .of_quotes ?_ ?_ ?_
      · cases named with
        | inl defined => rw [defined]; rfl
        | inr undefined => rw [undefined]; rfl
      · rw [evaluateOn_events always, evaluate, literal_denies named]
        show Remarks (Controls.scalarEvents (data.getD missingLiteral) ++ []) False
        rwa [List.append_nil]
      · simp only [List.mem_cons, List.not_mem_nil, or_false]
        exact .inr named
    · have allowed : Mode.literal.allows f.comparator = true :=
        allows_of_anywhere (anywhere_of_not_nameless named)
      have log := (evaluate_dispatched (Controls.scalar (data.getD missingLiteral))
        allowed bounds).prepend read
      rw [← evaluateOn_events always] at log
      have late : f.comparator ∉ [Comparator.any, .isDefined, .isUndefined] := by
        simp only [List.mem_cons, List.not_mem_nil, or_false, not_or]
        exact ⟨always, not_or.mp named⟩
      refine ⟨by rw [if_neg late, log.once], log.warned, fun warns => ?_, log.bounded, log.failed⟩
      rw [evaluateOn_result]
      exact evaluate_unread allowed bounds (log.warned.mp warns)

/-- A context evaluation settles an error as one event and no match. -/
theorem evaluateIn_settled (bounds : f.comparator = .between → f.values.length = 2)
    (names : Context) :
    ∃ failures, Dispatched (f.evaluateIn names).events
        (Unread f (.context names) (names.resolve f.subject) (names.resolve f.controls)) failures ∧
      (Patternless f names → failures = 1 ∧ (f.evaluateIn names).result = false) ∧
      (¬ Patternless f names → failures = 0) := by
  have log := evaluate_dispatched (names.resolve f.subject) (context_allows names f.comparator)
    bounds
  have fails : (∃ e, (evaluate f (.context names) (names.resolve f.subject)).result = .error e) ↔
      Patternless f names := evaluate_context_error_iff
  rw [evaluateIn_events, evaluateIn_result]
  cases result : (evaluate f (.context names) (names.resolve f.subject)).result with
  | ok holds =>
    have readable : ¬ Patternless f names := by
      rw [← fails, result]
      exact fun ⟨_, error⟩ => nomatch error
    refine ⟨0, ?_, fun patternless => absurd patternless readable, fun _ => rfl⟩
    show Dispatched (_ ++ []) _ 0
    rw [List.append_nil]
    exact log
  | error e =>
    have patternless : Patternless f names := fails.mp ⟨e, result⟩
    exact ⟨1, log.append_failed f.display e, fun _ => ⟨rfl, rfl⟩,
      fun readable => absurd patternless readable⟩

theorem contextLog (bounds : f.comparator = .between → f.values.length = 2) (names : Context) :
    ContextLog f names := by
  obtain ⟨failures, log, failed, unfailed⟩ := evaluateIn_settled bounds names
  refine ⟨log.once, log.warned, fun warns => ?_, log.bounded, fun patternless => ?_,
    fun readable => log.failed.trans (unfailed readable)⟩
  · have unread := log.warned.mp warns
    have readable : ¬ Patternless f names := by
      rintro ⟨matching, _⟩
      exact not_unread (by rw [matching]; rfl) unread
    refine ⟨?_, log.failed.trans (unfailed readable)⟩
    rw [evaluateIn_result, evaluate_unread (context_allows names _) bounds unread]
    rfl
  · exact ⟨log.failed.trans (failed patternless).1, (failed patternless).2⟩

/-- The log of every filter that can be obtained says what happened. In each mode it says once
that the comparison was reached (for a literal value unless the comparator holds always or asks
for a name), it remarks on a number exactly if one is missing, and then there is no match; it
never misses bounds; and it reports an error exactly in a context, for a pattern that cannot be
read. A length always reads as a number. -/
theorem diagnostics_truthful (obtained : f.Obtained) :
    (∀ data : Option Text, LiteralLog f data) ∧ (∀ names : Context, ContextLog f names) ∧
      ∀ (mode : Mode) (t : Text), (mode.number? (lengthText t)).isSome = true := by
  have shape := Controls.valuesFor_shape (obtained_iff_wellFormed.mp obtained).values_read
  exact ⟨literalLog shape.bounds, contextLog shape.bounds, number?_lengthText⟩

/-- A range whose second bound is no number, on a number and in a context. -/
theorem diagnostics_truthful_between :
    let f : Filter := ⟨"x".toList, .between, "[1|a]".toList, ["1".toList, "a".toList]⟩
    f.Obtained ∧ Warns "NOT A NUMBER" (f.evaluateOn (some "5".toList)).events ∧
      (f.evaluateOn (some "5".toList)).result = .ok false ∧
      count .debug (f.evaluateIn Variables.empty).events = 1 := by
  intro f
  have obtained : f.Obtained := .made (s := f.subject) (c := f.comparator) (k := f.controls) rfl
  obtain ⟨literal, context, _⟩ := diagnostics_truthful obtained
  have log := literal (some "5".toList)
  have unread : Numeral.readCleaned? "a".toList = none := by
    have cleaned : Numeral.cleaned "a".toList = "a".toList := by decide
    rw [Numeral.readCleaned?, cleaned]
    exact Numeral.read?_digitless fun c mem => by
      rw [List.mem_singleton.mp mem]
      decide
  have missing : none ∈ readings f .literal (Controls.scalar f.controls) :=
    List.mem_map.mpr ⟨"a".toList, List.mem_cons_of_mem _ List.mem_cons_self, unread⟩
  have warns := log.warned.mpr ⟨rfl, .inr missing⟩
  exact ⟨obtained, warns, log.unmatched warns, (context Variables.empty).dispatched⟩

end Filter

end Criteria
