import Criteria.Evaluation
import Criteria.Proofs.Entries
import Criteria.Proofs.WholeNumbers

/-!
# What an evaluation comes to

An evaluation raises events on its way. This module says what its result is
without them, mode by mode and comparator by comparator.

* `numbersHold`, `bound`: what comparing numbers and reading a bound come to.
* `compare_ok`: only patterns, and asking whether a name is defined, can fail.
* `evaluate_result`: an evaluation that is allowed is its comparison.
* `answerOn_eq`, `answerIn_eq`: the answers of a filter that is made from its parts,
  and `answerOn_weighing`, `answerIn_weighing` for a comparator that weighs its value.
-/

namespace Criteria

namespace Traced

variable {α β : Type}

@[simp] theorem map_result (f : α → β) (t : Traced α) : (t.map f).result = f t.result := rfl

@[simp] theorem andThen_result (first : Traced α) (next : α → Traced β) :
    (first.andThen next).result = (next first.result).result := rfl

end Traced

namespace Evaluation

variable {f : Filter} {mode : Mode} {actual expected : Text}

/-! ## Numbers -/

/-- Whether two readings are numbers in an order that the test accepts. -/
def numbersHold (test : Ordering → Bool) (x y : Option Binary64) : Bool :=
  x.any fun x => y.any fun y => Binary64.ordered test x y

/-- What is no number is in no order. -/
theorem numbersHold_none {x y : Option Binary64} (test : Ordering → Bool) (h : x = none ∨ y = none) :
    numbersHold test x y = false := by
  cases h with
  | inl none => rw [none]; rfl
  | inr none => rw [none]; cases x <;> rfl

theorem compareNumbers_result (c : Comparator) (test : Ordering → Bool) :
    (compareNumbers c mode test actual expected).result =
      numbersHold test (mode.number? actual) (Numeral.readCleaned? expected) := by
  unfold compareNumbers
  cases mode.number? actual with
  | none => rfl
  | some x => cases Numeral.readCleaned? expected <;> rfl

theorem sameTextOrNumber_eq (a b : Text) :
    sameTextOrNumber a b =
      (a == b || numbersHold (· == .eq) (Numeral.readCleaned? a) (Numeral.readCleaned? b)) := by
  unfold sameTextOrNumber
  cases Numeral.readCleaned? a with
  | none => rfl
  | some x => cases Numeral.readCleaned? b <;> rfl

/-- What a bound of a range reads as. -/
def bound (mode : Mode) (control : Text) : Option Binary64 :=
  Numeral.readCleaned? (Text.trim (Controls.scalar (mode.resolve (Text.trim control))))

theorem readBound_result (c : Comparator) (control : Text) :
    (readBound c mode control).result = bound mode control := by
  simp only [readBound, bound]

theorem rangeContains_eq (a b : Option Binary64) (value : Binary64) :
    rangeContains a b value =
      a.any fun a => b.any fun b => value.isWithin a b || value.isWithin b a := by
  unfold rangeContains
  cases a with
  | none => rfl
  | some a =>
    cases b with
    | none => rfl
    | some b => exact Interval.contains_between a b value

/-- Two control values are a lower and an upper bound. -/
theorem exists_bounds {values : List Text} (two : values.length = 2) :
    ∃ low high, values = [low, high] := by
  obtain ⟨low, rest, rfl⟩ := List.exists_cons_of_length_eq_add_one two
  obtain ⟨high, rfl⟩ := List.length_eq_one_iff.mp (Nat.succ.inj two)
  exact ⟨low, high, rfl⟩

/-- A number is in a range if both bounds are numbers and it lies between them, in either
order. -/
theorem compareRange_pair (c : Comparator) (low high : Text) :
    (compareRange c mode actual [low, high]).result =
      (mode.number? actual).any fun value =>
        (bound mode low).any fun a => (bound mode high).any fun b =>
          value.isWithin a b || value.isWithin b a := by
  unfold compareRange
  cases mode.number? actual with
  | none => rfl
  | some value =>
    simp only [Traced.andThen_result, Traced.map_result, readBound_result, rangeContains_eq,
      Option.any_some]

/-- A length is spelled in digits. -/
theorem lengthText_spells (t : Text) : Numeral.Spells t.length (lengthText t) := by
  have bare : Numeral.WholeEnding [] := .real (by decide)
  have spells : Numeral.Spells t.length (lengthText t ++ []) := .decimal 0 bare
  rwa [List.append_nil] at spells

/-- A length reads as a number in both modes. -/
theorem number?_lengthText (mode : Mode) (t : Text) : (mode.number? (lengthText t)).isSome = true := by
  have read := (lengthText_spells t).read?_bare
  cases mode with
  | context names => exact Option.isSome_of_eq_some read
  | literal => exact Option.isSome_of_eq_some (Numeral.readCleaned?_of_read? read)

/-! ## Texts -/

/-- Without brackets, or with placeholders, the expected text itself is tested. -/
theorem testText_plain (h : mode.isLiteral = false ∨ Controls.isBracketed f.controls = false)
    (test : Text → Bool) : testText f mode expected test = .quiet (.ok (test expected)) := by
  unfold testText
  refine if_neg ?_
  rw [Bool.and_eq_true]
  rintro ⟨literal, bracketed⟩
  cases h with
  | inl context => rw [context] at literal; cases literal
  | inr unbracketed => rw [unbracketed] at bracketed; cases bracketed

/-- Controls in brackets can always be read as a list, so testing a text never fails. -/
theorem testText_ok (test : Text → Bool) :
    ∃ holds, (testText f mode expected test).result = .ok holds := by
  unfold testText
  split
  next both =>
    rw [Bool.and_eq_true] at both
    obtain ⟨inner, hi⟩ := Option.isSome_iff_exists.mp both.2
    have read := Controls.readList_ok_iff.mpr ⟨inner, hi, rfl⟩
    rw [Traced.map_result, read]
    exact ⟨_, rfl⟩
  next => exact ⟨_, rfl⟩

/-! ## The comparison -/

/-- A comparison fails only for a pattern, or for want of a context. -/
theorem compare_ok (pattern : f.comparator ≠ .matching) (anywhere : f.comparator.mode = .any) :
    ∃ holds, (compare f mode actual expected).result = .ok holds := by
  unfold compare
  cases c : f.comparator with
  | matching => exact absurd c pattern
  | isDefined => rw [c] at anywhere; cases anywhere
  | isUndefined => rw [c] at anywhere; cases anywhere
  | startsWith => exact testText_ok _
  | endsWith => exact testText_ok _
  | _ => exact ⟨_, rfl⟩

/-- The answer of a comparator that weighs one value against another. -/
def weighs (mode : Mode) (actual expected : Text) : Comparator → Bool
  | .equal => sameTextOrNumber actual expected
  | .notEqual => !sameTextOrNumber actual expected
  | .greater => numbersHold (· == .gt) (mode.number? actual) (Numeral.readCleaned? expected)
  | .greaterOrEqual => numbersHold (· != .lt) (mode.number? actual) (Numeral.readCleaned? expected)
  | .lesser => numbersHold (· == .lt) (mode.number? actual) (Numeral.readCleaned? expected)
  | .lesserOrEqual => numbersHold (· != .gt) (mode.number? actual) (Numeral.readCleaned? expected)
  | _ => false

/-- The comparators that weigh one value against another. -/
def weighing : List Comparator :=
  [.equal, .notEqual, .greater, .greaterOrEqual, .lesser, .lesserOrEqual]

theorem compare_weighing (h : f.comparator ∈ weighing) :
    (compare f mode actual expected).result = .ok (weighs mode actual expected f.comparator) := by
  unfold compare
  cases c : f.comparator with
  | equal => rfl
  | notEqual => rfl
  | greater => exact congrArg Except.ok (compareNumbers_result _ _)
  | greaterOrEqual => exact congrArg Except.ok (compareNumbers_result _ _)
  | lesser => exact congrArg Except.ok (compareNumbers_result _ _)
  | lesserOrEqual => exact congrArg Except.ok (compareNumbers_result _ _)
  | _ =>
    rw [c] at h
    exact absurd h (by decide)

theorem compare_between (h : f.comparator = .between) :
    (compare f mode actual expected).result =
      .ok (compareRange .between mode actual f.values).result := by
  unfold compare
  rw [h]
  rfl

theorem compare_member (h : f.comparator = .is ∨ f.comparator = .isIn) :
    (compare f mode actual expected).result =
      .ok ((mode.isLiteral && actual.isEmpty) || isMember f mode actual) := by
  unfold compare
  cases h with
  | inl is => rw [is]; rfl
  | inr isIn => rw [isIn]; rfl

theorem compare_notMember (h : f.comparator = .isNot ∨ f.comparator = .notIn) :
    (compare f mode actual expected).result =
      .ok (((mode.isLiteral && actual.isEmpty) && Controls.isEmptyList f.controls) ||
        !isMember f mode actual) := by
  unfold compare
  cases h with
  | inl isNot => rw [isNot]; rfl
  | inr notIn => rw [notIn]; rfl

theorem isMember_of_unchanged (unchanged : ∀ v ∈ f.values, mode.resolve v = v) :
    isMember f mode actual = decide (actual ∈ f.values) := by
  rw [Bool.eq_iff_iff, decide_eq_true_iff, isMember, List.any_eq_true]
  constructor
  · rintro ⟨v, mem, same⟩
    rw [unchanged v mem, beq_iff_eq] at same
    exact same ▸ mem
  · exact fun mem => ⟨actual, mem, beq_iff_eq.mpr (unchanged actual mem)⟩

theorem compare_matching (h : f.comparator = .matching) :
    (compare f mode actual expected).result =
      matchesPattern actual (Text.trim (mode.resolve f.controls)) := by
  unfold compare
  rw [h]
  rfl

theorem compare_contain (h : f.comparator = .contain) :
    (compare f mode actual expected).result =
      .ok (f.values.all fun value => Text.occursIn (mode.resolve value) actual) := by
  unfold compare
  rw [h]
  rfl

/-! ## The evaluation -/

theorem allows_of_anywhere {c : Comparator} (h : c.mode = .any) : mode.allows c = true := by
  unfold Mode.allows
  rw [h]

/-- A context can answer every comparator. -/
theorem context_allows (names : Context) (c : Comparator) : Mode.allows (.context names) c = true := by
  cases c <;> rfl

/-- An evaluation that its mode allows comes to its comparison. -/
theorem evaluate_compares (allowed : mode.allows f.comparator = true) :
    (evaluate f mode actual).result =
      (compare f mode actual (mode.expected f.controls).result).result := by
  rw [evaluate, if_pos allowed]
  rfl

theorem evaluate_result (anywhere : f.comparator.mode = .any) :
    (evaluate f mode actual).result =
      (compare f mode actual (mode.expected f.controls).result).result :=
  evaluate_compares (allows_of_anywhere anywhere)

end Evaluation

namespace Filter

open Evaluation

/-- What a literal counts as. -/
def literalValue (data : Option Text) : Text := Controls.scalar (data.getD missingLiteral)

theorem evaluateOn_result (f : Filter) (data : Option Text) :
    (f.evaluateOn data).result =
      (evaluate f .literal (Controls.scalar (data.getD missingLiteral))).result := by
  unfold evaluateOn
  split
  next always =>
    -- the comparator that always holds does not look at the value
    rw [evaluate_result (by rw [always]; rfl)]
    unfold Evaluation.compare
    rw [always]
  next => rfl

/-- In a context an error counts as no match. -/
theorem evaluateIn_result (f : Filter) (names : Context) :
    (f.evaluateIn names).result =
      (evaluate f (.context names) (names.resolve f.subject)).result.toOption.getD false := by
  unfold evaluateIn
  rw [Traced.andThen_result]
  cases (evaluate f (.context names) (names.resolve f.subject)).result with
  | ok holds => rfl
  | error e => rfl

/-! ## Filters made from parts -/

/-- The answer of a filter that is made from its parts and evaluated on a literal value. -/
def answerOn (s : Text) (c : Comparator) (k : Text) (data : Option Text) : Except FilterError Bool :=
  (make s c k).result.bind fun f => (f.evaluateOn data).result

/-- The answer of a filter that is made from its parts and evaluated in a context. -/
def answerIn (s : Text) (c : Comparator) (k : Text) (names : Context) : Except FilterError Bool :=
  (make s c k).result.map fun f => (f.evaluateIn names).result

variable {s k : Text} {c : Comparator} {vs : List Text}

/-- With a subject, making a filter is reading its control values. -/
theorem make_of_subject (subject : Text.trim s ≠ []) (c : Comparator) (k : Text) :
    (make s c k).result = (Controls.valuesFor c (Text.trim k)).result.map fun values =>
      ⟨Text.trim s, c, Text.trim k, values⟩ := by
  have filled : (Text.trim s).isEmpty = false := List.isEmpty_eq_false_iff.mpr subject
  unfold make
  dsimp only
  rw [filled]
  rfl

theorem make_eq_ok (subject : Text.trim s ≠ [])
    (values : (Controls.valuesFor c (Text.trim k)).result = .ok vs) :
    (make s c k).result = .ok ⟨Text.trim s, c, Text.trim k, vs⟩ :=
  make_ok_iff.mpr ⟨subject, vs, values, rfl⟩

theorem answerOn_eq (subject : Text.trim s ≠ [])
    (values : (Controls.valuesFor c (Text.trim k)).result = .ok vs) (anywhere : c.mode = .any)
    (data : Option Text) :
    answerOn s c k data =
      (Evaluation.compare ⟨Text.trim s, c, Text.trim k, vs⟩ .literal
        (Controls.scalar (data.getD missingLiteral)) (Controls.scalar k)).result := by
  unfold answerOn
  rw [make_eq_ok subject values, Except.bind, evaluateOn_result, evaluate_result anywhere]
  have expected : (Mode.literal.expected (Text.trim k)).result = Controls.scalar k :=
    Controls.scalar_trim k
  rw [expected]

theorem answerIn_eq (subject : Text.trim s ≠ [])
    (values : (Controls.valuesFor c (Text.trim k)).result = .ok vs) (anywhere : c.mode = .any)
    (names : Context) :
    answerIn s c k names =
      .ok ((Evaluation.compare ⟨Text.trim s, c, Text.trim k, vs⟩ (.context names)
        (names.resolve (Text.trim s)) (names.resolve (Text.trim k))).result.toOption.getD false) := by
  unfold answerIn
  rw [make_eq_ok subject values, Except.map, evaluateIn_result, evaluate_result anywhere]
  rfl

/-! ## Comparators that weigh one value -/

theorem weighing_mode : ∀ c ∈ weighing, c.mode = .any ∧ c.arity = .scalar := by decide

theorem valuesFor_weighing {c : Comparator} (mem : c ∈ weighing) (k : Text) :
    (Controls.valuesFor c k).result = .ok [] :=
  Controls.valuesFor_unread (.inr (weighing_mode c mem).2) k

theorem answerOn_weighing (subject : Text.trim s ≠ []) {c : Comparator} (mem : c ∈ weighing)
    (k : Text) (data : Option Text) :
    answerOn s c k data =
      .ok (weighs .literal (Controls.scalar (data.getD missingLiteral)) (Controls.scalar k) c) := by
  rw [answerOn_eq subject (valuesFor_weighing mem _) (weighing_mode c mem).1, compare_weighing mem]

theorem answerIn_weighing (subject : Text.trim s ≠ []) {c : Comparator} (mem : c ∈ weighing)
    (k : Text) (names : Context) :
    answerIn s c k names =
      .ok (weighs (.context names) (names.resolve (Text.trim s)) (names.resolve (Text.trim k)) c) := by
  rw [answerIn_eq subject (valuesFor_weighing mem _) (weighing_mode c mem).1, compare_weighing mem]
  rfl

end Filter

end Criteria
