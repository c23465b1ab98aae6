import Criteria.Proofs.Failure
import Criteria.Proofs.Placeholders

/-!
# Where the two modes agree

A literal and a context are asked the same questions and differ in a few answers:
what a text resolves to, when a text counts as a number, whether quotes and
brackets count, and what holds of an empty value. Where these answers are the
same, so are the results.

* `Meets`: the questions that a comparison asks are answered alike in both modes.
* `compare_agrees`: then the comparison comes to the same.
* `RulesCoincide`: what this takes of a filter, variables and a value, said of
  their texts.
* `evaluateIn_eq_evaluateOn`: under these rules a context answers as the literal
  value of the subject does, with an error read as no match.
-/

namespace Criteria

open Text

namespace Evaluation

/-- The comparators that ask whether the value of the subject is a number. -/
def ordering : List Comparator :=
  [.greater, .greaterOrEqual, .lesser, .lesserOrEqual, .between]

/-- The comparators that test one end of a text. -/
def edging : List Comparator := [.startsWith, .endsWith]

/-- A context answers what a comparison asks as a literal does. -/
structure Meets (f : Filter) (names : Context) (actual : Text) : Prop where
  filled : actual ≠ []
  controls : names.resolve f.controls = f.controls
  values : f.values.map names.resolve = f.values
  bounds : f.comparator = .between →
    f.values.length = 2 ∧ ∀ v ∈ f.values, names.resolve (trim v) = trim v
  number : f.comparator ∈ ordering → Numeral.read? actual = Numeral.readCleaned? actual
  unbracketed : f.comparator ∈ edging → Controls.isBracketed f.controls = false

variable {f : Filter} {names : Context} {actual expected : Text} {c : Comparator}

/-! ## The parts of a comparison -/

theorem compareNumbers_agrees (read : Numeral.read? actual = Numeral.readCleaned? actual)
    (test : Ordering → Bool) :
    (compareNumbers c (.context names) test actual expected).result =
      (compareNumbers c .literal test actual expected).result := by
  rw [compareNumbers_result, compareNumbers_result, Mode.number?, Mode.number?, read]

theorem bound_agrees {v : Text} (h : names.resolve (trim v) = trim v) :
    bound (.context names) v = bound .literal v := by
  rw [bound, bound, Mode.resolve, h, Mode.resolve]

theorem compareRange_agrees {values : List Text} (two : values.length = 2)
    (resolved : ∀ v ∈ values, names.resolve (trim v) = trim v)
    (read : Numeral.read? actual = Numeral.readCleaned? actual) :
    (compareRange c (.context names) actual values).result =
      (compareRange c .literal actual values).result := by
  obtain ⟨low, high, rfl⟩ := exists_bounds two
  rw [compareRange_pair, compareRange_pair, bound_agrees (resolved low (by simp)),
    bound_agrees (resolved high (by simp)), Mode.number?, Mode.number?, read]

theorem isMember_agrees (resolved : f.values.map names.resolve = f.values) :
    isMember f (.context names) actual = isMember f .literal actual := by
  have mapped : isMember f (.context names) actual =
      (f.values.map names.resolve).any (· == actual) := by
    rw [List.any_map]
    rfl
  rw [mapped, resolved]
  rfl

theorem occurs_agrees (resolved : f.values.map names.resolve = f.values) :
    (f.values.all fun v => occursIn (names.resolve v) actual) =
      f.values.all fun v => occursIn v actual := by
  have mapped : (f.values.all fun v => occursIn (names.resolve v) actual) =
      (f.values.map names.resolve).all (occursIn · actual) := by
    rw [List.all_map]
    rfl
  rw [mapped, resolved]

theorem testText_agrees (unbracketed : Controls.isBracketed f.controls = false)
    (test : Text → Bool) :
    testText f (.context names) expected test = testText f .literal expected test := by
  rw [testText_plain (.inl rfl), testText_plain (.inr unbracketed)]

/-! ## The comparison -/

/-- Where a context answers as a literal does, the comparison comes to the same. -/
theorem compare_agrees (meets : Meets f names actual) (anywhere : f.comparator.mode = .any) :
    (compare f (.context names) actual expected).result =
      (compare f .literal actual expected).result := by
  obtain ⟨filled, controls, values, bounds, number, unbracketed⟩ := meets
  have notEmpty : actual.isEmpty = false := List.isEmpty_eq_false_iff.mpr filled
  unfold compare
  generalize f.comparator = c at anywhere bounds number unbracketed ⊢
  cases c with
  | greater => exact congrArg Except.ok (compareNumbers_agrees (number (by decide)) _)
  | greaterOrEqual => exact congrArg Except.ok (compareNumbers_agrees (number (by decide)) _)
  | lesser => exact congrArg Except.ok (compareNumbers_agrees (number (by decide)) _)
  | lesserOrEqual => exact congrArg Except.ok (compareNumbers_agrees (number (by decide)) _)
  | hasLengthOf =>
    have written := Numeral.read?_isNumeral (lengthText_spells actual).read?_bare
    exact congrArg Except.ok (compareNumbers_agrees written.readCleaned?_eq.symm _)
  | between =>
    obtain ⟨two, resolved⟩ := bounds rfl
    exact congrArg Except.ok (compareRange_agrees two resolved (number (by decide)))
  -- a value that is not empty leaves membership alone to decide
  | is => simp only [notEmpty, Bool.and_false, isMember_agrees values]
  | isIn => simp only [notEmpty, Bool.and_false, isMember_agrees values]
  | isNot => simp only [notEmpty, Bool.and_false, Bool.false_and, isMember_agrees values]
  | notIn => simp only [notEmpty, Bool.and_false, Bool.false_and, isMember_agrees values]
  | startsWith => exact congrArg Traced.result (testText_agrees (unbracketed (by decide)) _)
  | endsWith => exact congrArg Traced.result (testText_agrees (unbracketed (by decide)) _)
  | contain => exact congrArg Except.ok (occurs_agrees values)
  | matching =>
    show matchesPattern actual (trim (names.resolve f.controls)) = _
    rw [controls]
    rfl
  | isDefined => cases anywhere
  | isUndefined => cases anywhere
  | _ => rfl

end Evaluation

namespace Filter

open Evaluation

/-- The rules of both modes coincide for a filter and variables, with `d` the value of the
subject. -/
structure RulesCoincide (f : Filter) (vars : Variables) (d : Text) : Prop where
  nameless : ¬ (f.comparator = .isDefined ∨ f.comparator = .isUndefined)
  filled : d ≠ []
  value : Controls.scalar d = d
  controls : Controls.scalar f.controls = f.controls
  /-- No name in a placeholder of the controls has a value. -/
  undefined : ∀ name, Variables.Mentions f.controls name → vars.get? (trim name) = none
  cleaned : f.comparator ∈ ordering → Numeral.cleaned d = d
  unbracketed : f.comparator ∈ edging → Controls.isBracketed f.controls = false

variable {f : Filter} {vars : Variables} {d : Text}

/-- The control values are stretches of the controls. -/
theorem Obtained.value_isInfix (obtained : f.Obtained) {v : Text} (mem : v ∈ f.values) :
    v <:+: f.controls :=
  Controls.valuesFor_isInfix (obtained_iff_wellFormed.mp obtained).values_read mem

/-- Every stretch of the controls resolves to itself. -/
theorem RulesCoincide.resolve_eq (rules : RulesCoincide f vars d) {t : Text}
    (part : t <:+: f.controls) : vars.resolve t = t :=
  Variables.resolve_eq_self fun name mentioned => rules.undefined name (mentioned.mono part)

theorem RulesCoincide.meets (rules : RulesCoincide f vars d) (obtained : f.Obtained) :
    Meets f vars d where
  filled := rules.filled
  controls := rules.resolve_eq (List.infix_refl _)
  values := by
    have resolved : ∀ v ∈ f.values, vars.resolve v = v := fun v mem =>
      rules.resolve_eq (obtained.value_isInfix mem)
    exact (List.map_congr_left resolved).trans (List.map_id _)
  bounds := by
    intro between
    have shape := Controls.valuesFor_shape (obtained_iff_wellFormed.mp obtained).values_read
    exact ⟨shape.bounds between, fun v mem =>
      rules.resolve_eq ((trim_isInfix v).trans (obtained.value_isInfix mem))⟩
  number ordered := by rw [Numeral.readCleaned?, rules.cleaned ordered]
  unbracketed := rules.unbracketed

/-- Where the rules of both modes coincide, a context answers as the value of the subject does
as a literal, with an error read as no match. -/
theorem evaluateIn_eq_evaluateOn (obtained : f.Obtained)
    (rules : RulesCoincide f vars (vars.resolve f.subject)) :
    (f.evaluateIn vars).result =
      (f.evaluateOn (some (vars.resolve f.subject))).result.toOption.getD false := by
  have anywhere := anywhere_of_not_nameless rules.nameless
  have meets := rules.meets obtained
  have inContext : (Mode.expected (.context vars) f.controls).result = f.controls := meets.controls
  have asLiteral : (Mode.literal.expected f.controls).result = f.controls := rules.controls
  rw [evaluateIn_result, evaluateOn_result, Option.getD_some, rules.value, evaluate_result anywhere,
    evaluate_result anywhere, inContext, asLiteral, ← compare_agrees meets anywhere]
  rfl

/-- A list with a quoted entry and the placeholder of a name that has no value. -/
theorem evaluateIn_eq_evaluateOn_in :
    let f : Filter := ⟨"$\x7bwho\x7d".toList, .isIn, "[$\x7bn\x7d|\"bob\"]".toList,
      ["$\x7bn\x7d".toList, "bob".toList]⟩
    let vars := Variables.ofPairs [("who".toList, "bob".toList)]
    f.Obtained ∧ RulesCoincide f vars (vars.resolve f.subject) ∧
      (f.evaluateIn vars).result =
        (f.evaluateOn (some (vars.resolve f.subject))).result.toOption.getD false := by
  intro f vars
  have made : (make f.subject f.comparator f.controls).result = .ok f := rfl
  have read : Variables.readPlaceholder? f.subject = some ("who".toList, []) := by decide
  have resolved : vars.resolve f.subject = "bob".toList := by
    rw [Variables.resolve_placeholder read, Variables.resolve_nil]
    rfl
  have rules : RulesCoincide f vars (vars.resolve f.subject) := by
    rw [resolved]
    refine ⟨by decide, by decide, by decide, by decide, ?_, by decide, by decide⟩
    intro name mentioned
    -- the only name with a value has a letter that the controls do not have
    have other : trim name ≠ "who".toList := by
      intro same
      have inName : 'w' ∈ name := mem_of_mem_trim (by rw [same]; decide)
      have inControls := mentioned.2.subset (List.mem_append_left _ (List.mem_cons_of_mem _
        (List.mem_cons_of_mem _ inName)))
      exact absurd inControls (by decide)
    show List.lookup (trim name) [("who".toList, "bob".toList)] = none
    rw [List.lookup_cons, beq_eq_false_iff_ne.mpr other]
    rfl
  exact ⟨.made made, rules, evaluateIn_eq_evaluateOn (.made made) rules⟩

end Filter

end Criteria
