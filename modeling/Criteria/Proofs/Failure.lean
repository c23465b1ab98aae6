import Criteria.Proofs.Evaluation
import Criteria.Proofs.Pattern.FullMatch

/-!
# When an evaluation fails

On a literal value a filter fails for one of two reasons: its comparator asks
whether a name is defined, which only a context can say, or its controls are no
pattern. Which of them it is, if any, is settled by the comparator and the
controls; neither the value nor the subject matters.

* `Failure`: the two reasons, with the error that each of them gives.
* `evaluateOn_ok`: a filter that has neither of them answers every value.
* `evaluateOn_error_iff`: the errors of a filter are those of its reasons.
-/

namespace Criteria

namespace Filter

/-- The errors that a filter gives on a literal value. -/
inductive Failure (f : Filter) : FilterError → Prop
  /-- Only a context knows which names are defined. -/
  | nameless : f.comparator = .isDefined ∨ f.comparator = .isUndefined →
      Failure f (.unsupported f.comparator)
  /-- The controls are no pattern with the ends of a text around them. -/
  | patternless : f.comparator = .matching →
      Pattern.read? (Pattern.anchoredText (Text.trim f.controls)) = none →
      Failure f (.invalidPattern (Text.trim f.controls))

variable {f : Filter}

/-- The reasons lie in the comparator and the controls alone. -/
theorem Failure.congr {g : Filter} {e : FilterError} (h : f.Failure e)
    (comparator : g.comparator = f.comparator) (controls : g.controls = f.controls) :
    g.Failure e := by
  cases h with
  | nameless named =>
    rw [← comparator] at named ⊢
    exact .nameless named
  | patternless matching none =>
    rw [← comparator] at matching
    rw [← controls] at none ⊢
    exact .patternless matching none

theorem anywhere_of_not_nameless {c : Comparator} (h : ¬ (c = .isDefined ∨ c = .isUndefined)) :
    c.mode = .any := by
  cases c with
  | isDefined => exact absurd (.inl rfl) h
  | isUndefined => exact absurd (.inr rfl) h
  | _ => rfl

/-- A literal cannot say which names are defined. -/
theorem literal_denies {c : Comparator} (h : c = .isDefined ∨ c = .isUndefined) :
    Mode.literal.allows c = false := by
  cases h with
  | inl defined => rw [defined]; rfl
  | inr undefined => rw [undefined]; rfl

theorem evaluateOn_nameless (h : f.comparator = .isDefined ∨ f.comparator = .isUndefined)
    (data : Option Text) : (f.evaluateOn data).result = .error (.unsupported f.comparator) := by
  rw [evaluateOn_result]
  unfold Evaluation.evaluate
  rw [literal_denies h]
  rfl

theorem evaluateOn_ok (named : ¬ (f.comparator = .isDefined ∨ f.comparator = .isUndefined))
    (pattern : f.comparator ≠ .matching) (data : Option Text) :
    ∃ holds, (f.evaluateOn data).result = .ok holds := by
  have anywhere := anywhere_of_not_nameless named
  rw [evaluateOn_result, Evaluation.evaluate_result anywhere]
  exact Evaluation.compare_ok pattern anywhere

theorem failure_of_evaluateOn {data : Option Text} {e : FilterError}
    (h : (f.evaluateOn data).result = .error e) : f.Failure e := by
  by_cases named : f.comparator = .isDefined ∨ f.comparator = .isUndefined
  · rw [evaluateOn_nameless named] at h
    cases h
    exact .nameless named
  · by_cases matching : f.comparator = .matching
    · rw [evaluateOn_matching matching, Evaluation.matchesPattern] at h
      cases read : Pattern.anchored? (Text.trim f.controls) with
      | none =>
        rw [read] at h
        cases h
        exact .patternless matching read
      | some compiled =>
        rw [read] at h
        cases h
    · obtain ⟨holds, answer⟩ := evaluateOn_ok named matching data
      rw [answer] at h
      cases h

theorem Failure.evaluateOn {e : FilterError} (h : f.Failure e) (data : Option Text) :
    (f.evaluateOn data).result = .error e := by
  cases h with
  | nameless named => exact evaluateOn_nameless named data
  | patternless matching none =>
    have read : Pattern.anchored? (Text.trim f.controls) = Option.none := none
    rw [evaluateOn_matching matching, Evaluation.matchesPattern, read]

/-- A filter fails on a value exactly with the errors of its two reasons; the one names the
comparator by its symbol, the other by its word and the pattern. So it fails in the same way on
every value, and with any other subject. -/
theorem evaluateOn_error_iff (f : Filter) (data : Option Text) (e : FilterError) :
    ((f.evaluateOn data).result = .error e ↔ f.Failure e) ∧
    (FilterError.unsupported f.comparator).message =
      "comparator '".toList ++ f.comparator.symbol ++ "' is not applicable here".toList ∧
    FilterError.patternComparator (Text.trim f.controls) =
      "match ".toList ++ Text.trim f.controls ∧
    ∀ (other : Option Text) (subject : Text) (values : List Text),
      (evaluateOn ⟨subject, f.comparator, f.controls, values⟩ other).result = .error e ↔
        (f.evaluateOn data).result = .error e := by
  refine ⟨⟨failure_of_evaluateOn, fun failure => failure.evaluateOn data⟩, rfl, rfl, ?_⟩
  intro other subject values
  constructor
  · intro fails
    have failure : f.Failure e := (failure_of_evaluateOn fails).congr rfl rfl
    exact failure.evaluateOn data
  · intro fails
    have failure : Failure ⟨subject, f.comparator, f.controls, values⟩ e :=
      (failure_of_evaluateOn fails).congr rfl rfl
    exact failure.evaluateOn other

end Filter

end Criteria
