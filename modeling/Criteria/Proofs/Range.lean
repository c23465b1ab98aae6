import Criteria.Proofs.Evaluation
import Criteria.Proofs.Placeholders

/-!
# Ranges

A range is read on a way of its own: its bounds are cut out of the brackets, each
is resolved, freed of its quotes and read. Bounds without quotes read as they do
when each is the whole of the controls, so being between them is the same as
being weighed against each.

* `bound_scalar`: what a bound without quotes reads as.
* `compareRange_weighs`: being between two bounds is being weighed against each.
* `between_agrees`: a filter on a range answers as four filters on its bounds do.
* `compareRange_comm`, `make_pair`: it does not matter which bound comes first when a
  range is compared, nor when it is read.
* `between_comm`: so a filter on a range is the same with its bounds exchanged.
-/

namespace Criteria

open Text

/-- The text has no quotes of either kind. -/
structure Unquoted (t : Text) : Prop where
  double : '"' ∉ t
  single : '\'' ∉ t

namespace Evaluation

variable {actual : Text}

/-- Cut out of the brackets, resolved and cleaned, a bound reads as it does by itself. -/
theorem bound_scalar (mode : Mode) {t : Text} (plain : '"' ∉ t)
    (resolved : Unquoted (mode.resolve (trim t))) :
    bound mode (Controls.scalar t) = Numeral.readCleaned? (mode.resolve (trim t)) := by
  rw [bound, Controls.scalar_unquoted plain, trim_trim, Controls.scalar_unquoted resolved.double,
    trim_trim, Numeral.readCleaned?_trim resolved.double resolved.single]

/-- A value lies between two bounds, in either order, if it is weighed against each. -/
theorem compareRange_weighs (c : Comparator) {mode : Mode} {low high a b : Text}
    (ha : bound mode low = Numeral.readCleaned? a) (hb : bound mode high = Numeral.readCleaned? b) :
    (compareRange c mode actual [low, high]).result =
      (weighs mode actual a .greaterOrEqual && weighs mode actual b .lesserOrEqual ||
        weighs mode actual b .greaterOrEqual && weighs mode actual a .lesserOrEqual) := by
  rw [compareRange_pair, ha, hb, weighs, weighs, weighs, weighs]
  -- where the value or a bound is no number, nothing holds on either side
  cases mode.number? actual with
  | none => rfl
  | some value =>
    cases Numeral.readCleaned? a with
    | none => simp [numbersHold]
    | some x =>
      cases Numeral.readCleaned? b with
      | none => simp [numbersHold]
      | some y => rfl

theorem any_comm {α : Type} (p : α → α → Bool) (x y : Option α) :
    (x.any fun a => y.any fun b => p a b || p b a) =
      y.any fun a => x.any fun b => p a b || p b a := by
  cases x with
  | none => cases y <;> rfl
  | some a =>
    cases y with
    | none => rfl
    | some b => exact Bool.or_comm _ _

/-- The bounds of a range may change places, whatever they read as. -/
theorem compareRange_comm (c : Comparator) (mode : Mode) (low high : Text) :
    (compareRange c mode actual [low, high]).result =
      (compareRange c mode actual [high, low]).result := by
  simp only [compareRange_pair, any_comm _ (bound mode low)]

end Evaluation

namespace Filter

open Evaluation

/-- With the bounds `a` and `b`, being between them is being at least the one and at most the
other. -/
def BetweenAgrees (answer : Comparator → Text → Except FilterError Bool) (a b : Text) : Prop :=
  ∃ p q u v : Bool,
    answer .greaterOrEqual a = .ok p ∧ answer .lesserOrEqual b = .ok q ∧
    answer .greaterOrEqual b = .ok u ∧ answer .lesserOrEqual a = .ok v ∧
    answer .between (Controls.pair a b) = .ok (p && q || u && v)

/-- A bound as it may stand in a range. -/
structure IsBound (t : Text) : Prop where
  filled : trim t ≠ []
  apart : '|' ∉ t
  unquoted : Unquoted t

variable {s a b : Text}

theorem IsBound.bound_literal (h : IsBound a) :
    bound .literal (Controls.scalar a) = Numeral.readCleaned? (Controls.scalar a) := by
  have plain : Unquoted (trim a) :=
    ⟨fun mem => h.unquoted.double (mem_of_mem_trim mem),
      fun mem => h.unquoted.single (mem_of_mem_trim mem)⟩
  rw [bound_scalar .literal h.unquoted.double plain, Controls.scalar_unquoted h.unquoted.double]
  rfl

theorem IsBound.bound_context {vars : Variables} (h : IsBound a) (resolved : Unquoted (vars.resolve a)) :
    bound (.context vars) (Controls.scalar a) = Numeral.readCleaned? (vars.resolve (trim a)) := by
  have plain : Unquoted (vars.resolve (trim a)) :=
    ⟨fun mem => resolved.double (Variables.mem_resolve_of_trim mem),
      fun mem => resolved.single (Variables.mem_resolve_of_trim mem)⟩
  exact bound_scalar (.context vars) h.unquoted.double plain

theorem valuesFor_pair (ha : IsBound a) (hb : IsBound b) :
    (Controls.valuesFor .between (trim (Controls.pair a b))).result =
      .ok [Controls.scalar a, Controls.scalar b] := by
  have whole : trim (Controls.pair a b) = Controls.pair a b := Controls.trim_brackets _
  rw [whole]
  exact Controls.readRange_pair ha.filled hb.filled ha.apart hb.apart

/-- On every literal value, and with all variables whose values bring no quotes into the bounds,
a range answers as the comparators that weigh its bounds do. -/
theorem between_agrees (subject : trim s ≠ []) (ha : IsBound a) (hb : IsBound b) :
    (∀ data : Option Text, BetweenAgrees (fun c k => answerOn s c k data) a b) ∧
    (∀ vars : Variables, Unquoted (vars.resolve a) → Unquoted (vars.resolve b) →
      BetweenAgrees (fun c k => answerIn s c k vars) a b) := by
  have least : Comparator.greaterOrEqual ∈ weighing := by decide
  have most : Comparator.lesserOrEqual ∈ weighing := by decide
  constructor
  · intro data
    refine ⟨_, _, _, _, answerOn_weighing subject least a data, answerOn_weighing subject most b data,
      answerOn_weighing subject least b data, answerOn_weighing subject most a data, ?_⟩
    show answerOn s .between _ data = _
    rw [answerOn_eq subject (valuesFor_pair ha hb) rfl, compare_between rfl,
      compareRange_weighs .between (ha.bound_literal) (hb.bound_literal)]
  · intro vars resolvedA resolvedB
    refine ⟨_, _, _, _, answerIn_weighing subject least a _, answerIn_weighing subject most b _,
      answerIn_weighing subject least b _, answerIn_weighing subject most a _, ?_⟩
    show answerIn s .between _ _ = _
    rw [answerIn_eq subject (valuesFor_pair ha hb) rfl, compare_between rfl,
      compareRange_weighs .between (ha.bound_context resolvedA) (hb.bound_context resolvedB)]
    rfl

/-- A range with its greater bound first, which is the value of a variable. -/
theorem between_agrees_reversed :
    let s := "$\x7bn\x7d".toList
    let a := "$\x7bhi\x7d".toList
    let b := "18".toList
    let vars := Variables.ofPairs [("hi".toList, "$ 65".toList), ("n".toList, "30".toList)]
    (trim s ≠ [] ∧ IsBound a ∧ IsBound b ∧ Unquoted (vars.resolve a) ∧ Unquoted (vars.resolve b)) ∧
      BetweenAgrees (fun c k => answerOn s c k (some "30".toList)) a b ∧
      BetweenAgrees (fun c k => answerIn s c k vars) a b := by
  intro s a b vars
  have subject : trim s ≠ [] := by decide
  have ha : IsBound a := ⟨by decide, by decide, by decide, by decide⟩
  have hb : IsBound b := ⟨by decide, by decide, by decide, by decide⟩
  have read : Variables.readPlaceholder? a = some ("hi".toList, []) := by decide
  have resolvedA : vars.resolve a = "$ 65".toList := by
    rw [Variables.resolve_placeholder read, Variables.resolve_nil]
    rfl
  have resolvedB : vars.resolve b = b := by
    show vars.resolve ['1', '8'] = _
    rw [Variables.resolve_cons (by decide), Variables.resolve_cons (by decide), Variables.resolve_nil]
    rfl
  have plainA : Unquoted (vars.resolve a) := by
    rw [resolvedA]
    exact ⟨by decide, by decide⟩
  have plainB : Unquoted (vars.resolve b) := by
    rw [resolvedB]
    exact ⟨by decide, by decide⟩
  have agrees := between_agrees subject ha hb
  exact ⟨⟨subject, ha, hb, plainA, plainB⟩, agrees.1 _, agrees.2 vars plainA plainB⟩

/-! ## Bounds in either order -/

/-- The filter of a subject and a range. -/
def rangeFilter (s a b : Text) : Filter :=
  ⟨trim s, .between, Controls.pair a b, [Controls.scalar a, Controls.scalar b]⟩

/-- Tokens make a range if neither of them is blank; of others it is said how many are left. -/
theorem make_pair (subject : trim s ≠ []) (freeA : '|' ∉ a) (freeB : '|' ∉ b) :
    (make s .between (Controls.pair a b)).result =
      if [a, b].countP Controls.isFilled = 2 then .ok (rangeFilter s a b)
      else .error (.malformedRange (Controls.pair a b) (.count ([a, b].countP Controls.isFilled))) := by
  have whole : trim (Controls.pair a b) = Controls.pair a b := Controls.trim_brackets _
  have values : (Controls.valuesFor .between (Controls.pair a b)).result = _ :=
    Controls.readRange_pair_eq freeA freeB
  have left : (([a, b].filter Controls.isFilled).map Controls.scalar).length =
      [a, b].countP Controls.isFilled := by
    rw [List.length_map, List.countP_eq_length_filter]
  rw [make_of_subject subject, whole, values, Controls.asBounds, left]
  split
  next both =>
    have filled : ∀ t ∈ [a, b], Controls.isFilled t = true := List.countP_eq_length.mp both
    rw [List.filter_eq_self.mpr filled]
    rfl
  next => rfl

theorem evaluate_rangeFilter_comm (s a b : Text) (mode : Mode) (actual : Text) :
    (evaluate (rangeFilter s a b) mode actual).result =
      (evaluate (rangeFilter s b a) mode actual).result := by
  rw [evaluate_result rfl, evaluate_result rfl, compare_between rfl, compare_between rfl]
  exact congrArg Except.ok (compareRange_comm _ _ _ _)

/-- With its bounds exchanged, a range is refused for the same count of tokens, or it gives the
same results on all literal values and in all contexts. -/
theorem between_comm (subject : trim s ≠ []) (freeA : '|' ∉ a) (freeB : '|' ∉ b) :
    (∃ n,
      (make s .between (Controls.pair a b)).result =
        .error (.malformedRange (Controls.pair a b) (.count n)) ∧
      (make s .between (Controls.pair b a)).result =
        .error (.malformedRange (Controls.pair b a) (.count n))) ∨
    ∃ f g,
      (make s .between (Controls.pair a b)).result = .ok f ∧
      (make s .between (Controls.pair b a)).result = .ok g ∧
      (∀ data : Option Text, (f.evaluateOn data).result = (g.evaluateOn data).result) ∧
      ∀ names : Context, (f.evaluateIn names).result = (g.evaluateIn names).result := by
  have exchanged : [b, a].countP Controls.isFilled = [a, b].countP Controls.isFilled :=
    (List.Perm.swap a b []).countP_eq _
  rw [make_pair subject freeA freeB, make_pair subject freeB freeA, exchanged]
  by_cases both : [a, b].countP Controls.isFilled = 2
  · rw [if_pos both, if_pos both]
    refine .inr ⟨_, _, rfl, rfl, fun data => ?_, fun names => ?_⟩
    · rw [evaluateOn_result, evaluateOn_result, evaluate_rangeFilter_comm]
    · rw [evaluateIn_result, evaluateIn_result, evaluate_rangeFilter_comm]
      rfl
  · rw [if_neg both, if_neg both]
    exact .inl ⟨_, rfl, rfl⟩

/-- The value of a variable with a quoted text that is no number, and with a blank. -/
theorem between_comm_quoted :
    let s := "n".toList
    let a := " $\x7bhi\x7d".toList
    let b := "\"x\"".toList
    let blank := " ".toList
    trim s ≠ [] ∧ '|' ∉ a ∧ '|' ∉ b ∧ '|' ∉ blank ∧
    (∃ f g,
      (make s .between (Controls.pair a b)).result = .ok f ∧
      (make s .between (Controls.pair b a)).result = .ok g ∧
      (∀ data : Option Text, (f.evaluateOn data).result = (g.evaluateOn data).result) ∧
      ∀ names : Context, (f.evaluateIn names).result = (g.evaluateIn names).result) ∧
    ∃ n,
      (make s .between (Controls.pair a blank)).result =
        .error (.malformedRange (Controls.pair a blank) (.count n)) ∧
      (make s .between (Controls.pair blank a)).result =
        .error (.malformedRange (Controls.pair blank a) (.count n)) := by
  intro s a b blank
  have subject : trim s ≠ [] := by decide
  have freeA : '|' ∉ a := by decide
  have freeB : '|' ∉ b := by decide
  have freeBlank : '|' ∉ blank := by decide
  refine ⟨subject, freeA, freeB, freeBlank, ?_, ?_⟩
  · refine (between_comm subject freeA freeB).resolve_left ?_
    rintro ⟨n, refused, _⟩
    cases refused
  · refine (between_comm subject freeA freeBlank).resolve_right ?_
    rintro ⟨f, _, accepted, _⟩
    cases accepted

end Filter

end Criteria
