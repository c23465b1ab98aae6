import Criteria.Proofs.Equality
import Criteria.Proofs.Evaluation
import Criteria.Proofs.Placeholders

/-!
# One order for six comparators

Six comparators weigh one value against another. Equality compares texts first and
numbers after cleaning; the order of numbers is asked of a reading that depends on
the mode. This module says that they fit together all the same.

* `Placed`: what the six answer for two numbers, said of the places of the numbers.
* `Consistent`: the laws between the six, for numbers and for other texts.
* `consistent_weighs`: the laws hold wherever the actual value reads with cleaning
  as it does without.
* `scalars_consistent`: so they hold for literal values, and in a context for
  a subject that resolves to a number as it is written.
-/

namespace Criteria

namespace Evaluation

/-- What the six comparators answer for two numbers with these places. -/
structure Placed (i j : Int) (holds : Comparator → Bool) : Prop where
  lesser : holds .lesser = true ↔ i < j
  equal : holds .equal = true ↔ i = j
  greater : holds .greater = true ↔ j < i
  lesserOrEqual : holds .lesserOrEqual = true ↔ i ≤ j
  greaterOrEqual : holds .greaterOrEqual = true ↔ j ≤ i

/-- How the six comparators fit together on an actual and an expected text that read as `x`
and `y`. -/
structure Consistent (x y : Option Binary64) (actual expected : Text)
    (holds : Comparator → Bool) : Prop where
  /-- Two numbers stand in exactly one of three orders, -/
  exactlyOne : x.isSome → y.isSome → [Comparator.lesser, .equal, .greater].countP holds = 1
  /-- which is the order of their places. -/
  placed : ∀ a ∈ x, ∀ b ∈ y, ∃ i j, a.place? = some i ∧ b.place? = some j ∧ Placed i j holds
  lesserOrEqual : x.isSome → y.isSome → holds .lesserOrEqual = (holds .lesser || holds .equal)
  greaterOrEqual : x.isSome → y.isSome → holds .greaterOrEqual = (holds .greater || holds .equal)
  notEqual : holds .notEqual = !holds .equal
  /-- What is not a number stands in no order, -/
  unordered : x = none ∨ y = none →
    ∀ c ∈ [Comparator.lesser, .lesserOrEqual, .greater, .greaterOrEqual], holds c = false
  /-- and is equal to its own text only. -/
  textual : x = none ∨ y = none → (holds .equal = true ↔ actual = expected)

variable {mode : Mode} {actual expected : Text} {x y : Option Binary64} {i j : Int}

namespace Placed

variable {holds : Comparator → Bool}

theorem exactlyOne (h : Placed i j holds) :
    [Comparator.lesser, .equal, .greater].countP holds = 1 := by
  simp only [List.countP_cons, List.countP_nil, h.lesser, h.equal, h.greater]
  obtain lt | eq | gt := Int.lt_trichotomy i j
  · rw [if_neg (Int.lt_asymm lt), if_neg (Int.ne_of_lt lt), if_pos lt]
  · rw [if_neg (Int.not_lt.mpr (Int.le_of_eq eq)), if_pos eq,
      if_neg (Int.not_lt.mpr (Int.le_of_eq eq.symm))]
  · rw [if_pos gt, if_neg (Int.ne_of_gt gt), if_neg (Int.lt_asymm gt)]

theorem lesserOrEqual_eq (h : Placed i j holds) :
    holds .lesserOrEqual = (holds .lesser || holds .equal) := by
  rw [Bool.eq_iff_iff, Bool.or_eq_true, h.lesserOrEqual, h.lesser, h.equal]
  exact Int.le_iff_lt_or_eq

theorem greaterOrEqual_eq (h : Placed i j holds) :
    holds .greaterOrEqual = (holds .greater || holds .equal) := by
  rw [Bool.eq_iff_iff, Bool.or_eq_true, h.greaterOrEqual, h.greater, h.equal]
  omega

end Placed

theorem numbersHold_some (test : Ordering → Bool) (a b : Binary64) :
    numbersHold test (some a) (some b) = Binary64.ordered test a b := rfl

/-- Two numbers are equal, as texts or as numbers, if they have one place. -/
theorem sameTextOrNumber_iff {a b : Binary64} (hx : Numeral.readCleaned? actual = some a)
    (hy : Numeral.readCleaned? expected = some b) (ha : a.place? = some i)
    (hb : b.place? = some j) : sameTextOrNumber actual expected = true ↔ i = j := by
  have first : Numeral.place? actual = some i := by rw [Numeral.place?, hx, Option.bind_some, ha]
  have second : Numeral.place? expected = some j := by rw [Numeral.place?, hy, Option.bind_some, hb]
  rw [sameTextOrNumber_iff_meaning, Numeral.meaning_of_place first, Numeral.meaning_of_place second,
    Sum.inr.injEq]

theorem placed_weighs {a b : Binary64} (actualRead : mode.number? actual = some a)
    (cleaned : Numeral.readCleaned? actual = some a)
    (expectedRead : Numeral.readCleaned? expected = some b) (ha : a.place? = some i)
    (hb : b.place? = some j) : Placed i j (weighs mode actual expected) where
  lesser := by
    rw [weighs, actualRead, expectedRead]
    exact Binary64.below_iff ha hb
  equal := sameTextOrNumber_iff cleaned expectedRead ha hb
  greater := by
    rw [weighs, actualRead, expectedRead]
    exact Binary64.isAbove_iff ha hb
  lesserOrEqual := by
    rw [weighs, actualRead, expectedRead]
    exact Binary64.isAtMost_iff ha hb
  greaterOrEqual := by
    rw [weighs, actualRead, expectedRead]
    exact Binary64.isAtLeast_iff ha hb

/-- The six comparators fit together wherever the actual value reads with cleaning as it does
without. -/
theorem consistent_weighs (read : mode.number? actual = Numeral.readCleaned? actual) :
    Consistent (Numeral.readCleaned? actual) (Numeral.readCleaned? expected) actual expected
      (weighs mode actual expected) := by
  have placed {a b : Binary64} (hx : Numeral.readCleaned? actual = some a)
      (hy : Numeral.readCleaned? expected = some b) : ∃ i j, a.place? = some i ∧
        b.place? = some j ∧ Placed i j (weighs mode actual expected) := by
    obtain ⟨i, ha⟩ := Numeral.readCleaned?_place hx
    obtain ⟨j, hb⟩ := Numeral.readCleaned?_place hy
    exact ⟨i, j, ha, hb, placed_weighs (read.trans hx) hx hy ha hb⟩
  have both (hx : (Numeral.readCleaned? actual).isSome) (hy : (Numeral.readCleaned? expected).isSome) :
      ∃ i j, Placed i j (weighs mode actual expected) := by
    obtain ⟨a, ha⟩ := Option.isSome_iff_exists.mp hx
    obtain ⟨b, hb⟩ := Option.isSome_iff_exists.mp hy
    obtain ⟨i, j, _, _, h⟩ := placed ha hb
    exact ⟨i, j, h⟩
  have noOrder (none : Numeral.readCleaned? actual = none ∨ Numeral.readCleaned? expected = none)
      (test : Ordering → Bool) :
      numbersHold test (mode.number? actual) (Numeral.readCleaned? expected) = false := by
    rw [read]
    exact numbersHold_none test none
  constructor
  case exactlyOne =>
    intro hx hy
    obtain ⟨i, j, h⟩ := both hx hy
    exact h.exactlyOne
  case placed => exact fun a ha b hb => placed ha hb
  case lesserOrEqual =>
    intro hx hy
    obtain ⟨i, j, h⟩ := both hx hy
    exact h.lesserOrEqual_eq
  case greaterOrEqual =>
    intro hx hy
    obtain ⟨i, j, h⟩ := both hx hy
    exact h.greaterOrEqual_eq
  case notEqual => rfl
  case unordered =>
    intro none c mem
    simp only [List.mem_cons, List.not_mem_nil, or_false] at mem
    obtain rfl | rfl | rfl | rfl := mem
    · exact noOrder none _
    · exact noOrder none _
    · exact noOrder none _
    · exact noOrder none _
  case textual =>
    intro none
    show sameTextOrNumber actual expected = true ↔ _
    rw [sameTextOrNumber_eq, numbersHold_none _ none, Bool.or_false, beq_iff_eq]

end Evaluation

namespace Filter

open Evaluation

variable {s : Text}

/-- On a literal value, and in a context where the subject resolves to a number as it is
written, all six comparators have an answer, and the answers obey the laws of one order. -/
theorem scalars_consistent (subject : Text.trim s ≠ []) (k : Text) :
    (∀ data : Option Text, ∃ holds : Comparator → Bool,
      (∀ c ∈ weighing, answerOn s c k data = .ok (holds c)) ∧
        Consistent (Numeral.readCleaned? (Controls.scalar (data.getD missingLiteral)))
          (Numeral.readCleaned? (Controls.scalar k)) (Controls.scalar (data.getD missingLiteral))
          (Controls.scalar k) holds) ∧
    (∀ names : Context, (Numeral.read? (names.resolve (Text.trim s))).isSome = true →
      ∃ holds : Comparator → Bool,
        (∀ c ∈ weighing, answerIn s c k names = .ok (holds c)) ∧
          Consistent (Numeral.read? (names.resolve (Text.trim s)))
            (Numeral.readCleaned? (names.resolve (Text.trim k))) (names.resolve (Text.trim s))
            (names.resolve (Text.trim k)) holds) := by
  constructor
  · intro data
    exact ⟨_, fun c mem => answerOn_weighing subject mem k data, consistent_weighs rfl⟩
  · intro names number
    obtain ⟨x, hx⟩ := Option.isSome_iff_exists.mp number
    -- a number as it is written reads the same after cleaning
    have read : Numeral.read? (names.resolve (Text.trim s)) =
        Numeral.readCleaned? (names.resolve (Text.trim s)) := by
      rw [hx, Numeral.readCleaned?_of_read? hx]
    refine ⟨_, fun c mem => answerIn_weighing subject mem k names, ?_⟩
    rw [read]
    exact consistent_weighs read

/-- The value `16.0` against the controls `0x10`, as a literal with a dollar sign and as the value
of a variable. -/
theorem scalars_consistent_hex :
    let s := "$\x7bv\x7d".toList
    let k := "0x10".toList
    let vars := Variables.ofPairs [("v".toList, "16.0".toList)]
    Text.trim s ≠ [] ∧ (Numeral.read? (vars.resolve (Text.trim s))).isSome = true ∧
    (∃ holds : Comparator → Bool,
      (∀ c ∈ weighing, answerOn s c k (some "$ 16.0".toList) = .ok (holds c)) ∧
        [Comparator.lesser, .equal, .greater].countP holds = 1) ∧
    (∃ holds : Comparator → Bool,
      (∀ c ∈ weighing, answerIn s c k vars = .ok (holds c)) ∧
        [Comparator.lesser, .equal, .greater].countP holds = 1) := by
  intro s k vars
  have subject : Text.trim s ≠ [] := by decide
  have read : Variables.readPlaceholder? s = some ("v".toList, []) := by decide
  have resolved : vars.resolve s = "16.0".toList := by
    rw [Variables.resolve_placeholder read, Variables.resolve_nil]
    rfl
  have controls : vars.resolve k = k := by
    show vars.resolve ['0', 'x', '1', '0'] = _
    repeat rw [Variables.resolve_cons (by decide)]
    rw [Variables.resolve_nil]
    rfl
  have whole : Numeral.Spells 16 "16.0".toList :=
    .decimal 0 (.pointed 1 (by decide : [] ∈ Numeral.realLetters))
  have hex : Numeral.Spells 16 k := .hex 0 (.inl rfl) (by decide) (by decide)
  have number : (Numeral.read? (vars.resolve (Text.trim s))).isSome = true := by
    show (Numeral.read? (vars.resolve s)).isSome = true
    rw [resolved, whole.read?_bare]
    rfl
  have expected : (Numeral.readCleaned? k).isSome = true := by
    rw [Numeral.readCleaned?_of_read? hex.read?_bare]
    rfl
  have priced : (Numeral.readCleaned? "$ 16.0".toList).isSome = true := by
    have cleaned : Numeral.cleaned "$ 16.0".toList = "16.0".toList := by decide
    rw [Numeral.readCleaned?, cleaned, whole.read?_bare]
    rfl
  obtain ⟨literal, context⟩ := scalars_consistent subject k
  obtain ⟨holds, answers, laws⟩ := literal (some "$ 16.0".toList)
  obtain ⟨holds', answers', laws'⟩ := context vars number
  refine ⟨subject, number, ⟨holds, answers, laws.exactlyOne priced expected⟩, holds', answers',
    laws'.exactlyOne number ?_⟩
  show (Numeral.readCleaned? (vars.resolve k)).isSome = true
  rw [controls]
  exact expected

end Filter

end Criteria
