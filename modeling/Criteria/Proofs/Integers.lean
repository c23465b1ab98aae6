import Criteria.Proofs.Range
import Criteria.Proofs.ScalarOrder

/-!
# Integers compare exactly

Numbers are rounded when they are read, but integers up to 2 to the power of 53 are not.
So on such integers every comparator of numbers is the relation that it stands for,
whatever the spellings.

* `Exact`: a text spells an integer up to the limit, and `Exact.number`: the place that
  it reads as.
* `Placed.cancel`: what the six comparators answer for multiples of one number.
* `placed_exact`, `range_exact`, `length_exact`: what comparisons come to on integers.
* `integers_exact`: so filters answer as the relations of integers do.
-/

namespace Criteria

open Text

variable {v k a b : Int} {tv tk ta tb : Text}

namespace Numeral

/-- A text spells an integer up to the limit. -/
structure Exact (v : Int) (t : Text) : Prop where
  spells : SpellsInt v t
  small : v.natAbs ≤ Binary64.exactLimit

theorem Exact.isNumeral (h : Exact v tv) : IsNumeral tv := by
  obtain ⟨x, read, _⟩ := h.spells.read?_place h.small
  exact read?_isNumeral read

theorem Exact.number (h : Exact v tv) :
    ∃ x, readCleaned? tv = some x ∧ x.place? = some (v * Binary64.one) := by
  obtain ⟨x, read, place⟩ := h.spells.read?_place h.small
  exact ⟨x, readCleaned?_of_read? read, place⟩

theorem Exact.ne_nil (h : Exact v tv) : tv ≠ [] := by
  rintro rfl
  obtain ⟨x, read, _⟩ := h.spells.read?_place h.small
  rw [read?_digitless fun _ mem => absurd mem List.not_mem_nil] at read
  cases read

theorem Exact.scalar_eq (h : Exact v tv) : Controls.scalar tv = tv := by
  rw [Controls.scalar_unquoted (h.isNumeral.not_mem (by decide)), h.isNumeral.trim_eq]

theorem Exact.isBound (h : Exact v tv) : Filter.IsBound tv where
  filled := h.isNumeral.trim_eq.symm ▸ h.ne_nil
  apart mem := absurd (h.isNumeral _ mem) (by decide)
  unquoted := ⟨h.isNumeral.not_mem (by decide), h.isNumeral.not_mem (by decide)⟩

end Numeral

namespace Evaluation

open Numeral

theorem one_pos : 0 < (Binary64.one : Int) := by
  have positive : 0 < Binary64.one := by decide
  omega

theorem Placed.cancel {m : Int} (positive : 0 < m) {holds : Comparator → Bool}
    (h : Placed (v * m) (k * m) holds) : Placed v k holds where
  lesser := h.lesser.trans (Int.mul_lt_mul_right positive)
  equal := h.equal.trans (Int.mul_eq_mul_right_iff (Int.ne_of_gt positive))
  greater := h.greater.trans (Int.mul_lt_mul_right positive)
  lesserOrEqual := h.lesserOrEqual.trans (Int.mul_le_mul_right positive)
  greaterOrEqual := h.greaterOrEqual.trans (Int.mul_le_mul_right positive)

theorem placed_exact (hv : Exact v tv) (hk : Exact k tk) :
    Placed v k (weighs .literal tv tk) := by
  obtain ⟨x, readV, placeV⟩ := hv.number
  obtain ⟨y, readK, placeK⟩ := hk.number
  have placed : Placed (v * Binary64.one) (k * Binary64.one) (weighs .literal tv tk) :=
    placed_weighs readV readV readK placeV placeK
  exact placed.cancel one_pos

/-- An integer lies between two others if it is neither below both nor above both. -/
theorem range_exact (hv : Exact v tv) (ha : Exact a ta) (hb : Exact b tb) :
    (compareRange .between .literal tv [Controls.scalar ta, Controls.scalar tb]).result =
      decide (min a b ≤ v ∧ v ≤ max a b) := by
  have low := placed_exact hv ha
  have high := placed_exact hv hb
  rw [compareRange_weighs .between ha.isBound.bound_literal hb.isBound.bound_literal,
    ha.scalar_eq, hb.scalar_eq, Bool.eq_iff_iff, decide_eq_true_iff, Bool.or_eq_true,
    Bool.and_eq_true, Bool.and_eq_true, low.greaterOrEqual, high.lesserOrEqual,
    high.greaterOrEqual, low.lesserOrEqual]
  omega

theorem lengthText_exact {t : Text} (small : t.length ≤ Binary64.exactLimit) :
    Exact t.length (lengthText t) where
  spells := .unsigned (lengthText_spells t)
  small := small

/-- A length is compared as the number that it is. -/
theorem length_exact (hk : Exact k tk) {t : Text} (small : t.length ≤ Binary64.exactLimit) :
    numbersHold (· == .eq) (Mode.number? .literal (lengthText t)) (readCleaned? tk) =
      decide (t.length = k) := by
  obtain ⟨x, readLength, placeLength⟩ := (lengthText_exact small).number
  obtain ⟨y, readK, placeK⟩ := hk.number
  have equal := (Binary64.isEqual_iff placeLength placeK).trans
    (Int.mul_eq_mul_right_iff (Int.ne_of_gt one_pos))
  rw [Mode.number?, readLength, readK, numbersHold_some, Bool.eq_iff_iff, decide_eq_true_iff]
  exact equal

end Evaluation

namespace Filter

open Numeral Evaluation

variable {s : Text}

/-- The six comparators answer as the relations of two integers. -/
structure AnswersAs (v k : Int) (answer : Comparator → Except FilterError Bool) : Prop where
  equal : answer .equal = .ok (decide (v = k))
  notEqual : answer .notEqual = .ok (decide (v ≠ k))
  greater : answer .greater = .ok (decide (k < v))
  greaterOrEqual : answer .greaterOrEqual = .ok (decide (k ≤ v))
  lesser : answer .lesser = .ok (decide (v < k))
  lesserOrEqual : answer .lesserOrEqual = .ok (decide (v ≤ k))

theorem answersAs_exact (subject : trim s ≠ []) (hv : Exact v tv) (hk : Exact k tk) :
    AnswersAs v k fun c => answerOn s c tk (some tv) := by
  have placed := placed_exact hv hk
  have unequal : weighs .literal tv tk .notEqual = true ↔ v ≠ k := by
    show (!weighs .literal tv tk .equal) = true ↔ _
    rw [Bool.not_eq_true', ← Bool.not_eq_true, placed.equal]
  have answers {c : Comparator} (mem : c ∈ weighing) {p : Prop} [Decidable p]
      (holds : weighs .literal tv tk c = true ↔ p) : answerOn s c tk (some tv) = .ok (decide p) := by
    rw [answerOn_weighing subject mem, Option.getD_some, hv.scalar_eq, hk.scalar_eq]
    exact congrArg Except.ok (Bool.eq_iff_iff.mpr (holds.trans decide_eq_true_iff.symm))
  exact ⟨answers (by decide) placed.equal, answers (by decide) unequal,
    answers (by decide) placed.greater, answers (by decide) placed.greaterOrEqual,
    answers (by decide) placed.lesser, answers (by decide) placed.lesserOrEqual⟩

theorem between_exact (subject : trim s ≠ []) (hv : Exact v tv) (ha : Exact a ta)
    (hb : Exact b tb) :
    answerOn s .between (Controls.pair ta tb) (some tv) =
      .ok (decide (min a b ≤ v ∧ v ≤ max a b)) := by
  rw [answerOn_eq subject (valuesFor_pair ha.isBound hb.isBound) rfl, compare_between rfl,
    Option.getD_some, hv.scalar_eq, range_exact hv ha hb]

theorem hasLengthOf_exact (subject : trim s ≠ []) (hk : Exact k tk) {data : Option Text}
    (small : (data.getD missingLiteral).length ≤ Binary64.exactLimit) :
    answerOn s .hasLengthOf tk data = .ok (decide ((literalValue data).length = k)) := by
  have shorter : (literalValue data).length ≤ (data.getD missingLiteral).length :=
    (Controls.scalar_isInfix _).length_le
  have values : (Controls.valuesFor .hasLengthOf (trim tk)).result = .ok [] :=
    Controls.valuesFor_unread (.inr rfl) _
  rw [answerOn_eq subject values rfl, hk.scalar_eq,
    ← length_exact hk (Nat.le_trans shorter small)]
  exact congrArg Except.ok (compareNumbers_result _ _)

/-- On integers up to 2 to the power of 53, in any of their spellings, filters answer as the
relations of integers do, and a length up to there is compared as the number that it is. -/
theorem integers_exact (subject : trim s ≠ []) (hv : Exact v tv) (hk : Exact k tk)
    (ha : Exact a ta) (hb : Exact b tb) :
    (AnswersAs v k fun c => answerOn s c tk (some tv)) ∧
    answerOn s .between (Controls.pair ta tb) (some tv) =
      .ok (decide (min a b ≤ v ∧ v ≤ max a b)) ∧
    ∀ data : Option Text, (data.getD missingLiteral).length ≤ Binary64.exactLimit →
      answerOn s .hasLengthOf tk data = .ok (decide ((literalValue data).length = k)) :=
  ⟨answersAs_exact subject hv hk, between_exact subject hv ha hb,
    fun _ small => hasLengthOf_exact subject hk small⟩

/-- The limit in hexadecimal against the integer before it, between itself and a zero with a sign,
and the length of a text in quotes. -/
theorem integers_exact_limit :
    let s := "n".toList
    let tv := "0X20000000000000".toList
    let tk := "+0009007199254740991.00F".toList
    let tl := "03.d".toList
    let ta := "9007199254740992l".toList
    let tb := "-0".toList
    let data := some " \"abc\" ".toList
    (trim s ≠ [] ∧ Exact 9007199254740992 tv ∧ Exact 9007199254740991 tk ∧ Exact 3 tl ∧
      Exact 9007199254740992 ta ∧ Exact 0 tb ∧
      (data.getD missingLiteral).length ≤ Binary64.exactLimit) ∧
    answerOn s .equal tk (some tv) = .ok false ∧ answerOn s .greater tk (some tv) = .ok true ∧
    answerOn s .between (Controls.pair ta tb) (some tv) = .ok true ∧
    answerOn s .hasLengthOf tl data = .ok true := by
  intro s tv tk tl ta tb data
  have subject : trim s ≠ [] := by decide
  have hv : Exact (9007199254740992 : Nat) tv :=
    ⟨.unsigned (.hex 0 (.inr rfl) (by decide) (by decide)), by decide⟩
  have hk : Exact (9007199254740991 : Nat) tk :=
    ⟨.plus (.decimal 3 (.pointed 2 (by decide))), by decide⟩
  have hl : Exact (3 : Nat) tl := ⟨.unsigned (.decimal 1 (.pointed 0 (by decide))), by decide⟩
  have ha : Exact (9007199254740992 : Nat) ta := ⟨.unsigned (.decimal 0 (.long (by decide))), by decide⟩
  have hb : Exact (-(0 : Nat)) tb := ⟨.minus (.decimal 0 (.real (by decide))), by decide⟩
  have short : (data.getD missingLiteral).length ≤ Binary64.exactLimit := by decide
  obtain ⟨answers, between, _⟩ := integers_exact subject hv hk ha hb
  obtain ⟨_, _, length⟩ := integers_exact subject hv hl ha hb
  exact ⟨⟨subject, hv, hk, hl, ha, hb, short⟩, answers.equal, answers.greater, between,
    length data short⟩

end Filter

end Criteria
