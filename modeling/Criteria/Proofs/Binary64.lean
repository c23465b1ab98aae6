import Criteria.Binary64

/-!
# The order of numbers in double precision

A number has a place among the integers, and numbers compare as their places do.
What is not a number has no place, and no comparison with it holds.

* `ordered_place`, `ordered_left`, `ordered_right`: comparison by places.
* `below_iff` to `isWithin_iff`: each test of a comparison, said of places.
* `Interval.contains_between`: an interval holds what lies between its bounds in
  one order or the other.
* `ofDecimal_place`, `ofNat_place`: rounding always gives a number.
* `ofNat_signed`: a whole number may be rounded before or after its sign is put to it.
* `ofDecimal_whole`: zeros behind the point make no difference to how a whole number
  is rounded.
* `ofNat_of_le_exactLimit`: up to 2 to the power of 53 a whole number is not rounded.
-/

namespace Criteria

namespace Binary64

variable {x y : Binary64} {i j : Int}

theorem ordered_place (hx : x.place? = some i) (hy : y.place? = some j) (test : Ordering → Bool) :
    ordered test x y = test (compare i j) := by
  unfold ordered order?
  rw [hx, hy]
  rfl

theorem ordered_left (hx : x.place? = none) (test : Ordering → Bool) (y : Binary64) :
    ordered test x y = false := by
  unfold ordered order?
  rw [hx]
  rfl

theorem ordered_right (hy : y.place? = none) (test : Ordering → Bool) (x : Binary64) :
    ordered test x y = false := by
  unfold ordered order?
  rw [hy]
  cases x.place? <;> rfl

/-! ## Tests of a comparison -/

theorem below_iff (hx : x.place? = some i) (hy : y.place? = some j) :
    ordered (· == .lt) x y = true ↔ i < j := by
  rw [ordered_place hx hy, beq_iff_eq, Int.compare_eq_lt]

theorem isEqual_iff (hx : x.place? = some i) (hy : y.place? = some j) :
    x.isEqual y = true ↔ i = j := by
  rw [isEqual, ordered_place hx hy, beq_iff_eq, Int.compare_eq_eq]

theorem isAtLeast_iff (hx : x.place? = some i) (hy : y.place? = some j) :
    x.isAtLeast y = true ↔ j ≤ i := by
  rw [isAtLeast, ordered_place hx hy, bne_iff_ne, ne_eq, Int.compare_eq_lt, Int.not_lt]

theorem isAtMost_iff (hx : x.place? = some i) (hy : y.place? = some j) :
    x.isAtMost y = true ↔ i ≤ j := by
  rw [isAtMost, ordered_place hx hy, bne_iff_ne, ne_eq, Int.compare_eq_gt, Int.not_lt]

theorem isAbove_iff (hx : x.place? = some i) (hy : y.place? = some j) :
    x.isAbove y = true ↔ j < i := by
  rw [isAbove, ordered_place hx hy, beq_iff_eq, Int.compare_eq_gt]

theorem isWithin_iff {a b : Int} {low high : Binary64} (hx : x.place? = some i)
    (ha : low.place? = some a) (hb : high.place? = some b) :
    x.isWithin low high = true ↔ a ≤ i ∧ i ≤ b := by
  rw [isWithin, Bool.and_eq_true, isAtLeast_iff hx ha, isAtMost_iff hx hb]

/-! ## Rounding gives numbers -/

theorem ofQuotient_place (negative : Bool) (num den : Nat) :
    ∃ i, (ofQuotient negative num den).place? = some i := by
  unfold ofQuotient
  dsimp only
  split
  · exact ⟨_, rfl⟩
  · exact ⟨_, rfl⟩

theorem ofNat_place (negative : Bool) (n : Nat) : ∃ i, (ofNat negative n).place? = some i :=
  ofQuotient_place negative n 1

/-- It makes no difference whether the sign is put to a number before it is rounded or after. -/
theorem ofNat_signed (negative : Bool) (n : Nat) :
    (if negative then (ofNat false n).negated else ofNat false n) = ofNat negative n := by
  cases negative with
  | false => exact if_neg Bool.false_ne_true
  | true =>
    rw [if_pos rfl]
    unfold ofNat ofQuotient
    generalize roundUnits (n * one) 1 = units
    by_cases below : units < limit
    · rw [if_pos below, if_pos below, negated, Bool.not_false]
    · rw [if_neg below, if_neg below, negated, Bool.not_false]

theorem ofDecimal_place (negative : Bool) (mantissa digits : Nat) (exponent : Int) :
    ∃ i, (ofDecimal negative mantissa digits exponent).place? = some i := by
  unfold ofDecimal
  split
  · exact ⟨_, rfl⟩
  · cases exponent with
    | ofNat e =>
      dsimp only
      split
      · exact ⟨_, rfl⟩
      · exact ofQuotient_place _ _ _
    | negSucc e =>
      dsimp only
      split
      · exact ⟨_, rfl⟩
      · exact ofQuotient_place _ _ _

/-! ## Whole numbers -/

/-- Up to here every whole number is a number of the format. -/
def exactLimit : Nat := 1 <<< 53

theorem place?_positive (units : Nat) : (finite false units).place? = some (units : Int) := rfl

theorem place?_negative (units : Nat) : (finite true units).place? = some (-(units : Int)) := rfl

theorem nearest_of_dvd {num den : Nat} (positive : 0 < den) (whole : den ∣ num) :
    nearest num den = num / den := by
  unfold nearest
  rw [Nat.mod_eq_zero_of_dvd whole]
  exact if_pos positive

theorem nearest_mul_right (num den : Nat) {k : Nat} (positive : 0 < k) :
    nearest (num * k) (den * k) = nearest num den := by
  have scaled (x y : Nat) : x * k < y * k ↔ x < y := Nat.mul_lt_mul_right positive
  unfold nearest
  dsimp only
  rw [Nat.mul_div_mul_right _ _ positive, Nat.mul_mod_mul_right, ← Nat.mul_assoc]
  simp only [scaled]

theorem roundUnits_mul_right (num den : Nat) {k : Nat} (positive : 0 < k) :
    roundUnits (num * k) (den * k) = roundUnits num den := by
  unfold roundUnits
  dsimp only
  rw [Nat.mul_div_mul_right _ _ positive, Nat.shiftLeft_eq den, Nat.shiftLeft_eq (den * k),
    Nat.mul_right_comm, nearest_mul_right _ _ positive]

/-- A quotient that is a whole number is rounded as this number is. -/
theorem ofQuotient_mul_right (negative : Bool) (n : Nat) {k : Nat} (positive : 0 < k) :
    ofQuotient negative (n * k) k = ofNat negative n := by
  have rounded := roundUnits_mul_right (n * one) 1 positive
  rw [Nat.one_mul, Nat.mul_right_comm] at rounded
  unfold ofNat ofQuotient
  rw [rounded]

theorem mul_one_shiftLeft (n k : Nat) : n * (1 <<< k) = n <<< k := by
  rw [Nat.one_shiftLeft, Nat.shiftLeft_eq]

theorem one_shiftLeft_pos (k : Nat) : 0 < 1 <<< k := by
  rw [Nat.one_shiftLeft]
  exact Nat.two_pow_pos k

theorem log2_shiftLeft {n : Nat} (positive : 0 < n) (k : Nat) : (n <<< k).log2 = n.log2 + k := by
  have power : 0 < 2 ^ k := Nat.two_pow_pos k
  have product : n * 2 ^ k ≠ 0 := Nat.ne_of_gt (Nat.mul_pos positive power)
  obtain ⟨least, most⟩ := (Nat.log2_eq_iff (Nat.ne_of_gt positive)).mp rfl
  rw [Nat.shiftLeft_eq, Nat.log2_eq_iff product, Nat.add_right_comm, Nat.pow_add, Nat.pow_add]
  exact ⟨Nat.mul_le_mul_right _ least, (Nat.mul_lt_mul_right power).mpr most⟩

/-- Up to the limit a whole number has zeros only in the digits that are dropped. -/
theorem dropped_dvd_of_le_exactLimit {n : Nat} (small : n ≤ exactLimit) (k : Nat) :
    1 <<< droppedDigits (n <<< k) ∣ n <<< k := by
  obtain rfl | positive := Nat.eq_zero_or_pos n
  · rw [Nat.zero_shiftLeft]
    exact Nat.dvd_zero _
  rw [droppedDigits, log2_shiftLeft positive, Nat.one_shiftLeft, Nat.shiftLeft_eq]
  rw [exactLimit, Nat.one_shiftLeft] at small
  obtain last | below := Nat.eq_or_lt_of_le small
  · -- the limit itself is a power of two, so all its digits but one are zeros
    rw [last, Nat.log2_two_pow, ← Nat.pow_add]
    exact Nat.pow_dvd_pow 2 (Nat.sub_le _ _)
  · have digits : n.log2 < 53 := (Nat.log2_lt (Nat.ne_of_gt positive)).mpr below
    exact Nat.dvd_mul_left_of_dvd (Nat.pow_dvd_pow 2 (by omega)) n

/-- A magnitude is rounded to a multiple of what the last digit kept counts. -/
theorem roundUnits_eq (exact : Nat) : roundUnits exact 1 =
    nearest exact (1 <<< droppedDigits exact) * (1 <<< droppedDigits exact) := by
  unfold roundUnits
  rw [Nat.div_one, mul_one_shiftLeft]

/-- Up to the limit rounding leaves a whole number as it is. -/
theorem roundUnits_shiftLeft {n : Nat} (small : n ≤ exactLimit) (k : Nat) :
    roundUnits (n <<< k) 1 = n <<< k := by
  have dvd := dropped_dvd_of_le_exactLimit small k
  rw [roundUnits_eq, nearest_of_dvd (one_shiftLeft_pos _) dvd]
  exact Nat.div_mul_cancel dvd

theorem ofNat_of_le_exactLimit (negative : Bool) {n : Nat} (small : n ≤ exactLimit) :
    ofNat negative n = finite negative (n * one) := by
  have units : n * one = n <<< 1074 := mul_one_shiftLeft n 1074
  have below : n * one < limit := by
    have bound : exactLimit * one < limit := by decide
    exact Nat.lt_of_le_of_lt (Nat.mul_le_mul_right one small) bound
  unfold ofNat ofQuotient
  rw [units, roundUnits_shiftLeft small, ← units]
  exact if_pos below

/-- Up to the limit the place of a whole number is as many units as it has ones. -/
theorem ofNat_positive_place {n : Nat} (small : n ≤ exactLimit) :
    (ofNat false n).place? = some ((n : Int) * one) := by
  rw [ofNat_of_le_exactLimit false small, place?_positive, Int.natCast_mul]

theorem ofNat_negative_place {n : Nat} (small : n ≤ exactLimit) :
    (ofNat true n).place? = some (-(n : Int) * one) := by
  rw [ofNat_of_le_exactLimit true small, place?_negative, Int.natCast_mul, Int.neg_mul]

/-- The digits of a whole number with zeros behind the point are rounded as the number is. -/
theorem ofDecimal_whole (negative : Bool) (n : Nat) {zeros digits : Nat} (enough : zeros ≤ digits) :
    ofDecimal negative (n * Nat.pow 10 zeros) digits (0 - zeros) = ofNat negative n := by
  have power : 0 < Nat.pow 10 zeros := Nat.pow_pos (by decide)
  unfold ofDecimal
  obtain rfl | positive := Nat.eq_zero_or_pos n
  · rw [Nat.zero_mul, if_pos rfl, ofNat_of_le_exactLimit negative (Nat.zero_le _), Nat.zero_mul]
  rw [if_neg (Nat.ne_of_gt (Nat.mul_pos positive power))]
  cases zeros with
  | zero =>
    have exponent : (0 : Int) - ((0 : Nat) : Int) = .ofNat 0 := rfl
    rw [exponent]
    dsimp only
    rw [if_neg (by decide), Nat.pow_eq, Nat.pow_zero, Nat.mul_one, Nat.mul_one, ofNat]
  | succ e =>
    have exponent : (0 : Int) - ((e + 1 : Nat) : Int) = .negSucc e := by omega
    rw [exponent]
    dsimp only
    rw [if_neg (by omega)]
    exact ofQuotient_mul_right negative n power

end Binary64

/-! ## Intervals -/

namespace Interval

open Binary64

/-- The bounds of an interval may change places. What is not a number is in no interval, and
nothing is in one with such a bound. -/
theorem contains_between (a b value : Binary64) :
    (between a b).contains value = (value.isWithin a b || value.isWithin b a) := by
  unfold between contains
  cases hv : value.place? with
  | none => simp only [isWithin, isAtLeast, ordered_left hv, Bool.false_and, Bool.false_or]
  | some v =>
    cases ha : a.place? with
    | none =>
      simp only [isAbove, isWithin, isAtLeast, isAtMost, ordered_left ha, ordered_right ha,
        Bool.false_eq_true, if_false, Bool.false_and, Bool.and_false, Bool.false_or]
    | some i =>
      cases hb : b.place? with
      | none =>
        simp only [isAbove, isWithin, isAtLeast, isAtMost, ordered_right hb, Bool.false_eq_true,
          if_false, Bool.and_false, Bool.false_and, Bool.false_or]
      | some j =>
        rw [Bool.eq_iff_iff, Bool.or_eq_true, isWithin_iff hv ha hb, isWithin_iff hv hb ha]
        by_cases above : a.isAbove b = true
        · have swapped := (isAbove_iff ha hb).mp above
          rw [if_pos above, isWithin_iff hv hb ha]
          omega
        · have inOrder := mt (isAbove_iff ha hb).mpr above
          rw [if_neg above, isWithin_iff hv ha hb]
          omega

end Interval

end Criteria
