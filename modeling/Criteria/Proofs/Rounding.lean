import Criteria.Proofs.WholeNumbers

/-!
# How whole numbers are rounded

A whole number that does not fit into 53 binary digits is rounded to the nearest number that
does, a tie going to the even one. Hexadecimal digits are rounded and then get their sign, a
decimal numeral is rounded with its sign; since rounding treats both signs alike, all spellings
of a number come to the same bits.

* `Representable`, `Nearest`: the magnitudes of the format, and the nearest of them.
* `nearest_closest`, `nearest_even`: among the multiples of one number.
* `dvd_or_small`: a magnitude with finer digits than those that are kept is small.
* `roundUnits_nearest`: so what is kept is the nearest of all magnitudes.
* `spellings_agree`: every spelling of a number, in either base, reads as the nearest number.
-/

namespace Criteria

namespace Binary64

/-! ## What rounding is to find -/

/-- A magnitude of the format has 53 binary digits with zeros behind them. -/
structure Representable (units : Nat) : Prop where
  below : units < limit
  digits : ∃ m k, m < 1 <<< 53 ∧ units = m <<< k

/-- No number of the format has a place nearer to `p` than `i`, and if another is as near, then
the last bit of the number at `i` is zero. -/
structure Nearest (p i : Int) : Prop where
  representable : Representable i.natAbs
  closest : ∀ j : Int, Representable j.natAbs → (i - p).natAbs ≤ (j - p).natAbs
  even : ∀ j : Int, Representable j.natAbs → j ≠ i → (j - p).natAbs = (i - p).natAbs →
    magnitudeBits i.natAbs % 2 = 0

/-- Rounding treats both signs alike. -/
theorem Nearest.neg {p i : Int} (h : Nearest p i) : Nearest (-p) (-i) where
  representable := i.natAbs_neg.symm ▸ h.representable
  closest j fits := by
    have closest := h.closest (-j) (j.natAbs_neg.symm ▸ fits)
    omega
  even j fits other tie := by
    rw [Int.natAbs_neg]
    exact h.even (-j) (j.natAbs_neg.symm ▸ fits) (by omega) (by omega)

/-! ## Multiples of one number -/

variable {num den w : Nat}

/-- Rounding a quotient leaves it, or goes up by one from at least a half; from a half exactly it
goes to the even neighbour. -/
theorem nearest_cases (num den : Nat) :
    (nearest num den = num / den ∧ 2 * (num % den) ≤ den ∨
      nearest num den = num / den + 1 ∧ den ≤ 2 * (num % den)) ∧
    (2 * (num % den) = den → nearest num den % 2 = 0) := by
  unfold nearest
  dsimp only
  split
  next less => exact ⟨.inl ⟨rfl, Nat.le_of_lt less⟩, by omega⟩
  next notLess =>
    split
    next more => exact ⟨.inr ⟨rfl, Nat.le_of_lt more⟩, by omega⟩
    next notMore => exact ⟨by omega, by omega⟩

/-- The nearest multiple is at most half a step away. -/
theorem nearest_close (num : Nat) (positive : 0 < den) :
    2 * ((nearest num den * den : Nat) - (num : Int)).natAbs ≤ den := by
  have division := Nat.div_add_mod num den
  have rest := Nat.mod_lt num positive
  have step : (num / den + 1) * den = num / den * den + den := Nat.succ_mul _ _
  rw [Nat.mul_comm] at division
  rcases (nearest_cases num den).1 with ⟨down, small⟩ | ⟨up, large⟩
  · rw [down]
    omega
  · rw [up]
    omega

/-- If it is half a step away, the multiple is an even one. -/
theorem nearest_half (positive : 0 < den)
    (half : 2 * ((nearest num den * den : Nat) - (num : Int)).natAbs = den) :
    nearest num den % 2 = 0 := by
  have division := Nat.div_add_mod num den
  have rest := Nat.mod_lt num positive
  have step : (num / den + 1) * den = num / den * den + den := Nat.succ_mul _ _
  rw [Nat.mul_comm] at division
  obtain ⟨cases, even⟩ := nearest_cases num den
  refine even ?_
  rcases cases with ⟨down, _⟩ | ⟨up, _⟩
  · rw [down] at half
    omega
  · rw [up] at half
    omega

/-- Every other multiple is at least half a step away. -/
theorem le_of_ne_nearest (positive : 0 < den) (other : w ≠ nearest num den) :
    den ≤ 2 * ((w * den : Nat) - (num : Int)).natAbs := by
  have close := nearest_close num positive
  rcases Nat.lt_or_gt_of_ne other with less | more
  · have below : w * den + den ≤ nearest num den * den :=
      Nat.succ_mul w den ▸ Nat.mul_le_mul_right den less
    omega
  · have above : nearest num den * den + den ≤ w * den :=
      Nat.succ_mul (nearest num den) den ▸ Nat.mul_le_mul_right den more
    omega

theorem nearest_closest (num w : Nat) (positive : 0 < den) :
    ((nearest num den * den : Nat) - (num : Int)).natAbs ≤
      ((w * den : Nat) - (num : Int)).natAbs := by
  by_cases same : w = nearest num den
  · subst same
    exact Nat.le_refl _
  · have close := nearest_close num positive
    have apart := le_of_ne_nearest positive same
    omega

theorem nearest_even (positive : 0 < den) (other : w ≠ nearest num den)
    (tie : ((w * den : Nat) - (num : Int)).natAbs =
      ((nearest num den * den : Nat) - (num : Int)).natAbs) : nearest num den % 2 = 0 := by
  have close := nearest_close num positive
  have apart := le_of_ne_nearest positive other
  exact nearest_half positive (by omega)

/-! ## Magnitudes -/

variable {exact m d : Nat}

/-- A magnitude that is no multiple of what the last digit kept counts has finer digits, so it
is small. -/
theorem dvd_or_small {units : Nat} (h : Representable units) (d : Nat) :
    1 <<< d ∣ units ∨ units < (1 <<< 52) * (1 <<< d) := by
  obtain ⟨m, k, digits, rfl⟩ := h.digits
  simp only [Nat.shiftLeft_eq, Nat.one_mul] at digits ⊢
  rcases Nat.lt_or_ge k d with fine | coarse
  · right
    calc m * 2 ^ k < 2 ^ 53 * 2 ^ k := (Nat.mul_lt_mul_right (Nat.two_pow_pos k)).mpr digits
      _ = 2 ^ 52 * 2 ^ (k + 1) := by
        rw [← Nat.pow_add, ← Nat.pow_add, Nat.add_comm k, ← Nat.add_assoc]
      _ ≤ 2 ^ 52 * 2 ^ d := Nat.mul_le_mul_left _ (Nat.pow_le_pow_right (by decide) fine)
  · exact .inl (Nat.dvd_mul_left_of_dvd (Nat.pow_dvd_pow 2 coarse) m)

/-- If digits are dropped, the number has 53 more. -/
theorem bounds_of_dropped (some : droppedDigits exact ≠ 0) :
    (1 <<< 52) * (1 <<< droppedDigits exact) ≤ exact ∧
      exact < (1 <<< 53) * (1 <<< droppedDigits exact) := by
  unfold droppedDigits at some ⊢
  have positive : exact ≠ 0 := by
    rintro rfl
    exact some rfl
  obtain ⟨least, most⟩ := (Nat.log2_eq_iff positive).mp rfl
  simp only [Nat.shiftLeft_eq, Nat.one_mul, ← Nat.pow_add]
  have low : 52 + (exact.log2 - 52) = exact.log2 := by omega
  have high : 53 + (exact.log2 - 52) = exact.log2 + 1 := by omega
  rw [low, high]
  exact ⟨least, most⟩

/-- What is kept has 53 digits, or is the first number with more. -/
theorem kept_bounds (some : droppedDigits exact ≠ 0) :
    1 <<< 52 ≤ nearest exact (1 <<< droppedDigits exact) ∧
      nearest exact (1 <<< droppedDigits exact) ≤ 1 <<< 53 := by
  obtain ⟨least, most⟩ := bounds_of_dropped some
  have positive := one_shiftLeft_pos (droppedDigits exact)
  have close := nearest_close exact positive
  generalize 1 <<< droppedDigits exact = step at *
  constructor
  · refine Nat.le_of_not_lt fun less => ?_
    have below : nearest exact step * step + step ≤ (1 <<< 52) * step :=
      Nat.succ_mul (nearest exact step) step ▸ Nat.mul_le_mul_right step less
    omega
  · refine Nat.le_of_not_lt fun more => ?_
    have above : (1 <<< 53) * step + step ≤ nearest exact step * step :=
      Nat.succ_mul (1 <<< 53) step ▸ Nat.mul_le_mul_right step more
    omega

theorem roundUnits_of_short (none : droppedDigits exact = 0) : roundUnits exact 1 = exact := by
  rw [roundUnits_eq, none]
  exact (Nat.mul_one _).trans
    ((nearest_of_dvd (Nat.zero_lt_one) (Nat.one_dvd exact)).trans (Nat.div_one exact))

/-- The first number with one digit more has a zero more behind it. -/
theorem one_more_digit (d : Nat) : (1 <<< 53) <<< d = (1 <<< 52) <<< (1 + d) :=
  (Nat.shiftLeft_add (1 <<< 52) 1 d).symm

theorem representable_roundUnits (below : roundUnits exact 1 < limit) :
    Representable (roundUnits exact 1) := by
  refine ⟨below, ?_⟩
  by_cases none : droppedDigits exact = 0
  · rw [roundUnits_of_short none]
    refine ⟨exact, 0, ?_, rfl⟩
    rw [Nat.one_shiftLeft]
    rcases Nat.eq_zero_or_pos exact with rfl | positive
    · exact Nat.two_pow_pos 53
    · refine (Nat.log2_lt (Nat.ne_of_gt positive)).mp ?_
      unfold droppedDigits at none
      omega
  · obtain ⟨_, most⟩ := kept_bounds none
    rw [roundUnits_eq]
    rcases Nat.eq_or_lt_of_le most with last | less
    · refine ⟨1 <<< 52, 1 + droppedDigits exact, by decide, ?_⟩
      rw [last, mul_one_shiftLeft]
      exact one_more_digit _
    · exact ⟨_, _, less, mul_one_shiftLeft _ _⟩

/-- An even number of 53 digits, or the first number with more, ends in a zero bit. -/
theorem magnitudeBits_even (least : 1 <<< 52 ≤ m) (most : m ≤ 1 <<< 53) (even : m % 2 = 0) :
    magnitudeBits (m * (1 <<< d)) % 2 = 0 := by
  have positive : 0 < m := Nat.lt_of_lt_of_le (one_shiftLeft_pos 52) least
  have large : ¬ m <<< d < leadingDigit := by
    rw [Nat.shiftLeft_eq]
    exact Nat.not_lt.mpr (Nat.le_trans least (Nat.le_mul_of_pos_right m (Nat.two_pow_pos d)))
  have digits : (m <<< d) >>> droppedDigits (m <<< d) % 2 = 0 := by
    rw [droppedDigits, log2_shiftLeft positive]
    rcases Nat.eq_or_lt_of_le most with last | less
    · have count : (1 <<< 53 : Nat).log2 + d - 52 = 1 + d := by
        rw [Nat.one_shiftLeft, Nat.log2_two_pow]
        omega
      rw [last, count, one_more_digit, Nat.shiftLeft_shiftRight]
      decide
    · rw [Nat.one_shiftLeft] at least less
      have count : m.log2 + d - 52 = d := by
        rw [(Nat.log2_eq_iff (Nat.ne_of_gt positive)).mpr ⟨least, less⟩]
        omega
      rw [count, Nat.shiftLeft_shiftRight]
      exact even
  unfold magnitudeBits
  dsimp only
  rw [mul_one_shiftLeft, if_neg large, Nat.shiftLeft_eq _ 52]
  have leading : leadingDigit % 2 = 0 := by decide
  omega

/-- Where digits are dropped, a number of the format is a multiple of what the last digit kept
counts, or it is farther away than the nearest multiple. -/
theorem multiple_or_farther (some : droppedDigits exact ≠ 0) {j : Int}
    (fits : Representable j.natAbs) :
    (∃ w : Nat, j = (w * (1 <<< droppedDigits exact) : Nat)) ∨
      ((roundUnits exact 1 : Int) - exact).natAbs < (j - exact).natAbs := by
  have closest (w : Nat) := nearest_closest exact w (one_shiftLeft_pos (droppedDigits exact))
  rw [← roundUnits_eq] at closest
  rcases Int.lt_or_le j 0 with minus | plus
  · -- zero is a multiple, and it is nearer
    have zero := closest 0
    rw [Nat.zero_mul] at zero
    exact .inr (by omega)
  · rcases dvd_or_small fits (droppedDigits exact) with ⟨w, multiple⟩ | small
    · refine .inl ⟨w, ?_⟩
      rw [Nat.mul_comm, ← multiple]
      omega
    · -- the first multiple with 53 digits lies between
      have first := closest (1 <<< 52)
      obtain ⟨least, _⟩ := bounds_of_dropped some
      exact .inr (by omega)

/-- Rounding a magnitude finds the nearest one of the format. -/
theorem roundUnits_nearest (below : roundUnits exact 1 < limit) :
    Nearest exact (roundUnits exact 1) := by
  have fits := representable_roundUnits below
  by_cases none : droppedDigits exact = 0
  · -- nothing is dropped, so nothing is nearer
    rw [roundUnits_of_short none] at fits ⊢
    exact ⟨fits, fun j _ => by omega, fun j _ other tie => absurd (by omega) other⟩
  have positive := one_shiftLeft_pos (droppedDigits exact)
  refine ⟨fits, fun j fitsToo => ?_, fun j fitsToo other tie => ?_⟩
  · rcases multiple_or_farther none fitsToo with ⟨w, rfl⟩ | farther
    · rw [roundUnits_eq]
      exact nearest_closest exact w positive
    · exact Nat.le_of_lt farther
  · rcases multiple_or_farther none fitsToo with ⟨w, rfl⟩ | farther
    · rw [roundUnits_eq] at other tie
      have apart : w ≠ nearest exact (1 <<< droppedDigits exact) := by
        rintro rfl
        exact other rfl
      obtain ⟨least, most⟩ := kept_bounds none
      rw [roundUnits_eq, Int.natAbs_natCast]
      exact magnitudeBits_even least most (nearest_even positive apart tie)
    · omega

/-! ## Numbers with a sign -/

variable {units n : Nat}

theorem roundUnits_le (exact : Nat) : roundUnits exact 1 ≤ 2 * exact := by
  by_cases none : droppedDigits exact = 0
  · rw [roundUnits_of_short none]
    omega
  · have close := nearest_close exact (one_shiftLeft_pos (droppedDigits exact))
    have step : 1 <<< droppedDigits exact ≤ (1 <<< 52) * (1 <<< droppedDigits exact) :=
      Nat.le_mul_of_pos_left _ (one_shiftLeft_pos 52)
    obtain ⟨least, _⟩ := bounds_of_dropped none
    rw [roundUnits_eq]
    omega

theorem log2_lt_of_lt_shiftLeft {k : Nat} (filled : units ≠ 0) (below : units < 1 <<< k) :
    units.log2 < k :=
  (Nat.log2_lt filled).mpr (Nat.one_shiftLeft k ▸ below)

theorem shiftRight_droppedDigits_lt (units : Nat) : units >>> droppedDigits units < 1 <<< 53 := by
  have digits : units.log2 + 1 ≤ droppedDigits units + 53 := by
    unfold droppedDigits
    omega
  have whole : units < 2 ^ (droppedDigits units + 53) :=
    Nat.lt_of_lt_of_le Nat.lt_log2_self (Nat.pow_le_pow_right (by decide) digits)
  rw [Nat.pow_add] at whole
  rw [Nat.shiftRight_eq_div_pow, Nat.one_shiftLeft]
  exact Nat.div_lt_of_lt_mul whole

/-- A magnitude leaves the bit of the sign free. -/
theorem magnitudeBits_lt (below : units < limit) : magnitudeBits units < 1 <<< 63 := by
  unfold magnitudeBits
  dsimp only
  split
  next small => exact Nat.lt_trans small (by decide)
  next large =>
    have least : 1 <<< 52 ≤ units := Nat.le_of_not_lt large
    have filled : units ≠ 0 := Nat.ne_of_gt (Nat.lt_of_lt_of_le (one_shiftLeft_pos 52) least)
    have most : units.log2 < 2098 := log2_lt_of_lt_shiftLeft filled below
    have fraction := shiftRight_droppedDigits_lt units
    have exponent : (droppedDigits units + 1) <<< 52 ≤ 2046 <<< 52 := by
      rw [Nat.shiftLeft_eq, Nat.shiftLeft_eq]
      refine Nat.mul_le_mul_right _ ?_
      unfold droppedDigits
      omega
    have total : 2046 <<< 52 + (1 <<< 53 - leadingDigit) < 1 <<< 63 := by decide
    omega

/-- `x` is what the integer with the magnitude `n` and the sign given is rounded to. -/
structure RoundsTo (negative : Bool) (n : Nat) (x : Binary64) : Prop where
  /-- The first of its bits is the sign, also where the magnitude is zero. -/
  sign : ∃ bits, x.toBits? = some bits ∧ bits.testBit 63 = negative
  nearest : ∃ i, x.place? = some i ∧ Nearest ((if negative then -n else n : Int) * one) i

theorem finite_sign (negative : Bool) (below : units < limit) :
    ∃ bits, (finite negative units).toBits? = some bits ∧ bits.testBit 63 = negative := by
  have free := magnitudeBits_lt below
  rw [Nat.one_shiftLeft] at free
  refine ⟨_, rfl, ?_⟩
  cases negative with
  | false => rw [signBit, if_neg Bool.false_ne_true, Nat.zero_add, Nat.testBit_lt_two_pow free]
  | true =>
    rw [signBit, if_pos rfl, Nat.one_shiftLeft, Nat.testBit_two_pow_add_eq,
      Nat.testBit_lt_two_pow free]
    rfl

/-- A whole number of fifteen hexadecimal digits is rounded to the nearest number of the
format, with either sign. -/
theorem ofNat_roundsTo (negative : Bool) (small : n < Nat.pow 16 15) :
    RoundsTo negative n (ofNat negative n) := by
  have below : roundUnits (n * one) 1 < limit := by
    have bound : 2 * (Nat.pow 16 15 * one) < limit := by decide
    have scaled : n * one ≤ Nat.pow 16 15 * one := Nat.mul_le_mul_right one (Nat.le_of_lt small)
    exact Nat.lt_of_le_of_lt (roundUnits_le _)
      (Nat.lt_of_le_of_lt (Nat.mul_le_mul_left 2 scaled) bound)
  have rounded : ofNat negative n = finite negative (roundUnits (n * one) 1) := by
    unfold ofNat ofQuotient
    exact if_pos below
  have nearest := roundUnits_nearest below
  rw [Int.natCast_mul] at nearest
  rw [rounded]
  refine ⟨finite_sign negative below, ?_⟩
  cases negative with
  | false => exact ⟨_, place?_positive _, nearest⟩
  | true =>
    refine ⟨_, place?_negative _, ?_⟩
    rw [if_pos rfl, Int.neg_mul]
    exact nearest.neg

end Binary64

/-! ## Spellings -/

namespace Numeral

variable {n : Nat} {sign t u : Text}

/-- All spellings of a whole number of up to fifteen hexadecimal digits, in decimal and in
hexadecimal, read as one number with the same sign before them: the nearest to the integer that
they spell, a tie going to the even one, with the sign in its bits. -/
theorem spellings_agree (small : n < Nat.pow 16 15) (mem : sign ∈ signs) (ht : Spells n t)
    (hu : Spells n u) :
    ∃ x, read? (sign ++ t) = some x ∧ read? (sign ++ u) = some x ∧
      Binary64.RoundsTo (sign == ['-']) n x :=
  ⟨_, ht.read?_signed mem, hu.read?_signed mem, Binary64.ofNat_roundsTo _ small⟩

/-- The first whole number that is rounded lies halfway between two numbers of the format. -/
theorem spellings_agree_halfway :
    (9007199254740993 < Nat.pow 16 15 ∧ ['-'] ∈ signs ∧
      Spells 9007199254740993 "0X020000000000001".toList ∧
      Spells 9007199254740993 "0009007199254740993L".toList) ∧
    ∃ x, read? "-0X020000000000001".toList = some x ∧
      read? "-0009007199254740993L".toList = some x ∧
      Binary64.RoundsTo true 9007199254740993 x := by
  have small : 9007199254740993 < Nat.pow 16 15 := by decide
  have mem : ['-'] ∈ signs := by decide
  have hex : Spells 9007199254740993 "0X020000000000001".toList :=
    .hex 1 (.inr rfl) (by decide) (by decide)
  have decimal : Spells 9007199254740993 "0009007199254740993L".toList :=
    .decimal 3 (.long (by decide))
  have agree := spellings_agree small mem hex decimal
  have signedHex : ['-'] ++ "0X020000000000001".toList = "-0X020000000000001".toList := by decide
  have signedDecimal : ['-'] ++ "0009007199254740993L".toList = "-0009007199254740993L".toList := by
    decide
  rw [signedHex, signedDecimal] at agree
  exact ⟨⟨small, mem, hex, decimal⟩, agree⟩

end Numeral

end Criteria
