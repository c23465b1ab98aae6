import Criteria.Proofs.NumberReading

/-!
# How whole numbers are spelled

A whole number may have zeros before it, a point with zeros behind it, and a letter; or it
is written in hexadecimal. All its spellings read as one number, the rounding of what they
spell. That is so because the digits after the point are taken back out of the power of
ten before anything is rounded.

* `Numeral.Spells`: a text spells a whole number without a sign, in decimal or in
  hexadecimal, and `SpellsInt`: with a sign.
* `Digit.mapM_toDigits`: the digits of a number are read back in every base.
* `Spells.read?_signed`: whatever the spelling, a whole number reads as its rounding.
* `SpellsInt.read?_place`: up to the limit an integer reads as the number in its place.
-/

namespace Criteria

namespace Digit

/-! ## The digits of a number -/

theorem decimal?_digitChar : ∀ d < 10, decimal? (Nat.digitChar d) = some d := by decide

theorem hex?_digitChar : ∀ d < 16, hex? (Nat.digitChar d) = some d := by decide

theorem number_concat (base : Nat) (digits : List Nat) (d : Nat) :
    number base (digits ++ [d]) = number base digits * base + d := by
  rw [number, List.foldl_append]
  rfl

theorem number_zeros_append (base zeros : Nat) (digits : List Nat) :
    number base (List.replicate zeros 0 ++ digits) = number base digits := by
  induction zeros with
  | zero => rfl
  | succ zeros ih =>
    rw [List.replicate_succ, List.cons_append, number, List.foldl_cons, Nat.zero_mul]
    exact ih

theorem number_append_zeros (base : Nat) (digits : List Nat) (zeros : Nat) :
    number base (digits ++ List.replicate zeros 0) = number base digits * Nat.pow base zeros := by
  induction zeros with
  | zero => rw [List.replicate_zero, List.append_nil, Nat.pow_eq, Nat.pow_zero, Nat.mul_one]
  | succ zeros ih =>
    rw [List.replicate_succ', ← List.append_assoc, number_concat, ih, Nat.add_zero, Nat.mul_assoc]
    rfl

/-- Who reads the digits of a base reads back every number that is written in it. -/
theorem mapM_toDigits {read : Char → Option Nat} {base : Nat} (large : 1 < base)
    (reads : ∀ d < base, read (Nat.digitChar d) = some d) (n : Nat) :
    ∃ digits, (Nat.toDigits base n).mapM read = some digits ∧ number base digits = n := by
  induction n using Nat.strongRecOn with
  | ind n ih =>
    rw [Nat.toDigits_eq_if large]
    split
    next small =>
      rw [List.mapM_cons, reads n small]
      exact ⟨[n], rfl, by rw [number, List.foldl_cons, Nat.zero_mul, Nat.zero_add]; rfl⟩
    next more =>
      have positive : 0 < n := Nat.lt_of_lt_of_le (Nat.zero_lt_of_lt large) (Nat.le_of_not_lt more)
      obtain ⟨digits, read_eq, value⟩ := ih (n / base) (Nat.div_lt_self positive large)
      have last := reads (n % base) (Nat.mod_lt n (Nat.zero_lt_of_lt large))
      refine ⟨digits ++ [n % base], ?_, ?_⟩
      · rw [List.mapM_append, read_eq, List.mapM_cons, last]
        rfl
      · rw [number_concat, value, Nat.mul_comm, Nat.div_add_mod]

/-- The digits of a number with zeros before them. -/
def padded (base zeros n : Nat) : Text := List.replicate zeros '0' ++ Nat.toDigits base n

theorem mapM_zeros {read : Char → Option Nat} (zero : read '0' = some 0) (zeros : Nat) :
    (List.replicate zeros '0').mapM read = some (List.replicate zeros 0) := by
  induction zeros with
  | zero => rfl
  | succ zeros ih =>
    rw [List.replicate_succ, List.mapM_cons, zero, ih]
    rfl

theorem mapM_padded {read : Char → Option Nat} {base : Nat} (large : 1 < base)
    (reads : ∀ d < base, read (Nat.digitChar d) = some d) (zeros n : Nat) :
    ∃ digits, (padded base zeros n).mapM read = some digits ∧ number base digits = n := by
  obtain ⟨digits, read_eq, value⟩ := mapM_toDigits large reads n
  refine ⟨List.replicate zeros 0 ++ digits, ?_, (number_zeros_append base zeros digits).trans value⟩
  rw [padded, List.mapM_append, mapM_zeros (reads 0 (Nat.zero_lt_of_lt large)), read_eq]
  rfl

/-- The case of a letter makes no difference to a hexadecimal digit. -/
theorem hex?_toLower (c : Char) : hex? c.toLower = hex? c := by
  by_cases capital : 'A' ≤ c ∧ c ≤ 'Z'
  · have letters : ∀ n < 91, 65 ≤ n → hex? (Char.ofNat n).toLower = hex? (Char.ofNat n) := by decide
    have letter := letters c.toNat (Nat.lt_succ_of_le capital.2) capital.1
    rwa [Char.ofNat_toNat] at letter
  · exact congrArg hex? (dif_neg capital)

theorem mapM_hex?_lower (t : Text) : (Text.lower t).mapM hex? = t.mapM hex? := by
  rw [Text.lower, List.mapM_map]
  exact congrArg (t.mapM ·) (funext hex?_toLower)

end Digit

namespace Numeral

open Digit

/-! ## Spellings -/

/-- What may follow the digits of a whole number: a point, with zeros or without, and a letter
for any number, or the letter for whole numbers. -/
inductive WholeEnding : Text → Prop
  | real {letter : Text} : letter ∈ realLetters → WholeEnding letter
  | pointed (zeros : Nat) {letter : Text} : letter ∈ realLetters →
      WholeEnding ('.' :: (List.replicate zeros '0' ++ letter))
  | long {letter : Text} : letter ∈ wholeLetters → WholeEnding letter

/-- A text spells a whole number without a sign. -/
inductive Spells (n : Nat) : Text → Prop
  | decimal (zeros : Nat) {ending : Text} : WholeEnding ending →
      Spells n (padded 10 zeros n ++ ending)
  | hex (zeros : Nat) {mark : Char} {digits : Text} : mark = 'x' ∨ mark = 'X' →
      Text.lower digits = padded 16 zeros n → digits.length ≤ 15 →
      Spells n ('0' :: mark :: digits)

/-- A text spells an integer; a whole number may also have the sign plus. -/
inductive SpellsInt : Int → Text → Prop
  | unsigned {n : Nat} {t : Text} : Spells n t → SpellsInt n t
  | plus {n : Nat} {t : Text} : Spells n t → SpellsInt n ('+' :: t)
  | minus {n : Nat} {t : Text} : Spells n t → SpellsInt (-n) ('-' :: t)

variable {n : Nat} {t sign : Text} {digits : List Nat} {negative : Bool}

/-! ## Reading in decimal -/

/-- Zeros behind the point make no difference. -/
theorem Significand.value_zeros (digits : List Nat) (zeros : Nat) (negative : Bool) :
    Significand.value ⟨digits, List.replicate zeros 0⟩ negative 0 =
      Binary64.ofNat negative (number 10 digits) := by
  have enough : zeros ≤ (digits ++ List.replicate zeros 0).length := by
    rw [List.length_append, List.length_replicate]
    exact Nat.le_add_left _ _
  rw [Significand.value, number_append_zeros, List.length_replicate]
  exact Binary64.ofDecimal_whole negative _ enough

/-- Digits with zeros behind the point, or without a point, are the number that they stand for. -/
theorem Opens.readUnsigned?_whole (h : Opens t) (zeros : Nat)
    (read : readSignificand? t = some (⟨digits, List.replicate zeros 0⟩, [])) :
    readUnsigned? negative t = some (Binary64.ofNat negative (number 10 digits)) := by
  rw [h.readUnsigned?_eq, read]
  exact congrArg some (Significand.value_zeros digits zeros negative)

theorem padded_ne_nil (base zeros n : Nat) : padded base zeros n ≠ [] :=
  List.append_ne_nil_of_right_ne_nil _ Nat.toDigits_ne_nil

/-- Decimal digits with zeros before them, as they are read. -/
theorem exists_padded (zeros n : Nat) : ∃ digits, (padded 10 zeros n).mapM decimal? = some digits ∧
    number 10 digits = n ∧ Run (· ∈ decimals) (padded 10 zeros n) := by
  obtain ⟨digits, read, value⟩ := mapM_padded (by decide) decimal?_digitChar zeros n
  exact ⟨digits, read, value, padded_ne_nil 10 zeros n, fun c mem =>
    isSome_decimal?_iff.mp (isSome_of_mapM read c mem)⟩

theorem readUnsigned?_padded (zeros n : Nat) :
    readUnsigned? negative (padded 10 zeros n) = some (Binary64.ofNat negative n) := by
  obtain ⟨digits, read, value, run⟩ := exists_padded zeros n
  have stop : afterDigits [] = [] := rfl
  have filled := run.leadingDigits_isEmpty stop
  obtain ⟨leading, after⟩ := digits_append read stop
  rw [List.append_nil] at filled leading after
  have significand : readSignificand? (padded 10 zeros n) = some (⟨digits, []⟩, []) := by
    rw [readSignificand?_pointless (by rw [after]; exact fun point => nomatch point), filled,
      leading, after]
    rfl
  rw [run.opens.readUnsigned?_whole 0 significand, value]

theorem readUnsigned?_pointed (zeros n more : Nat) :
    readUnsigned? negative (padded 10 zeros n ++ '.' :: List.replicate more '0') =
      some (Binary64.ofNat negative n) := by
  obtain ⟨digits, read, value, run⟩ := exists_padded zeros n
  -- the point stops the digits before it, and the end of the text those behind it
  have stop : afterDigits ('.' :: List.replicate more '0') = '.' :: List.replicate more '0' := rfl
  have filled := run.leadingDigits_isEmpty stop
  obtain ⟨leading, after⟩ := digits_append read stop
  obtain ⟨fraction, rest⟩ := digits_append (mapM_zeros (by decide) more) (rfl : afterDigits [] = [])
  rw [List.append_nil] at fraction rest
  have significand : readSignificand? (padded 10 zeros n ++ '.' :: List.replicate more '0') =
      some (⟨digits, List.replicate more 0⟩, []) := by
    rw [readSignificand?_pointed after, filled, leading, fraction, rest]
    rfl
  rw [(run.opens.append _).readUnsigned?_whole more significand, value]

/-! ## Reading with a sign -/

/-- Whatever the spelling of a whole number, it is rounded once, with the sign before it. -/
theorem Spells.read?_signed (h : Spells n t) (mem : sign ∈ signs) :
    read? (sign ++ t) = some (Binary64.ofNat (sign == ['-']) n) := by
  cases h with
  | @decimal zeros ending last =>
    obtain ⟨_, _, _, run⟩ := exists_padded zeros n
    cases last with
    | real letter =>
      have read := read?_real mem (.whole run) .absent letter
      rw [List.append_nil, List.append_assoc] at read
      rw [read, readUnsigned?_padded]
    | @pointed more letter ending =>
      have fraction : ∀ c ∈ List.replicate more '0', c ∈ decimals := fun c zero => by
        rw [List.eq_of_mem_replicate zero]
        decide
      have read := read?_real mem (.pointed run.digits fraction (.inl run.ne_nil)) .absent ending
      rw [List.append_nil, List.append_assoc, List.append_assoc, List.cons_append] at read
      rw [read, readUnsigned?_pointed]
    | long letter =>
      have read := read?_whole mem run letter
      rw [List.append_assoc] at read
      rw [read, readUnsigned?_padded]
  | @hex zeros mark digits marked written few =>
    obtain ⟨values, read, value⟩ := mapM_padded (by decide) hex?_digitChar zeros n
    rw [← written, mapM_hex?_lower] at read
    have filled : digits ≠ [] := by
      rintro rfl
      exact padded_ne_nil 16 zeros n written.symm
    have run : Run (· ∈ hexadecimals) digits :=
      ⟨filled, fun c inDigits => isSome_hex?_iff.mp (isSome_of_mapM read c inDigits)⟩
    rw [read?_hexadecimal mem marked run few read, value]

theorem Spells.read?_bare (h : Spells n t) : read? t = some (Binary64.ofNat false n) := by
  have signed := h.read?_signed (by decide : [] ∈ signs)
  rwa [List.nil_append] at signed

theorem Spells.read?_plus (h : Spells n t) : read? ('+' :: t) = some (Binary64.ofNat false n) := by
  have signed := h.read?_signed (by decide : ['+'] ∈ signs)
  rwa [List.singleton_append] at signed

theorem Spells.read?_minus (h : Spells n t) : read? ('-' :: t) = some (Binary64.ofNat true n) := by
  have signed := h.read?_signed (by decide : ['-'] ∈ signs)
  rwa [List.singleton_append] at signed

/-! ## Integers -/

/-- Up to the limit an integer reads as the number in its place. -/
theorem SpellsInt.read?_place {v : Int} (h : SpellsInt v t)
    (small : v.natAbs ≤ Binary64.exactLimit) :
    ∃ x, read? t = some x ∧ x.place? = some (v * Binary64.one) := by
  cases h with
  | unsigned spells =>
    rw [Int.natAbs_natCast] at small
    exact ⟨_, spells.read?_bare, Binary64.ofNat_positive_place small⟩
  | plus spells =>
    rw [Int.natAbs_natCast] at small
    exact ⟨_, spells.read?_plus, Binary64.ofNat_positive_place small⟩
  | minus spells =>
    rw [Int.natAbs_neg, Int.natAbs_natCast] at small
    exact ⟨_, spells.read?_minus, Binary64.ofNat_negative_place small⟩

end Numeral

end Criteria
