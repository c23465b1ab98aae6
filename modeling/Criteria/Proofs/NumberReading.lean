import Criteria.Proofs.NumberPatterns

/-!
# Which texts are numbers

A decimal number passes two filters: its written form, which allows the digits of every script,
and the reader of the format, which allows words. Neither is what a number is, but both together
are: the form leaves no words over, and the reader no digits but those of ASCII. In between the
letter for the type is taken away, which no digit of any script is.

* `withoutType_real`, `withoutType_whole`: what is taken away is the letter at the end.
* `decimal_filters_iff`: the two filters let through the decimal numbers of ASCII digits.
* `read?_real`, `read?_whole`, `read?_hexadecimal`: what each kind of number reads as.
* `read?_isSome_iff_isNumber`: so a text reads as a number exactly if it is written as one.
* `read?_long`, `read?_foreign`, `read?_digitless`: what no number is.
-/

namespace Criteria

namespace Digit

variable {base : Nat} {digits : List Nat}

theorem foldl_digits_lt (small : ∀ d ∈ digits, d < base) (value : Nat) :
    digits.foldl (fun value d => value * base + d) value <
      (value + 1) * Nat.pow base digits.length := by
  induction digits generalizing value with
  | nil => exact Nat.lt_of_lt_of_eq (Nat.lt_succ_self value) (Nat.mul_one _).symm
  | cons d digits ih =>
    obtain ⟨first, later⟩ := List.forall_mem_cons.mp small
    have step : value * base + d + 1 ≤ (value + 1) * base := by
      rw [Nat.succ_mul]
      omega
    calc digits.foldl (fun value d => value * base + d) (value * base + d)
        < (value * base + d + 1) * Nat.pow base digits.length := ih later _
      _ ≤ (value + 1) * base * Nat.pow base digits.length := Nat.mul_le_mul_right _ step
      _ = (value + 1) * Nat.pow base (digits.length + 1) := by
          rw [Nat.mul_assoc, Nat.mul_comm base]
          rfl

theorem number_lt (small : ∀ d ∈ digits, d < base) :
    number base digits < Nat.pow base digits.length :=
  Nat.lt_of_lt_of_eq (foldl_digits_lt small 0) (Nat.one_mul _)

theorem hex?_lt {c : Char} {d : Nat} (h : hex? c = some d) : d < 16 := by
  have table : (Numeral.hexadecimals.all fun c => (hex? c).all (· < 16)) = true := by decide
  have digit := Numeral.isSome_hex?_iff.mp (Option.isSome_of_eq_some h)
  have value := List.all_eq_true.mp table c digit
  rw [h] at value
  exact of_decide_eq_true value

end Digit

namespace Numeral

open Text Digit

variable {t w e sign letter digits rest : Text} {c mark : Char} {negative : Bool} {x : Binary64}

/-! ## The letter for the type -/

/-- The text ends with something else than a letter for a type. -/
def Untyped (t : Text) : Prop := ∃ u c, t = u ++ [c] ∧ isTypeLetter c = false

theorem Untyped.prepend (h : Untyped t) (u : Text) : Untyped (u ++ t) := by
  obtain ⟨v, c, rfl, other⟩ := h
  exact ⟨u ++ v, c, (List.append_assoc u v [c]).symm, other⟩

theorem Untyped.withoutType_eq (h : Untyped t) (letters : ∀ c ∈ letter, isTypeLetter c = true) :
    withoutType (t ++ letter) = t := by
  obtain ⟨u, c, rfl, other⟩ := h
  have all : ∀ c ∈ letter.reverse, isTypeLetter c = true := fun c mem =>
    letters c (List.mem_reverse.mp mem)
  rw [withoutType, List.reverse_append, List.dropWhile_append_of_pos all, List.reverse_concat,
    List.dropWhile_cons_of_neg (by rw [other]; exact Bool.false_ne_true), List.reverse_cons,
    List.reverse_reverse]

/-- No digit of any script is a letter for a type. -/
theorem IsDigit.other (h : IsDigit c) : isTypeLetter c = false := by
  rw [Bool.eq_false_iff]
  intro letter
  have foreign : ("dDfFlL".toList.all fun c => c.toNat < 128 && !decimals.contains c) = true := by
    decide
  have holds := List.all_eq_true.mp foreign c (List.contains_iff_mem.mp letter)
  simp only [Bool.and_eq_true, decide_eq_true_eq, Bool.not_eq_true', Bool.eq_false_iff, ne_eq,
    List.contains_iff_mem] at holds
  exact holds.2 ((isDigit_iff_of_ascii holds.1).mp h)

theorem Run.untyped (h : Run IsDigit w) : Untyped w := by
  rcases List.eq_nil_or_concat w with rfl | ⟨u, c, rfl⟩
  · exact absurd rfl h.ne_nil
  · have digit : IsDigit c := h.digits c (by simp)
    exact ⟨u, c, List.concat_eq_append, digit.other⟩

theorem IsSignificand.untyped (h : IsSignificand IsDigit w) : Untyped w := by
  cases h with
  | whole run => exact run.untyped
  | @pointed w f _ fraction _ =>
    cases f with
    | nil => exact ⟨w, '.', rfl, rfl⟩
    | cons c f =>
      have run : Run IsDigit (c :: f) := ⟨List.cons_ne_nil c f, fraction⟩
      rw [List.append_cons]
      exact run.untyped.prepend (w ++ ['.'])

theorem IsPower.untyped (h : IsPower IsDigit e) (written : IsSignificand IsDigit w) :
    Untyped (w ++ e) := by
  cases h with
  | absent =>
    rw [List.append_nil]
    exact written.untyped
  | @power letter sign digits _ _ run =>
    exact (run.untyped.prepend (letter :: sign)).prepend w

theorem withoutType_real (written : IsSignificand IsDigit w) (power : IsPower IsDigit e)
    (ending : letter ∈ realLetters) :
    withoutType (sign ++ (w ++ e) ++ letter) = sign ++ (w ++ e) := by
  have letters : (realLetters.all fun letter => letter.all isTypeLetter) = true := by decide
  exact ((power.untyped written).prepend sign).withoutType_eq
    (List.all_eq_true.mp (List.all_eq_true.mp letters letter ending))

theorem withoutType_whole (run : Run IsDigit w) (ending : letter ∈ wholeLetters) :
    withoutType (sign ++ w ++ letter) = sign ++ w := by
  have letters : (wholeLetters.all fun letter => letter.all isTypeLetter) = true := by decide
  exact (run.untyped.prepend sign).withoutType_eq
    (List.all_eq_true.mp (List.all_eq_true.mp letters letter ending))

/-! ## The two filters -/

/-- Among the characters of numbers the digits of every script are those that are read. -/
theorem IsNumeral.mem_decimals (h : IsNumeral t) (mem : c ∈ t) (digit : IsDigit c) :
    c ∈ decimals := by
  have range := isNumeralChar_iff.mp (h c mem)
  exact (isDigit_iff_of_ascii (by omega)).mp digit

theorem numeral_parts (h : (readFloat? (sign ++ w)).isSome = true) : IsNumeral w := fun c mem =>
  (readFloat?_isSome_iff.mp h).isNumeral c (List.mem_append_right sign mem)

/-- The form and the reader let through the decimal numbers of ASCII digits, and nothing else. -/
theorem decimal_filters_iff :
    hasForm decimalPattern? t = true ∧ (readFloat? (withoutType t)).isSome = true ↔
      IsDecimal (· ∈ decimals) t := by
  rw [hasForm_decimal_iff]
  constructor
  · rintro ⟨form, read⟩
    cases form with
    | real mem written power ending =>
      rw [withoutType_real written power ending] at read
      have numeral := numeral_parts read
      refine .real mem (written.imp fun c inW => ?_) (power.imp fun c inE => ?_) ending
      · exact numeral.mem_decimals (List.mem_append_left _ inW)
      · exact numeral.mem_decimals (List.mem_append_right _ inE)
    | whole mem run ending =>
      rw [withoutType_whole run ending] at read
      exact .whole mem (run.imp fun c => (numeral_parts read).mem_decimals) ending
  · intro decimal
    refine ⟨decimal.imp fun c => isDigit_of_mem, readFloat?_isSome_iff.mpr ?_⟩
    cases decimal with
    | real mem written power ending =>
      rw [withoutType_real (written.imp fun c _ => isDigit_of_mem)
        (power.imp fun c _ => isDigit_of_mem) ending]
      exact .numeral mem written power
    | @whole sign w letter mem run ending =>
      rw [withoutType_whole (run.imp fun c _ => isDigit_of_mem) ending, ← List.append_nil w]
      exact .numeral mem (.whole run) .absent

/-! ## Hexadecimal numbers -/

theorem hexGroups?_marked (mem : sign ∈ signs) (marked : mark = 'x' ∨ mark = 'X')
    (run : Run (· ∈ hexadecimals) digits) (few : digits.length ≤ 15) :
    hexGroups? (sign ++ '0' :: mark :: digits) = some (sign, digits) := by
  have form := hasForm_hexadecimal_iff.mpr (.marked mem marked run few)
  simp only [signs, List.mem_cons, List.not_mem_nil, or_false] at mem
  rw [hexGroups?, if_pos form]
  obtain rfl | rfl | rfl := mem <;> rfl

theorem hexGroups?_none (h : ¬ IsHexadecimal t) : hexGroups? t = none :=
  if_neg fun form => h (hasForm_hexadecimal_iff.mp form)

/-- Fifteen digits always fit into 64 bits. -/
theorem hexInteger?_eq {values : List Nat} (read : digits.mapM hex? = some values)
    (few : digits.length ≤ 15) : hexInteger? digits = some (number 16 values) := by
  obtain ⟨length, source⟩ := values_of_mapM read
  have small : ∀ d ∈ values, d < 16 := by
    intro d mem
    obtain ⟨c, value⟩ := source d mem
    exact hex?_lt value
  have fits : number 16 values < 1 <<< 63 := by
    have bound : Nat.pow 16 values.length ≤ Nat.pow 16 15 :=
      Nat.pow_le_pow_right (by decide) (length ▸ few)
    exact Nat.lt_of_lt_of_le (number_lt small) (Nat.le_trans bound (by decide))
  rw [hexInteger?, hexNumber?, read, Option.map_some, Option.filter_some,
    if_pos (decide_eq_true fits)]

/-! ## Reading -/

theorem read?_hexadecimal {values : List Nat} (mem : sign ∈ signs)
    (marked : mark = 'x' ∨ mark = 'X') (run : Run (· ∈ hexadecimals) digits)
    (few : digits.length ≤ 15) (read : digits.mapM hex? = some values) :
    read? (sign ++ '0' :: mark :: digits) =
      some (Binary64.ofNat (sign == ['-']) (number 16 values)) := by
  rw [read?, hexGroups?_marked mem marked run few, ← Binary64.ofNat_signed]
  simp only [hexInteger?_eq read few, Option.map_some, beq_iff_eq]

/-- No decimal number has a mark for hexadecimal digits. -/
theorem IsDecimal.not_isHexadecimal (h : IsDecimal (· ∈ decimals) t) : ¬ IsHexadecimal t := by
  rintro ⟨_, marked, _, _⟩
  have mark := h.subset (List.mem_append_right _ (List.mem_cons_of_mem '0' List.mem_cons_self))
  obtain rfl | rfl := marked
  · exact absurd mark (by decide)
  · exact absurd mark (by decide)

theorem IsDecimal.read?_eq (h : IsDecimal (· ∈ decimals) t) :
    read? t = readFloat? (withoutType t) := by
  rw [read?, hexGroups?_none h.not_isHexadecimal]
  exact if_pos (decimal_filters_iff.mpr h).1

theorem read?_real (mem : sign ∈ signs) (written : IsSignificand (· ∈ decimals) w)
    (power : IsPower (· ∈ decimals) e) (ending : letter ∈ realLetters) :
    read? (sign ++ (w ++ e) ++ letter) = readUnsigned? (sign == ['-']) (w ++ e) := by
  rw [(IsDecimal.real mem written power ending).read?_eq,
    withoutType_real (written.imp fun c _ => isDigit_of_mem)
      (power.imp fun c _ => isDigit_of_mem) ending, readFloat?,
    splitSign_append mem (written.opens.append e).splitSign_eq]

theorem read?_whole (mem : sign ∈ signs) (run : Run (· ∈ decimals) w)
    (ending : letter ∈ wholeLetters) :
    read? (sign ++ w ++ letter) = readUnsigned? (sign == ['-']) w := by
  rw [(IsDecimal.whole mem run ending).read?_eq,
    withoutType_whole (run.imp fun c _ => isDigit_of_mem) ending, readFloat?,
    splitSign_append mem run.opens.splitSign_eq]

theorem read?_isSome_iff_isNumber : (read? t).isSome = true ↔ IsNumber t := by
  by_cases hex : IsHexadecimal t
  · refine ⟨fun _ => .hexadecimal hex, fun _ => ?_⟩
    obtain ⟨mem, marked, run, few⟩ := hex
    obtain ⟨values, read⟩ := exists_mapM fun c mem => isSome_hex?_iff.mpr (run.digits c mem)
    rw [read?_hexadecimal mem marked run few read]
    rfl
  · have number : IsNumber t ↔ IsDecimal (· ∈ decimals) t := by
      refine ⟨fun h => ?_, .decimal⟩
      cases h with
      | decimal decimal => exact decimal
      | hexadecimal h => exact absurd h hex
    rw [number, ← decimal_filters_iff, read?, hexGroups?_none hex]
    dsimp only
    split
    next form => exact (and_iff_right form).symm
    next other => exact ⟨fun none => (nomatch none), fun both => absurd both.1 other⟩

/-- A text that reads as a number holds no other characters. -/
theorem read?_isNumeral (h : read? t = some x) : IsNumeral t :=
  (read?_isSome_iff_isNumber.mp (Option.isSome_of_eq_some h)).isNumeral

/-- What a text reads as is a number. -/
theorem read?_place (h : read? t = some x) : ∃ i, x.place? = some i := by
  cases read?_isSome_iff_isNumber.mp (Option.isSome_of_eq_some h) with
  | decimal decimal =>
    cases decimal with
    | real mem written power ending =>
      rw [read?_real mem written power ending] at h
      exact (written.opens.append _).readUnsigned?_place h
    | whole mem run ending =>
      rw [read?_whole mem run ending] at h
      exact run.opens.readUnsigned?_place h
  | hexadecimal hex =>
    obtain ⟨mem, marked, run, few⟩ := hex
    obtain ⟨values, read⟩ := exists_mapM fun c mem => isSome_hex?_iff.mpr (run.digits c mem)
    rw [read?_hexadecimal mem marked run few read] at h
    cases h
    exact Binary64.ofNat_place _ _

/-- A text that reads as a number reads as the same number after cleaning. -/
theorem readCleaned?_of_read? (h : read? t = some x) : readCleaned? t = some x := by
  rw [(read?_isNumeral h).readCleaned?_eq, h]

theorem readCleaned?_place (h : readCleaned? t = some x) : ∃ i, x.place? = some i := read?_place h

/-! ## What is no number -/

theorem read?_long (mem : sign ∈ signs) (marked : mark = 'x' ∨ mark = 'X')
    (long : 15 < digits.length) : read? (sign ++ '0' :: mark :: digits) = none := by
  rw [← Option.not_isSome_iff_eq_none, read?_isSome_iff_isNumber]
  intro number
  cases number with
  | decimal decimal =>
    have inText := decimal.subset
      (List.mem_append_right sign (List.mem_cons_of_mem '0' (List.mem_cons_self (l := digits))))
    obtain rfl | rfl := marked
    · exact absurd inText (by decide)
    · exact absurd inText (by decide)
  | hexadecimal hex =>
    generalize same : sign ++ '0' :: mark :: digits = t at hex
    obtain ⟨mem', _, _, few⟩ := hex
    -- the sign is told from the zero, so both ways to take the text apart are the same
    have opens (rest : Text) : splitSign ('0' :: rest) = (false, '0' :: rest) :=
      splitSign_bare (by decide) (by decide) rest
    have split := congrArg (fun t => (splitSign t).2) same
    simp only [splitSign_append mem (opens _), splitSign_append mem' (opens _)] at split
    cases split
    exact absurd long (Nat.not_lt.mpr few)

/-- Every number holds a decimal digit. -/
theorem IsNumber.exists_digit (h : IsNumber t) : ∃ c ∈ t, c ∈ decimals := by
  have run {w : Text} (ne_nil : w ≠ []) (digits : ∀ c ∈ w, c ∈ decimals) :
      ∃ c ∈ w, c ∈ decimals := by
    obtain ⟨c, mem⟩ := List.exists_mem_of_ne_nil w ne_nil
    exact ⟨c, mem, digits c mem⟩
  cases h with
  | decimal decimal =>
    cases decimal with
    | @real sign w e letter _ written _ _ =>
      suffices inSignificand : ∃ c ∈ w, c ∈ decimals by
        obtain ⟨c, mem, digit⟩ := inSignificand
        exact ⟨c, by simp [mem], digit⟩
      cases written with
      | whole digits => exact run digits.ne_nil digits.digits
      | @pointed w f digits fraction filled =>
        cases filled with
        | inl before =>
          obtain ⟨c, mem, digit⟩ := run before digits
          exact ⟨c, List.mem_append_left _ mem, digit⟩
        | inr behind =>
          obtain ⟨c, mem, digit⟩ := run behind fraction
          exact ⟨c, List.mem_append_right w (List.mem_cons_of_mem '.' mem), digit⟩
    | whole _ digits _ =>
      obtain ⟨c, mem, digit⟩ := run digits.ne_nil digits.digits
      exact ⟨c, by simp [mem], digit⟩
  | hexadecimal hex =>
    obtain ⟨_, _, _, _⟩ := hex
    exact ⟨'0', by simp, by decide⟩

theorem read?_foreign (mem : c ∈ t) (foreign : 127 < c.toNat ∨ isBlank c = true) :
    read? t = none := by
  rw [Option.eq_none_iff_forall_ne_some]
  intro x read
  have numeral := read?_isNumeral read
  cases foreign with
  | inl high =>
    have range := isNumeralChar_iff.mp (numeral c mem)
    omega
  | inr blank =>
    rw [numeral.firm c mem] at blank
    cases blank

theorem read?_digitless (digitless : ∀ c ∈ t, c ∉ decimals) : read? t = none := by
  rw [← Option.not_isSome_iff_eq_none, read?_isSome_iff_isNumber]
  intro number
  obtain ⟨c, mem, digit⟩ := number.exists_digit
  exact digitless c mem digit

theorem read?_ne_nan (t : Text) : read? t ≠ some .nan := by
  intro read
  obtain ⟨i, place⟩ := read?_place read
  cases place

/-- A text reads as a number exactly if it is written as one, and what it reads as is a number,
whatever its power of ten. So characters outside ASCII, blanks, words without a digit, and more
than fifteen hexadecimal digits are all refused. -/
theorem read?_accepts_iff (t : Text) :
    ((read? t).isSome = true ↔ IsNumber t) ∧ read? t ≠ some .nan ∧
    ((∃ c ∈ t, 127 < c.toNat ∨ isBlank c = true) → read? t = none) ∧
    ((∀ c ∈ t, c ∉ decimals) → read? t = none) ∧
    ((∃ sign mark digits, t = sign ++ '0' :: mark :: digits ∧ sign ∈ signs ∧
      (mark = 'x' ∨ mark = 'X') ∧ 15 < digits.length) → read? t = none) := by
  refine ⟨read?_isSome_iff_isNumber, read?_ne_nan t, ?_, read?_digitless, ?_⟩
  · rintro ⟨c, mem, foreign⟩
    exact read?_foreign mem foreign
  · rintro ⟨sign, mark, digits, rfl, mem, marked, long⟩
    exact read?_long mem marked long

/-- A number with all of its parts and a power beyond the format; a digit outside ASCII, a word,
and sixteen hexadecimal digits. -/
theorem read?_accepts_iff_all_parts :
    (read? "-.5E+0999f".toList).isSome = true ∧ read? "-.5E+0999f".toList ≠ some .nan ∧
    read? "1\u0663".toList = none ∧ read? "-inf".toList = none ∧
    read? "+0x0123456789abcDEF".toList = none := by
  have significand : IsSignificand (· ∈ decimals) ([] ++ '.' :: ['5']) :=
    .pointed (subset_of_all rfl) (subset_of_all rfl) (.inr (by decide))
  have power : IsPower (· ∈ decimals) ('E' :: (['+'] ++ "0999".toList)) :=
    .power (.inr rfl) (by decide) ⟨by decide, subset_of_all (by decide)⟩
  have written : IsNumber
      (['-'] ++ ([] ++ '.' :: ['5'] ++ 'E' :: (['+'] ++ "0999".toList)) ++ ['f']) :=
    .decimal (.real (by decide) significand power (by decide))
  have accepts := read?_accepts_iff "-.5E+0999f".toList
  have foreign := (read?_accepts_iff "1\u0663".toList).2.2.1
  have word := (read?_accepts_iff "-inf".toList).2.2.2.1
  have long := (read?_accepts_iff "+0x0123456789abcDEF".toList).2.2.2.2
  refine ⟨accepts.1.mpr written, accepts.2.1, foreign ?_, word ?_, long ?_⟩
  · exact ⟨'\u0663', by decide, .inl (by decide)⟩
  · have digitless : "-inf".toList.all (!decimals.contains ·) = true := by decide
    simpa using digitless
  · exact ⟨['+'], 'x', "0123456789abcDEF".toList, rfl, by decide, .inl rfl, by decide⟩

end Numeral

end Criteria
