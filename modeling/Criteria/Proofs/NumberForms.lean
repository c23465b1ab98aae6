import Criteria.Proofs.Binary64
import Criteria.Proofs.Numeral

/-!
# How numbers are written

The written forms of numbers, over the digits of any script, and the reader of the numbers of
the format, which takes ASCII digits only.

* `IsSignificand`, `IsPower`, `IsDecimal`, `IsHexadecimal`: what the forms are made of;
  `IsNumber`: the numbers of ASCII digits.
* `IsDecimal.imp`: what is written with some digits is written with any others that they are
  among.
* `IsFloat`: what the reader is documented to take, which may be a word.
* `isSignificand_of_read`, `isPower_split`: what each part of the reader takes is written so,
  and `IsSignificand.read`, `IsPower.read`: it takes all that is written so.
* `readFloat?_isSome_iff`: so it reads exactly what it is documented to take.
-/

namespace Criteria

namespace Numeral

open Text Digit

/-! ## Forms -/

/-- The digits of decimal numbers. -/
def decimals : Text := "0123456789".toList

/-- The digits of hexadecimal numbers, of either letter case. -/
def hexadecimals : Text := "0123456789abcdefABCDEF".toList

/-- What may stand before digits, of a number or of a power of ten. -/
def signs : List Text := [[], ['+'], ['-']]

/-- The letters that may follow any number, or none. -/
def realLetters : List Text := [[], ['d'], ['D'], ['f'], ['F']]

/-- The letters that may follow a whole number only. -/
def wholeLetters : List Text := [['l'], ['L']]

/-- All that decimal numbers are written with. -/
def decimalChars : Text := decimals ++ ".+-eEdDfFlL".toList

/-- One or more digits. -/
structure Run (IsDigit : Char → Prop) (t : Text) : Prop where
  ne_nil : t ≠ []
  digits : ∀ c ∈ t, IsDigit c

/-- Digits, with a point among or beside them or without one. -/
inductive IsSignificand (IsDigit : Char → Prop) : Text → Prop
  | whole {w : Text} : Run IsDigit w → IsSignificand IsDigit w
  | pointed {w f : Text} : (∀ c ∈ w, IsDigit c) → (∀ c ∈ f, IsDigit c) → w ≠ [] ∨ f ≠ [] →
      IsSignificand IsDigit (w ++ '.' :: f)

/-- A power of ten, which may be left out. -/
inductive IsPower (IsDigit : Char → Prop) : Text → Prop
  | absent : IsPower IsDigit []
  | power {letter : Char} {sign digits : Text} : letter = 'e' ∨ letter = 'E' → sign ∈ signs →
      Run IsDigit digits → IsPower IsDigit (letter :: (sign ++ digits))

/-- A decimal number: any one with the letter for it, or a whole one with its letter. -/
inductive IsDecimal (IsDigit : Char → Prop) : Text → Prop
  | real {sign w e letter : Text} : sign ∈ signs → IsSignificand IsDigit w → IsPower IsDigit e →
      letter ∈ realLetters → IsDecimal IsDigit (sign ++ (w ++ e) ++ letter)
  | whole {sign w letter : Text} : sign ∈ signs → Run IsDigit w → letter ∈ wholeLetters →
      IsDecimal IsDigit (sign ++ w ++ letter)

/-- A hexadecimal number, of at most fifteen digits. -/
inductive IsHexadecimal : Text → Prop
  | marked {sign digits : Text} {mark : Char} : sign ∈ signs → mark = 'x' ∨ mark = 'X' →
      Run (· ∈ hexadecimals) digits → digits.length ≤ 15 →
      IsHexadecimal (sign ++ '0' :: mark :: digits)

/-- A number as it may be written. -/
inductive IsNumber (t : Text) : Prop
  | decimal : IsDecimal (· ∈ decimals) t → IsNumber t
  | hexadecimal : IsHexadecimal t → IsNumber t

/-- The words that the reader of the format takes, in letters of either case. -/
def words : List Text := ["inf".toList, "infinity".toList, "nan".toList]

/-- What the reader of the format is documented to take. -/
inductive IsFloat : Text → Prop
  | numeral {sign w e : Text} : sign ∈ signs → IsSignificand (· ∈ decimals) w →
      IsPower (· ∈ decimals) e → IsFloat (sign ++ (w ++ e))
  | word {sign w : Text} : sign ∈ signs → lower w ∈ words → IsFloat (sign ++ w)

variable {IsDigit IsOther : Char → Prop} {t w e sign rest : Text}

/-! ## Other digits -/

theorem Run.imp (h : Run IsDigit w) (among : ∀ c ∈ w, IsDigit c → IsOther c) : Run IsOther w :=
  ⟨h.ne_nil, fun c mem => among c mem (h.digits c mem)⟩

theorem IsSignificand.imp (h : IsSignificand IsDigit w) (among : ∀ c ∈ w, IsDigit c → IsOther c) :
    IsSignificand IsOther w := by
  cases h with
  | whole run => exact .whole (run.imp among)
  | pointed digits fraction filled =>
    refine .pointed (fun c mem => ?_) (fun c mem => ?_) filled
    · exact among c (List.mem_append_left _ mem) (digits c mem)
    · exact among c (List.mem_append_right _ (List.mem_cons_of_mem _ mem)) (fraction c mem)

theorem IsPower.imp (h : IsPower IsDigit e) (among : ∀ c ∈ e, IsDigit c → IsOther c) :
    IsPower IsOther e := by
  cases h with
  | absent => exact .absent
  | power letter mem run =>
    refine .power letter mem (run.imp fun c inDigits => among c ?_)
    exact List.mem_cons_of_mem _ (List.mem_append_right _ inDigits)

/-- What is written with some digits is written with all others that they are among. -/
theorem IsDecimal.imp (h : IsDecimal IsDigit t) (among : ∀ c, IsDigit c → IsOther c) :
    IsDecimal IsOther t := by
  cases h with
  | real mem significand power ending =>
    exact .real mem (significand.imp fun c _ => among c) (power.imp fun c _ => among c) ending
  | whole mem run ending => exact .whole mem (run.imp fun c _ => among c) ending

/-! ## Characters -/

/-- What holds of the characters that numbers are written with can be looked up. -/
theorem mem_of_table {p : Char → Bool} {s : Text}
    (table : ∀ n < 123, p (Char.ofNat n) = true → Char.ofNat n ∈ s) {c : Char}
    (small : isNumeralChar c = true) (h : p c = true) : c ∈ s := by
  have range := isNumeralChar_iff.mp small
  have found := table c.toNat (Nat.lt_succ_of_le range.2)
  rw [Char.ofNat_toNat] at found
  exact found h

theorem isSome_decimal?_iff {c : Char} : (decimal? c).isSome = true ↔ c ∈ decimals := by
  constructor
  · intro h
    exact mem_of_table (p := fun c => (decimal? c).isSome) (by decide)
      (isNumeralChar_of_decimal h) h
  · have table : (decimals.all fun c => (decimal? c).isSome) = true := by decide
    exact List.all_eq_true.mp table c

theorem isSome_hex?_iff {c : Char} : (hex? c).isSome = true ↔ c ∈ hexadecimals := by
  constructor
  · intro h
    exact mem_of_table (p := fun c => (hex? c).isSome) (by decide) (isNumeralChar_of_hex h) h
  · have table : (hexadecimals.all fun c => (hex? c).isSome) = true := by decide
    exact List.all_eq_true.mp table c

/-- Texts over given characters can be looked up. -/
theorem subset_of_all {s : Text} (all : t.all s.contains = true) : ∀ c ∈ t, c ∈ s := fun c mem =>
  List.contains_iff_mem.mp (List.all_eq_true.mp all c mem)

theorem Run.subset (h : Run (· ∈ decimals) w) : w ⊆ decimalChars := fun _ mem =>
  List.mem_append_left _ (h.digits _ mem)

theorem sign_subset (mem : sign ∈ signs) : sign ⊆ decimalChars := by
  have table : (signs.all fun sign => sign.all decimalChars.contains) = true := by decide
  exact subset_of_all (List.all_eq_true.mp table sign mem)

theorem IsSignificand.subset (h : IsSignificand (· ∈ decimals) w) : w ⊆ decimalChars := by
  cases h with
  | whole run => exact run.subset
  | pointed digits fraction _ =>
    refine List.append_subset.mpr ⟨fun c mem => ?_, List.cons_subset.mpr ⟨by decide, ?_⟩⟩
    · exact List.mem_append_left _ (digits c mem)
    · exact fun c mem => List.mem_append_left _ (fraction c mem)

theorem IsPower.subset (h : IsPower (· ∈ decimals) e) : e ⊆ decimalChars := by
  cases h with
  | absent => exact List.nil_subset _
  | power letter mem run =>
    refine List.cons_subset.mpr ⟨?_, List.append_subset.mpr ⟨sign_subset mem, run.subset⟩⟩
    obtain rfl | rfl := letter <;> decide

theorem IsDecimal.subset (h : IsDecimal (· ∈ decimals) t) : t ⊆ decimalChars := by
  have letters : ((realLetters ++ wholeLetters).all fun letter =>
      letter.all decimalChars.contains) = true := by decide
  cases h with
  | real mem significand power ending =>
    refine List.append_subset.mpr ⟨List.append_subset.mpr ⟨sign_subset mem, ?_⟩, ?_⟩
    · exact List.append_subset.mpr ⟨significand.subset, power.subset⟩
    · exact subset_of_all (List.all_eq_true.mp letters _ (List.mem_append_left _ ending))
  | whole mem run ending =>
    refine List.append_subset.mpr ⟨List.append_subset.mpr ⟨sign_subset mem, run.subset⟩, ?_⟩
    exact subset_of_all (List.all_eq_true.mp letters _ (List.mem_append_right _ ending))

theorem isNumeral_of_subset (h : t ⊆ decimalChars) : IsNumeral t := by
  have table : decimalChars.all isNumeralChar = true := by decide
  exact fun c mem => List.all_eq_true.mp table c (h mem)

/-- A number holds the characters of numbers only. -/
theorem IsNumber.isNumeral (h : IsNumber t) : IsNumeral t := by
  cases h with
  | decimal decimal => exact isNumeral_of_subset decimal.subset
  | hexadecimal hex =>
    obtain ⟨mem, mark, run, _⟩ := hex
    refine (isNumeral_of_subset (sign_subset mem)).append (.cons (by decide) (.cons ?_ ?_))
    · obtain rfl | rfl := mark <;> decide
    · exact fun c digit => isNumeralChar_of_hex (isSome_hex?_iff.mpr (run.digits c digit))

/-- The reader of the format takes no characters outside ASCII, not even in a word. -/
theorem IsFloat.isNumeral (h : IsFloat t) : IsNumeral t := by
  cases h with
  | numeral mem significand power =>
    refine isNumeral_of_subset (List.append_subset.mpr ⟨sign_subset mem, ?_⟩)
    exact List.append_subset.mpr ⟨significand.subset, power.subset⟩
  | word mem word =>
    have letters : (words.all fun word => word.all isNumeralChar) = true := by decide
    refine (isNumeral_of_subset (sign_subset mem)).append fun c inWord => ?_
    refine isNumeralChar_of_toLower ?_
    exact List.all_eq_true.mp (List.all_eq_true.mp letters _ word) _ (List.mem_map_of_mem inWord)

/-! ## Digits -/

/-- Where all of a text is read digit by digit, every character is a digit. -/
theorem isSome_of_mapM {read : Char → Option Nat} {digits : List Nat}
    (h : t.mapM read = some digits) : ∀ c ∈ t, (read c).isSome = true := by
  induction t generalizing digits with
  | nil => exact fun _ mem => nomatch mem
  | cons c t ih =>
    rw [List.mapM_cons] at h
    obtain ⟨d, first, h⟩ := Option.bind_eq_some_iff.mp h
    obtain ⟨ds, later, _⟩ := Option.bind_eq_some_iff.mp h
    exact List.forall_mem_cons.mpr ⟨Option.isSome_of_eq_some first, ih later⟩

/-- Each value is read from a digit. -/
theorem values_of_mapM {read : Char → Option Nat} {digits : List Nat}
    (h : t.mapM read = some digits) :
    digits.length = t.length ∧ ∀ d ∈ digits, ∃ c, read c = some d := by
  induction t generalizing digits with
  | nil =>
    cases h
    exact ⟨rfl, fun _ mem => nomatch mem⟩
  | cons c t ih =>
    rw [List.mapM_cons] at h
    obtain ⟨d, first, h⟩ := Option.bind_eq_some_iff.mp h
    obtain ⟨ds, later, same⟩ := Option.bind_eq_some_iff.mp h
    cases same
    obtain ⟨length, values⟩ := ih later
    exact ⟨congrArg Nat.succ length, List.forall_mem_cons.mpr ⟨⟨c, first⟩, values⟩⟩

theorem exists_mapM {read : Char → Option Nat} (h : ∀ c ∈ t, (read c).isSome = true) :
    ∃ digits, t.mapM read = some digits := by
  induction t with
  | nil => exact ⟨[], rfl⟩
  | cons c t ih =>
    obtain ⟨first, later⟩ := List.forall_mem_cons.mp h
    obtain ⟨d, read_eq⟩ := Option.isSome_iff_exists.mp first
    obtain ⟨digits, rest_eq⟩ := ih later
    refine ⟨d :: digits, ?_⟩
    rw [List.mapM_cons, read_eq, rest_eq]
    rfl

theorem leadingDigits_append {digits : List Nat} (read : t.mapM decimal? = some digits)
    (ending : Text) : leadingDigits (t ++ ending) = digits ++ leadingDigits ending := by
  induction t generalizing digits with
  | nil =>
    cases read
    rfl
  | cons c t ih =>
    rw [List.mapM_cons] at read
    obtain ⟨d, first, read⟩ := Option.bind_eq_some_iff.mp read
    obtain ⟨ds, later, same⟩ := Option.bind_eq_some_iff.mp read
    cases same
    rw [List.cons_append, leadingDigits, first]
    exact congrArg (d :: ·) (ih later)

theorem leadingDigits_eq_nil (stop : afterDigits t = t) : leadingDigits t = [] := by
  cases t with
  | nil => rfl
  | cons c t =>
    cases digit : decimal? c with
    | none => rw [leadingDigits, digit]
    | some d =>
      rw [afterDigits, List.dropWhile_cons_of_pos (by rw [digit]; rfl)] at stop
      have shorter : (t.dropWhile fun c => (decimal? c).isSome).length ≤ t.length :=
        (List.dropWhile_sublist _).length_le
      rw [stop, List.length_cons] at shorter
      omega

/-- Digits are read up to what does not open with a digit. -/
theorem digits_append {digits : List Nat} (read : t.mapM decimal? = some digits)
    (stop : afterDigits rest = rest) :
    leadingDigits (t ++ rest) = digits ∧ afterDigits (t ++ rest) = rest := by
  constructor
  · rw [leadingDigits_append read, leadingDigits_eq_nil stop, List.append_nil]
  · exact (List.dropWhile_append_of_pos (isSome_of_mapM read)).trans stop

theorem leadingDigits_length (digits : ∀ c ∈ w, c ∈ decimals) (stop : afterDigits rest = rest) :
    (leadingDigits (w ++ rest)).length = w.length ∧ afterDigits (w ++ rest) = rest := by
  obtain ⟨values, read⟩ := exists_mapM fun c mem => isSome_decimal?_iff.mpr (digits c mem)
  obtain ⟨leading, after⟩ := digits_append read stop
  exact ⟨by rw [leading, (values_of_mapM read).1], after⟩

theorem Run.leadingDigits_isEmpty (run : Run (· ∈ decimals) w) (stop : afterDigits rest = rest) :
    (leadingDigits (w ++ rest)).isEmpty = false := by
  have length := (leadingDigits_length run.digits stop).1
  rw [List.isEmpty_eq_false_iff, ← List.length_pos_iff, length]
  exact List.length_pos_iff.mpr run.ne_nil

/-- A text is its leading digits and what follows them. -/
theorem digits_split (t : Text) : ∃ w, t = w ++ afterDigits t ∧ (∀ c ∈ w, c ∈ decimals) ∧
    ((leadingDigits t).isEmpty = false → w ≠ []) := by
  refine ⟨t.takeWhile fun c => (decimal? c).isSome, List.takeWhile_append_dropWhile.symm, ?_, ?_⟩
  · intro c mem
    exact isSome_decimal?_iff.mp (List.all_eq_true.mp List.all_takeWhile c mem)
  · intro filled none
    have stop : afterDigits t = t := by
      have whole := List.takeWhile_append_dropWhile (p := fun c => (decimal? c).isSome) (l := t)
      rwa [none] at whole
    rw [leadingDigits_eq_nil stop] at filled
    cases filled

/-! ## Signs -/

theorem splitSign_split (t : Text) : ∃ sign ∈ signs, t = sign ++ (splitSign t).2 := by
  unfold splitSign
  split
  · exact ⟨['-'], by decide, rfl⟩
  · exact ⟨['+'], by decide, rfl⟩
  · exact ⟨[], by decide, rfl⟩

/-- What opens with another character has no sign before it. -/
theorem splitSign_bare {c : Char} (minus : c ≠ '-') (plus : c ≠ '+') (rest : Text) :
    splitSign (c :: rest) = (false, c :: rest) := by
  unfold splitSign
  split
  next same => exact absurd (List.cons.inj same).1 minus
  next same => exact absurd (List.cons.inj same).1 plus
  next => rfl

/-- A sign is taken off what has none itself. -/
theorem splitSign_append {body : Text} (mem : sign ∈ signs)
    (bare : splitSign body = (false, body)) :
    splitSign (sign ++ body) = (sign == ['-'], body) := by
  simp only [signs, List.mem_cons, List.not_mem_nil, or_false] at mem
  obtain rfl | rfl | rfl := mem
  · exact bare
  · rfl
  · rfl

/-- The text opens with a digit or a point, as numbers do behind their sign. -/
def Opens (t : Text) : Prop := ∃ c rest, t = c :: rest ∧ c ∈ '.' :: decimals

theorem Opens.splitSign_eq (h : Opens t) : splitSign t = (false, t) := by
  obtain ⟨c, rest, rfl, opens⟩ := h
  have bare : '-' ∉ '.' :: decimals ∧ '+' ∉ '.' :: decimals := by decide
  exact splitSign_bare (fun same => bare.1 (same ▸ opens)) (fun same => bare.2 (same ▸ opens)) rest

theorem Opens.append (h : Opens t) (rest : Text) : Opens (t ++ rest) := by
  obtain ⟨c, u, rfl, opens⟩ := h
  exact ⟨c, u ++ rest, rfl, opens⟩

theorem Run.opens (h : Run (· ∈ decimals) w) : Opens w := by
  obtain ⟨c, u, rfl⟩ := List.exists_cons_of_ne_nil h.ne_nil
  exact ⟨c, u, rfl, List.mem_cons_of_mem '.' (h.digits c List.mem_cons_self)⟩

theorem IsSignificand.opens (h : IsSignificand (· ∈ decimals) w) : Opens w := by
  cases h with
  | whole run => exact run.opens
  | @pointed w f digits _ _ =>
    cases w with
    | nil => exact ⟨'.', f, rfl, List.mem_cons_self⟩
    | cons c w => exact ⟨c, _, rfl, List.mem_cons_of_mem '.' (digits c List.mem_cons_self)⟩

/-! ## Significands -/

theorem readSignificand?_pointless (point : (afterDigits t).head? ≠ some '.') :
    readSignificand? t =
      if (leadingDigits t).isEmpty then none else some (⟨leadingDigits t, []⟩, afterDigits t) := by
  unfold readSignificand?
  dsimp only
  split
  next rest after =>
    rw [after] at point
    exact absurd rfl point
  next => rfl

theorem readSignificand?_pointed (point : afterDigits t = '.' :: rest) :
    readSignificand? t =
      if (leadingDigits t).isEmpty && (leadingDigits rest).isEmpty then none
      else some (⟨leadingDigits t, leadingDigits rest⟩, afterDigits rest) := by
  unfold readSignificand?
  rw [point]
  rfl

theorem IsSignificand.read (h : IsSignificand (· ∈ decimals) w) (stop : afterDigits rest = rest)
    (point : rest.head? ≠ some '.') : ∃ s, readSignificand? (w ++ rest) = some (s, rest) := by
  cases h with
  | whole run =>
    obtain ⟨_, after⟩ := leadingDigits_length run.digits stop
    rw [readSignificand?_pointless (after.symm ▸ point), run.leadingDigits_isEmpty stop, after]
    exact ⟨_, rfl⟩
  | @pointed w f digits fraction filled =>
    -- the point stops the digits before it
    have pointStops : afterDigits ('.' :: (f ++ rest)) = '.' :: (f ++ rest) := rfl
    obtain ⟨before, after⟩ := leadingDigits_length digits pointStops
    obtain ⟨behind, left⟩ := leadingDigits_length fraction stop
    have present : ((leadingDigits (w ++ '.' :: (f ++ rest))).isEmpty &&
        (leadingDigits (f ++ rest)).isEmpty) = false := by
      rw [Bool.and_eq_false_iff, List.isEmpty_eq_false_iff, List.isEmpty_eq_false_iff,
        ← List.length_pos_iff, ← List.length_pos_iff, before, behind, List.length_pos_iff,
        List.length_pos_iff]
      exact filled
    rw [List.append_assoc, List.cons_append, readSignificand?_pointed after, present, left]
    exact ⟨_, rfl⟩

theorem isSignificand_of_read {s : Significand} (h : readSignificand? t = some (s, rest)) :
    ∃ w, IsSignificand (· ∈ decimals) w ∧ t = w ++ rest := by
  obtain ⟨w, split, digits, ne_nil⟩ := digits_split t
  by_cases point : (afterDigits t).head? = some '.'
  · obtain ⟨behind, after⟩ := List.head?_eq_some_iff.mp point
    obtain ⟨f, splitBehind, fraction, behind_ne_nil⟩ := digits_split behind
    rw [readSignificand?_pointed after] at h
    split at h
    next => cases h
    next filled =>
      cases h
      rw [Bool.not_eq_true, Bool.and_eq_false_iff] at filled
      refine ⟨w ++ '.' :: f, .pointed digits fraction (filled.imp ne_nil behind_ne_nil), ?_⟩
      rw [List.append_assoc, List.cons_append, ← splitBehind, ← after]
      exact split
  · rw [readSignificand?_pointless point] at h
    split at h
    next => cases h
    next filled =>
      cases h
      exact ⟨w, .whole ⟨ne_nil (Bool.eq_false_iff.mpr filled), digits⟩, split⟩

/-! ## Powers of ten -/

theorem readExponent_letter {c : Char} (letter : c = 'e' ∨ c = 'E') (rest : Text) :
    (readExponent (c :: rest)).2 =
      if (leadingDigits (splitSign rest).2).isEmpty then c :: rest
      else afterDigits (splitSign rest).2 := by
  unfold readExponent
  dsimp only
  rw [if_pos letter]
  split <;> rfl

theorem readExponent_other {c : Char} (other : ¬ (c = 'e' ∨ c = 'E')) (rest : Text) :
    (readExponent (c :: rest)).2 = c :: rest := by
  unfold readExponent
  dsimp only
  rw [if_neg other]

theorem IsPower.read (h : IsPower (· ∈ decimals) e) : (readExponent e).2 = [] := by
  cases h with
  | absent => rfl
  | @power letter sign digits mark mem run =>
    have last : afterDigits [] = [] := rfl
    have filled := run.leadingDigits_isEmpty last
    obtain ⟨_, after⟩ := leadingDigits_length run.digits last
    rw [List.append_nil] at filled after
    rw [readExponent_letter mark, splitSign_append mem run.opens.splitSign_eq, filled, after]
    rfl

theorem isPower_split (t : Text) :
    ∃ e, IsPower (· ∈ decimals) e ∧ t = e ++ (readExponent t).2 := by
  cases t with
  | nil => exact ⟨[], .absent, rfl⟩
  | cons c rest =>
    by_cases letter : c = 'e' ∨ c = 'E'
    · rw [readExponent_letter letter]
      split
      next => exact ⟨[], .absent, rfl⟩
      next filled =>
        obtain ⟨sign, mem, split⟩ := splitSign_split rest
        obtain ⟨w, splitDigits, digits, ne_nil⟩ := digits_split (splitSign rest).2
        have run : Run (· ∈ decimals) w := ⟨ne_nil (Bool.eq_false_iff.mpr filled), digits⟩
        refine ⟨c :: (sign ++ w), .power letter mem run, ?_⟩
        rw [List.cons_append, List.append_assoc, ← splitDigits, ← split]
    · exact ⟨[], .absent, (readExponent_other letter rest).symm⟩

/-- A power of ten stops the digits before it. -/
theorem IsPower.stops (h : IsPower (· ∈ decimals) e) :
    afterDigits e = e ∧ e.head? ≠ some '.' := by
  cases h with
  | absent => exact ⟨rfl, fun point => nomatch point⟩
  | power letter _ _ => obtain rfl | rfl := letter <;> exact ⟨rfl, fun point => nomatch point⟩

/-! ## Numbers of the format -/

theorem ofWord?_isSome_iff (negative : Bool) : (ofWord? negative w).isSome = true ↔ w ∈ words := by
  simp only [words, List.mem_cons, List.not_mem_nil, or_false, ← or_assoc]
  unfold ofWord?
  split
  next infinite => exact ⟨fun _ => .inl infinite, fun _ => rfl⟩
  next finite =>
    rw [or_iff_right finite]
    split
    next nan => exact ⟨fun _ => nan, fun _ => rfl⟩
    next number => exact ⟨fun none => (nomatch none), fun nan => absurd nan number⟩

/-- Words are no digits, so what opens with a digit or a point is read as a significand. -/
theorem Opens.readUnsigned?_eq (h : Opens t) (negative : Bool) :
    readUnsigned? negative t = (readSignificand? t).bind fun read =>
      if (readExponent read.2).2.isEmpty then
        some (read.1.value negative (readExponent read.2).1)
      else none := by
  obtain ⟨c, rest, rfl, opens⟩ := h
  have letters : (('.' :: decimals).all fun c =>
      words.all fun word => word.head? != some c.toLower) = true := by decide
  have word : lower (c :: rest) ∉ words := fun mem =>
    bne_iff_ne.mp (List.all_eq_true.mp (List.all_eq_true.mp letters c opens) _ mem) rfl
  rw [← ofWord?_isSome_iff negative, Option.not_isSome_iff_eq_none] at word
  rw [readUnsigned?, word]
  rfl

theorem readUnsigned?_isSome_iff {negative : Bool} : (readUnsigned? negative t).isSome = true ↔
    lower t ∈ words ∨ ∃ w e, IsSignificand (· ∈ decimals) w ∧ IsPower (· ∈ decimals) e ∧
      t = w ++ e := by
  rw [readUnsigned?, Option.isSome_or, Bool.or_eq_true, ofWord?_isSome_iff]
  refine or_congr_right ⟨fun h => ?_, ?_⟩
  · obtain ⟨x, read⟩ := Option.isSome_iff_exists.mp h
    obtain ⟨⟨s, rest⟩, significand, read⟩ := Option.bind_eq_some_iff.mp read
    dsimp only at read
    split at read
    next ending =>
      obtain ⟨w, written, rfl⟩ := isSignificand_of_read significand
      obtain ⟨e, power, split⟩ := isPower_split rest
      rw [List.isEmpty_iff.mp ending, List.append_nil] at split
      exact ⟨w, e, written, power, congrArg (w ++ ·) split⟩
    next => cases read
  · rintro ⟨w, e, written, power, rfl⟩
    obtain ⟨stop, point⟩ := power.stops
    obtain ⟨s, significand⟩ := written.read stop point
    simp only [significand, Option.bind_eq_bind, Option.bind_some, power.read, List.isEmpty_nil,
      if_true, Option.isSome_some]

theorem splitSign_word (word : lower t ∈ words) : splitSign t = (false, t) := by
  have opens : ∀ word ∈ words, word ≠ [] ∧ word.head? ≠ some '-' ∧ word.head? ≠ some '+' := by
    decide
  obtain ⟨filled, minus, plus⟩ := opens _ word
  cases t with
  | nil => exact absurd rfl filled
  | cons c t =>
    refine splitSign_bare ?_ ?_ t
    · rintro rfl
      exact minus rfl
    · rintro rfl
      exact plus rfl

/-- The reader of the format takes exactly what it is documented to take. -/
theorem readFloat?_isSome_iff : (readFloat? t).isSome = true ↔ IsFloat t := by
  show (readUnsigned? (splitSign t).1 (splitSign t).2).isSome = true ↔ _
  constructor
  · intro h
    obtain ⟨sign, mem, split⟩ := splitSign_split t
    rw [split]
    rcases readUnsigned?_isSome_iff.mp h with word | ⟨w, e, significand, power, same⟩
    · exact .word mem word
    · rw [same]
      exact .numeral mem significand power
  · rintro (⟨mem, significand, power⟩ | ⟨mem, word⟩)
    · rw [splitSign_append mem (significand.opens.append _).splitSign_eq]
      exact readUnsigned?_isSome_iff.mpr (.inr ⟨_, _, significand, power, rfl⟩)
    · rw [splitSign_append mem (splitSign_word word)]
      exact readUnsigned?_isSome_iff.mpr (.inl word)

theorem Significand.value_place (s : Significand) (negative : Bool) (exponent : Int) :
    ∃ i, (s.value negative exponent).place? = some i :=
  Binary64.ofDecimal_place _ _ _ _

/-- What is read of digits is a number, whatever its power of ten. -/
theorem Opens.readUnsigned?_place (h : Opens t) {negative : Bool} {x : Binary64}
    (read : readUnsigned? negative t = some x) : ∃ i, x.place? = some i := by
  rw [h.readUnsigned?_eq] at read
  obtain ⟨⟨s, rest⟩, _, read⟩ := Option.bind_eq_some_iff.mp read
  dsimp only at read
  split at read
  · cases read
    exact s.value_place _ _
  · cases read

end Numeral

end Criteria
