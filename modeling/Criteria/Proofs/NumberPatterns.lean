import Criteria.Proofs.NumberForms
import Criteria.Proofs.Pattern.Written

/-!
# The forms of numbers as patterns

A text has a written form of numbers if the pattern for it is found in the text. Here the two
patterns are taken apart, and each of their parts is shown to match what it is written for.
The digits of the decimal form are those of every script.

* `IsDigit`, `isDigit_iff_of_ascii`: the digits of every script, of which those in ASCII are the
  ten that the reader of the format takes.
* `Form.writes_significand`, `Form.writes_power` and their like: what the text of a part is read
  as; `Form.matches_significand_iff` and their like: what it matches.
* `hasForm_decimal_iff`, `hasForm_hexadecimal_iff`: the forms themselves.
-/

namespace Criteria

namespace Numeral

open Pattern Reader Reader.State

/-! ## Sets of characters -/

/-- A digit of some script. -/
def IsDigit (c : Char) : Prop := Property.digits.contains c = true

variable {c : Char} {s : CharSet} {t : Text}

/-- A set of such characters can be looked up. -/
theorem contains_iff_mem (letters : Text)
    (within : (s.ranges.all fun r => 43 ≤ r.first && r.last ≤ 122) = true)
    (table : ∀ n < 123, s.contains (Char.ofNat n) = true → Char.ofNat n ∈ letters)
    (listed : letters.all s.contains = true) : s.contains c = true ↔ c ∈ letters := by
  refine ⟨fun found => mem_of_table table (isNumeralChar_iff.mpr ?_) found,
    List.all_eq_true.mp listed c⟩
  obtain ⟨r, mem, holds⟩ := List.any_eq_true.mp found
  have bounds := List.all_eq_true.mp within r mem
  simp only [CodeRange.contains, Bool.and_eq_true, decide_eq_true_eq] at bounds holds
  omega

/-- Of the digits of every script those in ASCII are the ten that are read. -/
theorem isDigit_iff_of_ascii (ascii : c.toNat < 128) : IsDigit c ↔ c ∈ decimals := by
  obtain ⟨first, later⟩ := Property.digits_ranges
  obtain ⟨ranges, split⟩ := List.head?_eq_some_iff.mp first
  have foreign : ∀ r ∈ ranges, r.contains c.toNat = false := by
    intro r mem
    have beyond := List.all_eq_true.mp later r (by rw [split]; exact mem)
    simp only [CodeRange.contains, Bool.and_eq_false_iff, decide_eq_false_iff_not]
    simp only [decide_eq_true_eq] at beyond
    omega
  have none : ranges.any (·.contains c.toNat) = false :=
    List.any_eq_false.mpr fun r mem => by rw [foreign r mem]; decide
  have same : Property.digits.contains c = (CharSet.ofCodes 48 57).contains c := by
    rw [CharSet.contains, CharSet.containsCode, split, List.any_cons, none]
    rfl
  rw [IsDigit, same]
  exact contains_iff_mem _ (by decide) (by decide) (by decide)

theorem isDigit_of_mem (mem : c ∈ decimals) : IsDigit c := by
  have ascii : (decimals.all (·.toNat < 128)) = true := by decide
  exact (isDigit_iff_of_ascii (of_decide_eq_true (List.all_eq_true.mp ascii c mem))).mpr mem

/-! ## Parts of the forms -/

namespace Form

/-- A sign, or none. -/
def sign : Pattern := repeated (one (.ofText ['+', '-'])) 0 (some 1)

/-- As many digits as are asked for, or more. -/
def digits (least : Nat) : Pattern := repeated (one Property.digits) least none

def point : Pattern := one (.single '.')

def significand : Pattern :=
  inChoice [inRow [digits 1, repeated point 0 (some 1), digits 0], inRow [point, digits 1]]

def power : Pattern :=
  repeated (inRow [one (.ofText ['E', 'e']), sign, digits 1]) 0 (some 1)

/-- The letter for any number, or none. -/
def realLetter : Pattern := repeated (one (.ofText ['D', 'F', 'd', 'f'])) 0 (some 1)

/-- The letter for whole numbers. -/
def wholeLetter : Pattern := one (.ofText ['L', 'l'])

/-- What follows the sign of a decimal number. -/
def magnitude : Pattern :=
  inChoice [inRow [significand, power, realLetter], inRow [digits 1, wholeLetter]]

/-- The mark of hexadecimal digits. -/
def mark : Pattern := one (.ofText ['X', 'x'])

/-- One to fifteen hexadecimal digits. -/
def hexDigits : Pattern := repeated (one ⟨[⟨48, 57⟩, ⟨65, 70⟩, ⟨97, 102⟩]⟩) 1 (some 14)

/-! ### What they are read from -/

theorem writes_sign : Writes .initial ['[', '+', '-', ']', '?'] sign :=
  (writes_listed (u := ['+', '-', ']']) rfl fun _ => rfl).optional rfl

theorem writes_digit : WritesAtom .initial ['\\', 'd'] (one Property.digits) :=
  writes_shorthand rfl (by decide) (congrArg some (if_pos rfl))

theorem writes_point : WritesAtom .initial ['\\', '.'] point := writes_escaped rfl fun _ => rfl

theorem writes_decimal : WritesRow .initial decimalForm
    [anchor .textStart, sign, magnitude, anchor .textEnd] := by
  have run := writes_digit.some rfl
  have pointed := WritesRow.cons run
    (.cons (writes_point.optional rfl) (writes_digit.many rfl).row (by decide)) (by decide)
  have pointFirst := WritesRow.cons writes_point.writes run.row (by decide)
  have significand := (WritesChoice.bar rfl pointed pointFirst.choice).inGroup rfl
  have exponent : WritesAtom .initial ['[', 'e', 'E', ']'] (one (.ofText ['E', 'e'])) :=
    writes_listed rfl fun _ => rfl
  have power := ((WritesRow.cons exponent.writes
    (.cons writes_sign run.row (by decide)) (by decide)).choice.inGroup rfl).optional rfl
  have realLetter : Writes .initial ['[', 'd', 'D', 'f', 'F', ']', '?'] realLetter :=
    (writes_listed (u := ['d', 'D', 'f', 'F', ']']) rfl fun _ => rfl).optional rfl
  have wholeLetter : WritesAtom .initial ['[', 'l', 'L', ']'] wholeLetter :=
    writes_listed rfl fun _ => rfl
  have real := WritesRow.cons significand.writes (.cons power realLetter.row (by decide))
    (by decide)
  have whole := WritesRow.cons run wholeLetter.writes.row (by decide)
  have magnitude := (WritesChoice.bar rfl real whole.choice).inGroup rfl
  have form := WritesRow.cons (writes_textStart rfl).writes (.cons writes_sign
    (.cons magnitude.writes (writes_textEnd rfl).writes.row (by decide)) (by decide)) (by decide)
  exact form.ofString rfl

theorem writes_hexadecimal : WritesRow .initial hexForm
    [anchor .textStart, group sign, one (.single '0'), mark, group hexDigits, anchor .textEnd] := by
  have sign := writes_sign.row.choice.captured rfl (by decide)
  have zero : WritesAtom .initial ['0'] (one (.single '0')) := writes_unreserved rfl (by decide)
  have mark : WritesAtom .initial ['[', 'x', 'X', ']'] mark := writes_listed rfl fun _ => rfl
  have digit : WritesAtom .initial ['[', '0', '-', '9', 'a', '-', 'f', 'A', '-', 'F', ']']
      (one ⟨[⟨48, 57⟩, ⟨65, 70⟩, ⟨97, 102⟩]⟩) := writes_listed rfl fun _ => rfl
  have digits : Writes .initial _ hexDigits :=
    digit.bounded (v := ['1', ',', '1', '5', '\x7d']) rfl fun _ => rfl
  have digits := digits.row.choice.captured rfl (by decide)
  have form := WritesRow.cons (writes_textStart rfl).writes (.cons sign.writes (.cons zero.writes
    (.cons mark.writes (.cons digits.writes (writes_textEnd rfl).writes.row (by decide))
      (by decide)) (by decide)) (by decide)) (by decide)
  exact form.ofString rfl

/-! ### What they match -/

theorem matches_letter_iff {letters : Text} :
    (one (.ofText letters)).MatchesWhole t ↔ t ∈ letters.map fun c => [c] := by
  simp only [matchesWhole_one_iff, CharSet.contains_ofText_iff, List.mem_map]
  exact exists_congr fun c => and_comm.trans (and_congr_right fun _ => eq_comm)

theorem matches_sign_iff : sign.MatchesWhole t ↔ t ∈ signs := by
  rw [sign, matchesWhole_optional_iff, matches_letter_iff]
  exact List.mem_cons.symm

theorem matches_realLetter_iff : realLetter.MatchesWhole t ↔ t ∈ realLetters := by
  have order : ([] :: (['D', 'F', 'd', 'f'].map fun c => [c])).Perm realLetters := by decide
  rw [realLetter, matchesWhole_optional_iff, matches_letter_iff, ← order.mem_iff, List.mem_cons]

theorem matches_wholeLetter_iff : wholeLetter.MatchesWhole t ↔ t ∈ wholeLetters := by
  have order : (['L', 'l'].map fun c => [c]).Perm wholeLetters := by decide
  rw [wholeLetter, matches_letter_iff, order.mem_iff]

theorem matches_digits_iff {least : Nat} :
    (digits least).MatchesWhole t ↔ least ≤ t.length ∧ ∀ c ∈ t, IsDigit c := by
  rw [digits, matchesWhole_row_iff]
  exact and_congr_right fun _ => and_iff_right fun _ unbounded => nomatch unbounded

theorem matches_run_iff : (digits 1).MatchesWhole t ↔ Run IsDigit t := by
  rw [matches_digits_iff]
  constructor
  · rintro ⟨length, all⟩
    exact ⟨List.length_pos_iff.mp length, all⟩
  · exact fun run => ⟨List.length_pos_iff.mpr run.ne_nil, run.digits⟩

theorem matches_many_iff : (digits 0).MatchesWhole t ↔ ∀ c ∈ t, IsDigit c := by
  rw [matches_digits_iff, and_iff_right (Nat.zero_le _)]

theorem matches_point_iff : point.MatchesWhole t ↔ t = ['.'] := by
  simp [point, matchesWhole_one_iff, CharSet.contains_single_iff]

theorem matches_significand_iff : significand.MatchesWhole t ↔ IsSignificand IsDigit t := by
  show (either (sequence (digits 1) (sequence (repeated point 0 (some 1)) (digits 0)))
    (sequence point (digits 1))).MatchesWhole t ↔ _
  simp (disch := decide) only [matchesWhole_either_iff, matchesWhole_sequence_iff,
    matchesWhole_optional_iff, matches_point_iff, matches_run_iff, matches_many_iff]
  constructor
  · rintro (⟨w, _, rfl, run, _, f, rfl, rfl | rfl, more⟩ | ⟨_, f, rfl, rfl, run⟩)
    · refine .whole ⟨List.append_ne_nil_of_left_ne_nil run.ne_nil _, ?_⟩
      exact List.forall_mem_append.mpr ⟨run.digits, more⟩
    · exact .pointed run.digits more (.inl run.ne_nil)
    · exact .pointed (w := []) (fun _ mem => (nomatch mem)) run.digits (.inr run.ne_nil)
  · intro written
    cases written with
    | whole run =>
      exact .inl ⟨t, [], (List.append_nil t).symm, run, [], [], rfl, .inl rfl,
        fun _ mem => nomatch mem⟩
    | @pointed w f digits fraction filled =>
      cases w with
      | nil => exact .inr ⟨['.'], f, rfl, rfl, filled.resolve_left (absurd rfl), fraction⟩
      | cons c w =>
        exact .inl ⟨c :: w, '.' :: f, rfl, ⟨List.cons_ne_nil c w, digits⟩, ['.'], f, rfl,
          .inr rfl, fraction⟩

theorem matches_power_iff : power.MatchesWhole t ↔ IsPower IsDigit t := by
  have letter (c : Char) : (CharSet.ofText ['E', 'e']).contains c = true ↔ c = 'e' ∨ c = 'E' := by
    simp [CharSet.contains_ofText_iff, or_comm]
  show (repeated (sequence (one _) (sequence sign (digits 1))) 0 (some 1)).MatchesWhole t ↔ _
  simp (disch := decide) only [matchesWhole_optional_iff, matchesWhole_sequence_iff,
    matchesWhole_one_iff, letter, matches_sign_iff, matches_run_iff]
  constructor
  · rintro (rfl | ⟨_, _, rfl, ⟨c, rfl, letter⟩, sign, w, rfl, mem, run⟩)
    · exact .absent
    · show IsPower IsDigit (c :: (sign ++ w))
      exact .power letter mem run
  · intro written
    cases written with
    | absent => exact .inl rfl
    | power letter mem run => exact .inr ⟨[_], _, rfl, ⟨_, rfl, letter⟩, _, _, rfl, mem, run⟩

theorem matches_decimal_iff : (inRow [sign, magnitude]).MatchesWhole t ↔ IsDecimal IsDigit t := by
  show (sequence sign (either (sequence significand (sequence power realLetter))
    (sequence (digits 1) wholeLetter))).MatchesWhole t ↔ _
  simp (disch := decide) only [matchesWhole_either_iff, matchesWhole_sequence_iff, matches_sign_iff,
    matches_significand_iff, matches_power_iff, matches_realLetter_iff, matches_run_iff,
    matches_wholeLetter_iff]
  constructor
  · rintro ⟨sign, _, rfl, mem, ⟨w, _, rfl, written, e, letter, rfl, exponent, ending⟩ |
      ⟨w, letter, rfl, run, ending⟩⟩
    · rw [← List.append_assoc w, ← List.append_assoc]
      exact .real mem written exponent ending
    · rw [← List.append_assoc]
      exact .whole mem run ending
  · intro written
    cases written with
    | real mem written exponent ending =>
      rw [List.append_assoc, List.append_assoc]
      exact ⟨_, _, rfl, mem, .inl ⟨_, _, rfl, written, _, _, rfl, exponent, ending⟩⟩
    | whole mem run ending =>
      rw [List.append_assoc]
      exact ⟨_, _, rfl, mem, .inr ⟨_, _, rfl, run, ending⟩⟩

theorem matches_hexDigits_iff :
    hexDigits.MatchesWhole t ↔ Run (· ∈ hexadecimals) t ∧ t.length ≤ 15 := by
  have set (c : Char) :
      CharSet.contains ⟨[⟨48, 57⟩, ⟨65, 70⟩, ⟨97, 102⟩]⟩ c = true ↔ c ∈ hexadecimals :=
    contains_iff_mem _ (by decide) (by decide) (by decide)
  rw [hexDigits, matchesWhole_row_iff]
  simp only [set]
  constructor
  · rintro ⟨length, few, all⟩
    exact ⟨⟨List.length_pos_iff.mp length, all⟩, few 14 rfl⟩
  · rintro ⟨run, few⟩
    have length : 1 ≤ t.length := List.length_pos_iff.mpr run.ne_nil
    exact ⟨length, fun _ most => Option.some.inj most ▸ few, run.digits⟩

theorem matches_hexadecimal_iff :
    (inRow [group sign, one (.single '0'), mark, group hexDigits]).MatchesWhole t ↔
      IsHexadecimal t := by
  have marks (c : Char) : (CharSet.ofText ['X', 'x']).contains c = true ↔ c = 'x' ∨ c = 'X' := by
    simp [CharSet.contains_ofText_iff, or_comm]
  show (sequence (group sign)
    (sequence (one _) (sequence (one _) (group hexDigits)))).MatchesWhole t ↔ _
  simp (disch := decide) only [matchesWhole_sequence_iff, matchesWhole_group_iff,
    matchesWhole_one_iff, CharSet.contains_single_iff, marks, matches_sign_iff,
    matches_hexDigits_iff]
  constructor
  · rintro ⟨sign, _, rfl, mem, _, _, rfl, ⟨_, rfl, rfl⟩, _, digits, rfl, ⟨c, rfl, mark⟩, run, few⟩
    exact .marked mem mark run few
  · rintro ⟨mem, mark, run, few⟩
    exact ⟨_, _, rfl, mem, ['0'], _, rfl, ⟨_, rfl, rfl⟩, [_], _, rfl, ⟨_, rfl, mark⟩, run, few⟩

end Form

/-! ## The forms -/

theorem hasForm_iff {form : Text} {ps : List Pattern}
    (h : WritesRow .initial form (anchor .textStart :: (ps ++ [anchor .textEnd]))) (t : Text) :
    hasForm (parse? form) t = true ↔ (inRow ps).MatchesWhole t := by
  obtain ⟨piece, read, pattern⟩ := h.choice.parse?
  rw [hasForm, read, Option.any_some, isFoundIn_iff, pattern]
  exact found_ends_iff ps

/-- Decimal numbers of the digits of every script have the decimal form. -/
theorem hasForm_decimal_iff : hasForm decimalPattern? t = true ↔ IsDecimal IsDigit t :=
  (hasForm_iff Form.writes_decimal t).trans Form.matches_decimal_iff

theorem hasForm_hexadecimal_iff : hasForm hexPattern? t = true ↔ IsHexadecimal t :=
  (hasForm_iff Form.writes_hexadecimal t).trans Form.matches_hexadecimal_iff

end Numeral

end Criteria
