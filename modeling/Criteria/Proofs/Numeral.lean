import Criteria.Numeral
import Criteria.Proofs.Edges

/-!
# The characters of numbers

* `IsNumeral`: a text of digits, letters, signs and points only.
* `IsNumeral.readCleaned?_eq`: cleaning leaves such a text as it is, so it reads the same
  after cleaning.
* `readCleaned?_trim`: blanks around a text without quotes do not outlast cleaning.
-/

namespace Criteria

namespace Numeral

open Text

/-- From the plus sign to the small `z`: these hold all that numbers are written with, and
nothing that cleaning takes away. -/
def isNumeralChar (c : Char) : Bool := 43 ≤ c.toNat && c.toNat ≤ 122

/-- Every character is one that numbers are written with. -/
def IsNumeral (t : Text) : Prop := ∀ c ∈ t, isNumeralChar c = true

theorem isNumeralChar_iff {c : Char} : isNumeralChar c = true ↔ 43 ≤ c.toNat ∧ c.toNat ≤ 122 := by
  rw [isNumeralChar, Bool.and_eq_true, decide_eq_true_eq, decide_eq_true_eq]

theorem isNumeralChar_of_range {a b c : Char} (low : 43 ≤ a.toNat) (high : b.toNat ≤ 122)
    (range : a ≤ c ∧ c ≤ b) : isNumeralChar c = true :=
  isNumeralChar_iff.mpr ⟨Nat.le_trans low range.1, Nat.le_trans range.2 high⟩

theorem isNumeralChar_of_decimal {c : Char} (h : (Digit.decimal? c).isSome = true) :
    isNumeralChar c = true := by
  unfold Digit.decimal? at h
  split at h
  next range => exact isNumeralChar_of_range (by decide) (by decide) range
  next => cases h

theorem isNumeralChar_of_hex {c : Char} (h : (Digit.hex? c).isSome = true) :
    isNumeralChar c = true := by
  unfold Digit.hex? at h
  split at h
  next range => exact isNumeralChar_of_range (by decide) (by decide) range
  next =>
    split at h
    next range => exact isNumeralChar_of_range (by decide) (by decide) range
    next =>
      split at h
      next range => exact isNumeralChar_of_range (by decide) (by decide) range
      next => cases h

theorem isNumeralChar_of_toLower {c : Char} (h : isNumeralChar c.toLower = true) :
    isNumeralChar c = true := by
  unfold Char.toLower at h
  split at h
  next capital => exact isNumeralChar_of_range (a := 'A') (b := 'Z') (by decide) (by decide) capital
  next => exact h

/-! ## Texts of such characters -/

theorem IsNumeral.append {s t : Text} (hs : IsNumeral s) (ht : IsNumeral t) : IsNumeral (s ++ t) := by
  intro c hc
  cases List.mem_append.mp hc with
  | inl h => exact hs c h
  | inr h => exact ht c h

theorem IsNumeral.cons {c : Char} {t : Text} (hc : isNumeralChar c = true) (ht : IsNumeral t) :
    IsNumeral (c :: t) :=
  IsNumeral.append (s := [c]) (fun _ h => List.mem_singleton.mp h ▸ hc) ht

/-! ## Cleaning -/

theorem IsNumeral.firm {t : Text} (h : IsNumeral t) : ∀ c ∈ t, isBlank c = false := by
  intro c hc
  have range := isNumeralChar_iff.mp (h c hc)
  simp only [isBlank, Bool.or_eq_false_iff, Bool.and_eq_false_iff, decide_eq_false_iff_not,
    beq_eq_false_iff_ne]
  omega

theorem IsNumeral.not_mem {t : Text} (h : IsNumeral t) {c : Char} (low : c.toNat < 43) : c ∉ t := by
  intro mem
  have range := isNumeralChar_iff.mp (h c mem)
  omega

theorem IsNumeral.trim_eq {t : Text} (h : IsNumeral t) : trim t = t := trim_of_unbroken h.firm

/-- Cleaning has nothing to take away from such a text. -/
theorem IsNumeral.cleaned_eq {t : Text} (h : IsNumeral t) : cleaned t = t := by
  have squeezed : squeeze t = t := by
    refine List.filter_eq_self.mpr fun c hc => ?_
    rw [h.firm c hc]
    rfl
  unfold cleaned
  rw [unwrap_of_not_mem (h.not_mem (by decide)), unwrap_of_not_mem (h.not_mem (by decide)),
    h.trim_eq, withoutLeading_of_not_mem (h.not_mem (by decide)), squeezed]

theorem IsNumeral.readCleaned?_eq {t : Text} (h : IsNumeral t) : readCleaned? t = read? t := by
  rw [readCleaned?, h.cleaned_eq]

/-- Blanks around a text without quotes make no difference to the number. -/
theorem readCleaned?_trim {t : Text} (double : '"' ∉ t) (single : '\'' ∉ t) :
    readCleaned? (trim t) = readCleaned? t := by
  have kept {c : Char} (h : c ∉ t) : c ∉ trim t := fun mem => h (mem_of_mem_trim mem)
  unfold readCleaned? cleaned
  rw [unwrap_of_not_mem double, unwrap_of_not_mem single, unwrap_of_not_mem (kept double),
    unwrap_of_not_mem (kept single), trim_trim]

end Numeral

end Criteria
