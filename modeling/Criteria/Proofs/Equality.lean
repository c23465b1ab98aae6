import Criteria.Proofs.NumberReading

/-!
# Equality of texts and of numbers

Two texts are the same if they are equal as texts or equal as numbers. This joins
two relations, and a text may be the same as one text in the first way and as another
in the second. Still it is one equivalence, because a text stands for one thing whatever
it is compared with: for the place of the number that it reads as, or else for itself.

* `place?`: the place of the number that a text reads as.
* `sameTextOrNumber_iff_place`: texts are the same if they are equal or read as
  numbers with one place.
* `meaning`: what a text stands for, and `sameTextOrNumber_iff_meaning`: texts are the
  same if they stand for the same.
* `sameTextOrNumber_equivalence`: so this is an equivalence.
-/

namespace Criteria

namespace Numeral

/-- The place of the number that a text reads as after cleaning. -/
def place? (t : Text) : Option Int := (readCleaned? t).bind Binary64.place?

/-- What a text stands for in an equality: the place of its number, or itself. -/
def meaning (t : Text) : Text ⊕ Int := (place? t).elim (.inl t) .inr

variable {a b : Text}

theorem meaning_of_place {i : Int} (h : place? a = some i) : meaning a = .inr i := by
  rw [meaning, h]
  rfl

theorem meaning_eq_iff :
    meaning a = meaning b ↔ a = b ∨ ∃ i, place? a = some i ∧ place? b = some i := by
  unfold meaning
  constructor
  · intro same
    cases ha : place? a with
    | none =>
      cases hb : place? b with
      | none =>
        rw [ha, hb] at same
        exact .inl (Sum.inl.inj same)
      | some j =>
        rw [ha, hb] at same
        cases same
    | some i =>
      cases hb : place? b with
      | none =>
        rw [ha, hb] at same
        cases same
      | some j =>
        rw [ha, hb] at same
        exact .inr ⟨i, rfl, congrArg some (Sum.inr.inj same).symm⟩
  · rintro (rfl | ⟨i, ha, hb⟩)
    · rfl
    · rw [ha, hb]
      rfl

end Numeral

open Numeral

variable {a b : Text}

/-- Texts are the same if they are equal, or read as numbers with one place. -/
theorem sameTextOrNumber_iff_place :
    sameTextOrNumber a b = true ↔ a = b ∨ ∃ i, place? a = some i ∧ place? b = some i := by
  unfold sameTextOrNumber place?
  rw [Bool.or_eq_true, beq_iff_eq]
  refine or_congr_right ?_
  cases ha : readCleaned? a with
  | none => simp
  | some x =>
    -- what is read is a number, so it has a place and equals itself
    obtain ⟨i, hx⟩ := readCleaned?_place ha
    cases hb : readCleaned? b with
    | none => simp
    | some y =>
      obtain ⟨j, hy⟩ := readCleaned?_place hb
      simp only [Option.bind_some, hx, hy, Binary64.isEqual_iff hx hy, Option.some.injEq]
      constructor
      · intro same
        exact ⟨i, rfl, same.symm⟩
      · rintro ⟨_, first, second⟩
        exact first.trans second.symm

/-- Texts are the same if they stand for the same. -/
theorem sameTextOrNumber_iff_meaning : sameTextOrNumber a b = true ↔ meaning a = meaning b :=
  sameTextOrNumber_iff_place.trans meaning_eq_iff.symm

/-- Being the same text or the same number is an equivalence, in whichever of the two ways each
of the pairs is the same. -/
theorem sameTextOrNumber_equivalence : Equivalence fun a b => sameTextOrNumber a b = true where
  refl _ := sameTextOrNumber_iff_meaning.mpr rfl
  symm same := sameTextOrNumber_iff_meaning.mpr (sameTextOrNumber_iff_meaning.mp same).symm
  trans first second := sameTextOrNumber_iff_meaning.mpr
    ((sameTextOrNumber_iff_meaning.mp first).trans (sameTextOrNumber_iff_meaning.mp second))

end Criteria
