import Criteria.Comparator

/-!
# Lower case and the letters A to Z

The spellings of comparators hold characters of ASCII only, and no `k`. So of all letters
those from A to Z alone can be read as a part of one: every other character keeps something
outside ASCII in its lower-case form, but for the Kelvin sign, which becomes a `k`.

* `lowerForm_foreign`: what the lower-case form of a character outside ASCII holds.
* `lowerCase_eq_iff`: texts without such letters are the lower-case form of what is theirs
  under the letters A to Z alone.
* `find?_canonical`: so these letters decide which comparator a spelling belongs to.
-/

namespace Criteria

namespace LetterCase

variable {before rest t : Text} {c : Char}

/-- A character outside ASCII, or the one inside that such a character has as its lower case. -/
def IsForeign (d : Char) : Prop := 0x80 ≤ d.toNat ∨ d = 'k'

instance (d : Char) : Decidable (IsForeign d) :=
  inferInstanceAs (Decidable (0x80 ≤ d.toNat ∨ d = 'k'))

/-! ## Single characters -/

/-- Only the letters A to Z have another lower case among the characters of ASCII. -/
theorem toLower_of_not_capital (h : c.toNat < 65 ∨ 90 < c.toNat) : c.toLower = c := by
  unfold Char.toLower
  refine dif_neg ?_
  rintro ⟨low, high⟩
  have low' : 65 ≤ c.toNat := low
  have high' : c.toNat ≤ 90 := high
  omega

/-- A character before the letters a to z is the lower case of no other. -/
theorem eq_of_toLower {l : Char} (lower : c.toLower = l) (before : l.toNat < 97) : c = l := by
  unfold Char.toLower at lower
  split at lower
  next capital =>
    have low : 65 ≤ c.toNat := capital.1
    have high : c.toNat ≤ 90 := capital.2
    have letter : l.toNat = c.toNat + 32 := by
      rw [← lower]
      show (c.val + 32).toNat = c.val.toNat + 32
      rw [UInt32.toNat_add]
      exact Nat.mod_eq_of_lt (by change c.toNat + 32 < 4294967296; omega)
    omega
  next => exact lower

/-- What the table gives are characters outside ASCII, but for one entry with a single `k`. -/
theorem table_lower : ∀ r ∈ table,
    (0x80 ≤ r.lower ∨ r.lower = 'k'.toNat ∧ r.last = r.first) ∧
    (r.lower + (r.last - r.first)).isValidChar ∧
      (r.lower + (r.last - r.first) < 0xD800 ∨ 0xE000 ≤ r.lower) := by
  decide +kernel

theorem lowerChar_foreign (h : 0x80 ≤ c.toNat) : IsForeign (lowerChar c) := by
  unfold lowerChar
  rw [if_neg (Nat.not_lt.mpr h)]
  split
  next r found =>
    have covers := List.find?_some found
    obtain ⟨foreign, valid, apart⟩ := table_lower r (List.mem_of_find?_eq_some found)
    unfold Capitals.contains at covers
    rw [Bool.and_eq_true, Bool.and_eq_true, decide_eq_true_eq, decide_eq_true_eq] at covers
    obtain ⟨⟨first, last⟩, _⟩ := covers
    rcases foreign with outside | ⟨kelvin, single⟩
    · have char : (r.lower + (c.toNat - r.first)).isValidChar := by
        unfold Nat.isValidChar at valid ⊢
        omega
      refine .inl ?_
      rw [Char.ofNat, dif_pos char]
      exact Nat.le_trans outside (Nat.le_add_right _ _)
    · have same : c.toNat - r.first = 0 := by omega
      rw [kelvin, same]
      exact .inr rfl
  next => exact .inl h

theorem sigma_foreign (before rest : Text) : IsForeign (sigma before rest) := by
  unfold sigma
  split
  · exact .inl (by decide)
  · exact .inl (by decide)

/-- The lower-case form of a character outside ASCII holds one that is foreign to ASCII. -/
theorem lowerForm_foreign (h : 0x80 ≤ c.toNat) (before rest : Text) :
    ∃ d ∈ lowerForm before c rest, IsForeign d := by
  unfold lowerForm
  split
  next => exact ⟨'\u0307', by decide, .inl (by decide)⟩
  next =>
    split
    next => exact ⟨_, List.mem_singleton_self _, sigma_foreign before rest⟩
    next => exact ⟨_, List.mem_singleton_self _, lowerChar_foreign h⟩

theorem lowerForm_ascii (h : c.toNat < 0x80) : lowerForm before c rest = [c.toLower] := by
  have other {d : Char} (outside : 0x80 ≤ d.toNat) : c ≠ d := by
    rintro rfl
    omega
  unfold lowerForm lowerChar
  rw [if_neg (other (by decide)), if_neg (other (by decide)), if_pos h]

/-! ## Texts -/

theorem lowerFrom_foreign (mem : c ∈ t) (h : 0x80 ≤ c.toNat) (before : Text) :
    ∃ d ∈ lowerFrom before t, IsForeign d := by
  induction t generalizing before with
  | nil => cases mem
  | cons e t ih =>
    rcases List.mem_cons.mp mem with rfl | later
    · obtain ⟨d, found, foreign⟩ := lowerForm_foreign h before t
      exact ⟨d, List.mem_append_left _ found, foreign⟩
    · obtain ⟨d, found, foreign⟩ := ih later (e :: before)
      exact ⟨d, List.mem_append_right _ found, foreign⟩

theorem lowerFrom_ascii (ascii : ∀ c ∈ t, c.toNat < 0x80) : lowerFrom before t = Text.lower t := by
  induction t generalizing before with
  | nil => rfl
  | cons c t ih =>
    obtain ⟨first, later⟩ := List.forall_mem_cons.mp ascii
    rw [lowerFrom, lowerForm_ascii first, ih later]
    rfl

/-- A text without foreign letters is the lower-case form of the texts that it is under the
letters A to Z alone, and of no others. -/
theorem lowerCase_eq_iff {a : Text} (native : ∀ d ∈ a, ¬ IsForeign d) :
    Text.lowerCase t = a ↔ Text.lower t = a := by
  have asciiOf (same : Text.lower t = a) : ∀ c ∈ t, c.toNat < 0x80 := by
    intro c mem
    refine Nat.lt_of_not_le fun foreign => native c ?_ (.inl foreign)
    rw [← same, ← toLower_of_not_capital (.inr (Nat.lt_of_lt_of_le (by decide) foreign))]
    exact List.mem_map_of_mem mem
  unfold Text.lowerCase
  constructor
  · intro same
    have ascii : ∀ c ∈ t, c.toNat < 0x80 := by
      intro c mem
      refine Nat.lt_of_not_le fun foreign => ?_
      obtain ⟨d, found, isForeign⟩ := lowerFrom_foreign mem foreign []
      exact native d (same ▸ found) isForeign
    rw [← same, lowerFrom_ascii ascii]
  · intro same
    rw [lowerFrom_ascii (asciiOf same), same]

end LetterCase

namespace Comparator

open LetterCase

/-- The form that decides a lookup: words with single spaces between them, the letters A to Z
in lower case. -/
def canonicalSpelling (t : Text) : Text :=
  Text.lower ([' '].intercalate (Text.words t))

theorem alias_native (c : Comparator) : ∀ a ∈ c.aliases, ∀ d ∈ a, ¬ IsForeign d := by
  have table : (c.aliases.all fun a => a.all fun d => !decide (IsForeign d)) = true := by
    cases c <;> decide
  intro a own d mem
  have native := List.all_eq_true.mp (List.all_eq_true.mp table a own) d mem
  rwa [Bool.not_eq_true', decide_eq_false_iff_not] at native

/-- No letter outside A to Z makes a difference to a lookup. -/
theorem find?_canonical (t : Text) :
    find? t = all.find? fun c => c.aliases.contains (canonicalSpelling t) := by
  have same (c : Comparator) :
      c.aliases.contains (Text.lowerCase ([' '].intercalate (Text.words t))) =
        c.aliases.contains (canonicalSpelling t) := by
    rw [Bool.eq_iff_iff, List.contains_iff_mem, List.contains_iff_mem]
    constructor
    · intro mem
      rwa [canonicalSpelling, (lowerCase_eq_iff (alias_native c _ mem)).mp rfl]
    · intro mem
      rwa [(lowerCase_eq_iff (alias_native c _ mem)).mpr rfl]
  exact congrArg all.find? (funext same)

end Comparator

end Criteria
