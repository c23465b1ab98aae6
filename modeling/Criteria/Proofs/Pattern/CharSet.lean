import Criteria.Pattern.Property
import Criteria.Pattern.Property.Folding

/-!
# The characters of a set

A set of characters is a list of ranges, and the sets with a shorthand are read from tables. The
tables are looked up here once: what is in the sets of digits and of blanks, and which characters
are the same letter as an ASCII one.

* `CharSet.contains_single_iff`, `CharSet.contains_ofText_iff`: sets of characters one by one.
* `Property.digits_ranges`, `Property.contains_blanks`: the digits of every script, and the blanks.
* `Folding.filter_pairs`: the letter cases of ASCII characters; `Folding.closure_eq`: no others
  count for a set of them.
-/

namespace Criteria

namespace CharSet

variable {s : CharSet} {t : Text} {c d : Char}

theorem contains_single_iff : (single c).contains d = true ↔ d = c := by
  have code : (single c).contains d = true ↔ c.toNat ≤ d.toNat ∧ d.toNat ≤ c.toNat := by
    simp [single, contains, containsCode, CodeRange.contains]
  rw [code, ← Nat.le_antisymm_iff]
  exact ⟨fun same => (Char.toNat_inj.mp same).symm, fun same => congrArg Char.toNat same.symm⟩

/-- The characters of a text, one by one. -/
def ofText (t : Text) : CharSet := ⟨t.map fun c => ⟨c.toNat, c.toNat⟩⟩

theorem contains_ofText_iff : (ofText t).contains c = true ↔ c ∈ t := by
  have some : (ofText t).contains c = true ↔ ∃ d ∈ t, (single d).contains c = true := by
    simp [ofText, single, contains, containsCode]
  rw [some]
  simp only [contains_single_iff, exists_eq_right']

theorem contains_full (c : Char) : full.contains c = true := by
  have valid : c.toNat < 0xD800 ∨ 0xDFFF < c.toNat ∧ c.toNat < 0x110000 := c.valid
  have below : c.toNat ≤ maxCode := by
    unfold maxCode
    omega
  simp [full, contains, containsCode, CodeRange.contains, below]

theorem lt_of_isAscii {n : Nat} (ascii : s.isAscii = true) (found : s.containsCode n = true) :
    n < 128 := by
  obtain ⟨r, mem, holds⟩ := List.any_eq_true.mp found
  have last := List.all_eq_true.mp ascii r mem
  simp only [CodeRange.contains, Bool.and_eq_true, decide_eq_true_eq] at holds last
  omega

/-- The table is kept as the list of its characters, so that it need not be decoded. -/
theorem ofTable_ofList (l : Text) :
    ofTable (String.ofList l) = .ofRanges ((Text.words l).flatMap tableItem) := by
  rw [ofTable, String.toList_ofList]

end CharSet

namespace Property

set_option maxRecDepth 10000 in
/-- The table of digits opens with the ten of ASCII, and the others are beyond it. -/
theorem digits_ranges : digits.ranges.head? = some ⟨48, 57⟩ ∧
    (digits.ranges.tail.all fun r => 128 ≤ r.first) = true := by
  have table : digits = _ := CharSet.ofTable_ofList _
  rw [table]
  decide +kernel

theorem blanks_ranges : blanks.ranges = [⟨0x09, 0x0D⟩, ⟨0x20, 0x20⟩, ⟨0x85, 0x85⟩, ⟨0xA0, 0xA0⟩,
    ⟨0x1680, 0x1680⟩, ⟨0x2000, 0x200A⟩, ⟨0x2028, 0x2029⟩, ⟨0x202F, 0x202F⟩, ⟨0x205F, 0x205F⟩,
    ⟨0x3000, 0x3000⟩] := by
  have table : blanks = _ := CharSet.ofTable_ofList _
  rw [table]
  decide +kernel

theorem contains_blanks (c : Char) : blanks.contains c = Text.isBlank c := by
  rw [CharSet.contains, CharSet.containsCode, blanks_ranges, Bool.eq_iff_iff]
  simp only [List.any_cons, List.any_nil, CodeRange.contains, Text.isBlank, Bool.or_eq_true,
    Bool.and_eq_true, decide_eq_true_eq, beq_iff_eq, Bool.or_false]
  omega

end Property

namespace Folding

/-- The letters A to Z, and the two letters outside ASCII that are the same as one of them. -/
def asciiPairs : List (Nat × Nat) :=
  (List.range 26).map (fun i => (0x41 + i, 0x61 + i)) ++ [(0x17F, 0x73), (0x212A, 0x6B)]

/-- The pair has an ASCII character. -/
def isNear (p : Nat × Nat) : Bool := p.1 < 128 || p.2 < 128

set_option maxRecDepth 20000 in
theorem filter_pairs : pairs.filter isNear = asciiPairs := by
  have text : table = String.ofList _ := rfl
  rw [pairs, text, String.toList_ofList]
  decide +kernel

theorem filterMap_pairs {f : Nat × Nat → Option Nat} (far : ∀ p, isNear p = false → f p = none) :
    pairs.filterMap f = asciiPairs.filterMap f := by
  rw [← filter_pairs, List.filterMap_filter]
  congr 1
  funext p
  cases near : isNear p with
  | false => rw [far p near]; rfl
  | true => rfl

/-- A set with the characters that its own fold to. -/
def folded (pairs : List (Nat × Nat)) (s : CharSet) : CharSet :=
  s.union (ofCodeList (pairs.filterMap fun (c, d) => if s.containsCode c then some d else none))

/-- A set with the characters that fold to its own. -/
def unfolded (pairs : List (Nat × Nat)) (s : CharSet) : CharSet :=
  s.union (ofCodeList (pairs.filterMap fun (c, d) => if s.containsCode d then some c else none))

/-- For a set of ASCII characters that fold to ASCII characters no other pairs count. -/
theorem closure_eq {s : CharSet} (ascii : s.isAscii = true)
    (closed : (folded asciiPairs s).isAscii = true) :
    closure s = unfolded asciiPairs (folded asciiPairs s) := by
  have before : folded pairs s = folded asciiPairs s := by
    unfold folded
    rw [filterMap_pairs fun p far => ?_]
    refine if_neg fun found => ?_
    have near := CharSet.lt_of_isAscii ascii found
    simp [isNear, near] at far
  show unfolded pairs (folded pairs s) = _
  rw [before]
  unfold unfolded
  rw [filterMap_pairs fun p far => ?_]
  refine if_neg fun found => ?_
  have near := CharSet.lt_of_isAscii closed found
  simp [isNear, near] at far

end Folding

end Criteria
