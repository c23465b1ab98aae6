import Criteria.Proofs.Parsing

/-!
# Looking up what the split found

The split recognises a spelling letter by letter, the catalog looks one up by its
canonical form. Both ignore letter case, but the long s counts as an `s` for the
first alone.

* `find?_of_readAs`: what was read as a spelling of a comparator is looked up as
  that comparator, unless a long s was read.
* `lookup_agrees_iff`: the exact texts on which split and catalog agree, and the
  exact texts whose comparator is reported as unknown.
* `lookup_disagrees`: `x iſ [a]` splits, but its comparator is unknown.
-/

namespace Criteria

namespace Comparator

open Spelling

theorem mem_all (c : Comparator) : c ∈ all := by
  cases c <;> decide

/-- No two comparators share a spelling. -/
theorem find?_alias :
    ∀ c ∈ all, ∀ a ∈ c.aliases, all.find? (·.aliases.contains a) = some c := by decide

theorem mem_spellings : ∀ c ∈ all, ∀ a ∈ c.aliases, a ∈ Sentence.spellings := by decide

theorem exists_owner : ∀ a ∈ Sentence.spellings, ∃ c ∈ all, a ∈ c.aliases := by decide

/-- A spelling is its own canonical form. -/
theorem intercalate_words_spelling :
    ∀ a ∈ Sentence.spellings, [' '].intercalate (Text.words a) = a := by decide

theorem longS_not_mem_alias : ∀ c ∈ all, ∀ a ∈ c.aliases, longS ∉ a := by decide

theorem longS_not_blank : Text.isBlank longS = false := by decide

theorem find?_eq_none_of_longS {t : Text} (h : longS ∈ t) : find? t = none := by
  have mem := mem_canonicalSpelling longS_not_blank (by decide) h
  rw [find?_canonical]
  refine List.find?_eq_none.mpr fun c hc listed => ?_
  exact longS_not_mem_alias c hc _ (List.contains_iff_mem.mp listed) mem

/-- What is read as a spelling of a comparator, blanks around it included, is looked up as
that comparator, if no long s was read. -/
theorem find?_of_readAs {t a q r : Text} {c : Comparator} (own : a ∈ c.aliases)
    (h : Sentence.readAs? t a = some (q, r)) (hs : longS ∉ q) : find? q = some c := by
  have mem := mem_spellings c (mem_all c) a own
  obtain ⟨x, rest, hx, _, rfl, rfl⟩ := Sentence.readAs?_eq_some.mp h
  have canonical := (read?_sound hx).2.canonicalSpelling_eq (Sentence.spellings_plain a mem)
    (Text.leadingBlanks_allBlank t) (Text.leadingBlanks_allBlank rest)
    fun hx => hs (List.mem_append_left _ (List.mem_append_right _ hx))
  rw [find?_canonical, canonical, intercalate_words_spelling a mem]
  exact find?_alias c (mem_all c) a own

theorem find?_of_readAs_iff {t a q r : Text} {c : Comparator} (own : a ∈ c.aliases)
    (h : Sentence.readAs? t a = some (q, r)) : find? q = some c ↔ longS ∉ q := by
  constructor
  · intro found hs
    rw [find?_eq_none_of_longS hs] at found
    cases found
  · exact find?_of_readAs own h

end Comparator

namespace Sentence

open Spelling

/-- What was split off as the comparator's part was read as the spelling taken there. -/
theorem split?_spelling {t : Text} {parts : Sentence} (h : split? t = some parts) :
    ∃ a, spellingAt? (parts.operator ++ parts.controls) = some a ∧
      readAs? (parts.operator ++ parts.controls) a = some (parts.operator, parts.controls) := by
  obtain ⟨p, q, r⟩ := parts
  obtain ⟨_, rest, _, hread, _⟩ := split?_eq_some_iff.mp h
  rw [readOperator?_split hread] at hread
  exact readOperator?_spelling hread

theorem split?_find?_eq_none_iff {t : Text} {parts : Sentence} (h : split? t = some parts) :
    Comparator.find? parts.operator = none ↔ longS ∈ parts.operator := by
  obtain ⟨a, ha, hread⟩ := split?_spelling h
  obtain ⟨c, _, own⟩ := Comparator.exists_owner a (spellingAt?_mem ha)
  constructor
  · intro none
    refine Classical.byContradiction fun hs => ?_
    rw [Comparator.find?_of_readAs own hread hs] at none
    cases none
  · exact Comparator.find?_eq_none_of_longS

/-- Where a text splits, the catalog gives back the comparator whose spelling was taken
exactly if no long s was read for it. A comparator is reported as unknown exactly where the
text splits, has a subject, and a long s was read. -/
theorem lookup_agrees_iff (t : Text) :
    (∀ parts, split? t = some parts →
      ∃ a, spellingAt? (parts.operator ++ parts.controls) = some a ∧ (∃ c : Comparator, a ∈ c.aliases) ∧
        ∀ c : Comparator, a ∈ c.aliases →
          (Comparator.find? parts.operator = some c ↔ longS ∉ parts.operator)) ∧
    ((∃ u, (Filter.parse t).result = .error (.unknownComparator u)) ↔
      ∃ parts, split? t = some parts ∧ Text.trim parts.subject ≠ [] ∧ longS ∈ parts.operator) := by
  constructor
  · intro parts h
    obtain ⟨a, ha, hread⟩ := split?_spelling h
    obtain ⟨c, _, own⟩ := Comparator.exists_owner a (spellingAt?_mem ha)
    exact ⟨a, ha, ⟨c, own⟩, fun d owned => Comparator.find?_of_readAs_iff owned hread⟩
  · constructor
    · rintro ⟨u, h⟩
      obtain ⟨parts, hs, subject, hc, _⟩ := Filter.parse_unknown_iff.mp h
      exact ⟨parts, hs, subject, (split?_find?_eq_none_iff hs).mp hc⟩
    · rintro ⟨parts, hs, subject, longS⟩
      exact ⟨_, Filter.parse_unknown_iff.mpr
        ⟨parts, hs, subject, (split?_find?_eq_none_iff hs).mpr longS, rfl⟩⟩

theorem lookup_agrees_is_not :
    split? "x Is  NOT [a]".toList = some ⟨"x".toList, " Is  NOT ".toList, "[a]".toList⟩ ∧
      Comparator.find? " Is  NOT ".toList = some .isNot := by
  have found : split? "x Is  NOT [a]".toList =
      some ⟨"x".toList, " Is  NOT ".toList, "[a]".toList⟩ := by decide
  refine ⟨found, ?_⟩
  obtain ⟨a, ha, _, agrees⟩ := (lookup_agrees_iff "x Is  NOT [a]".toList).1 _ found
  have taken : a = "is not".toList := by
    have : spellingAt? (" Is  NOT ".toList ++ "[a]".toList) = some "is not".toList := by
      decide
    rw [this] at ha
    exact (Option.some.inj ha).symm
  exact (agrees .isNot (by rw [taken]; decide)).mpr (by decide)

/-- With a long s for the `s`, `is` is found in the text but not in the catalog. -/
theorem lookup_disagrees :
    split? "x i\u017F [a]".toList = some ⟨"x".toList, " i\u017F ".toList, "[a]".toList⟩ ∧
      spellingAt? " i\u017F [a]".toList = some "is".toList ∧ "is".toList ∈ Comparator.is.aliases ∧
      Comparator.find? " i\u017F ".toList = none ∧
      (Filter.parse "x i\u017F [a]".toList).result =
        .error (.unknownComparator "i\u017F".toList) := by
  have found : split? "x i\u017F [a]".toList =
      some ⟨"x".toList, " i\u017F ".toList, "[a]".toList⟩ := by decide
  have unknown : Comparator.find? " i\u017F ".toList = none := by decide
  refine ⟨found, by decide, by decide, unknown, ?_⟩
  exact Filter.parse_unknown_iff.mpr ⟨_, found, by decide, unknown, by decide⟩

end Sentence

end Criteria
