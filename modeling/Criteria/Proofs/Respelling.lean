import Criteria.Proofs.RoundTrip

/-!
# All spellings of a comparator

A filter displays the symbol of its comparator. It may be written with any other
spelling of the comparator, in any letter case, with any blanks between the words
and around them: the text is parsed to the same filter.

* `Respelt`: a spelling in some letter case, its spaces widened.
* `respelt_iff`: these are the ways of writing a spelling without a long s.
* `parse_respelt`: a filter that is read back from what it displays is read from
  its parts with the comparator respelt.
-/

namespace Criteria

namespace Spelling

/-- `Respelt a x`: the text `x` is the spelling `a` with its letters A to Z in either case
and any blanks for each of its spaces. -/
inductive Respelt : Text → Text → Prop
  | nil : Respelt [] []
  | letter {l c : Char} {a x : Text} :
      l ≠ ' ' → c.toLower = l → Respelt a x → Respelt (l :: a) (c :: x)
  | gap {g a x : Text} : g ≠ [] → Text.AllBlank g → Respelt a x → Respelt (' ' :: a) (g ++ x)

theorem Respelt.spelt {a x : Text} (h : Respelt a x) : Spelt a x := by
  induction h with
  | nil => exact .nil
  | letter hl lower _ ih => exact .letter hl (sameLetter_iff.mpr (.inl lower)) ih
  | gap ne blank _ ih => exact .gap ne blank ih

theorem Respelt.longS_not_mem {a x : Text} (h : Respelt a x) (hs : longS ∉ a) : longS ∉ x := by
  induction h with
  | nil => exact hs
  | @letter l c a x _ lower _ ih =>
    intro mem
    rcases List.mem_cons.mp mem with rfl | mem
    · -- the long s is its own lower case, so it would be a letter of the spelling
      have : longS.toLower = longS := by decide
      exact hs (List.mem_cons.mpr (.inl (this.symm.trans lower)))
    · exact ih (List.not_mem_of_not_mem_cons hs) mem
  | @gap g a x _ blank _ ih =>
    intro mem
    rcases List.mem_append.mp mem with mem | mem
    · exact absurd (blank longS mem) (by decide)
    · exact ih (List.not_mem_of_not_mem_cons hs) mem

theorem Spelt.respelt {a x : Text} (h : Spelt a x) (hs : longS ∉ x) : Respelt a x := by
  induction h with
  | nil => exact .nil
  | @letter l c a x hl same _ ih =>
    rcases sameLetter_iff.mp same with lower | ⟨_, rfl⟩
    · exact .letter hl lower (ih (List.not_mem_of_not_mem_cons hs))
    · exact absurd List.mem_cons_self hs
  | @gap g a x ne blank _ ih =>
    exact .gap ne blank (ih fun mem => hs (List.mem_append_right g mem))

theorem respelt_iff {a x : Text} (hs : longS ∉ a) : Respelt a x ↔ Spelt a x ∧ longS ∉ x :=
  ⟨fun h => ⟨h.spelt, h.longS_not_mem hs⟩, fun h => h.1.respelt h.2⟩

end Spelling

namespace Sentence

open Text Spelling

/-- A filter that is read back from what it displays is also read from its subject, any
spelling of its comparator in any letter case, and its controls, whatever the blanks between
them. -/
theorem parse_respelt {f : Filter} {a x b e : Text}
    (back : (Filter.parse f.display).result = .ok f) (own : a ∈ f.comparator.aliases)
    (respelt : Respelt a x) (hb : AllBlank b) (nb : b ≠ []) (he : AllBlank e)
    (ne : e ≠ []) :
    (Filter.parse (f.subject ++ b ++ x ++ e ++ f.controls)).result = .ok f := by
  have noLongS := Comparator.longS_not_mem_alias _ (Comparator.mem_all f.comparator) a own
  obtain ⟨spelt, hs⟩ := (respelt_iff noLongS).mp respelt
  have stands : Stands a b x e f.controls :=
    ⟨⟨f.comparator, own⟩, hb, spelt, he, fun _ => ⟨nb, .inl ne⟩⟩
  -- what can go wrong with the displayed text is all that can go wrong with this one
  obtain ⟨_, _, _, _, _, _, lies⟩ := lies_of_parse back
  have parsed := stands.parse_eq own hs nb (.inl ne) lies.wellFormed
    (split?_subject_of_parse_display lies.wellFormed back)
    (fun ⟨hc, ends⟩ => lies.not_endsInNot hc ends)
    (fun ⟨hc, opens⟩ => lies.not_opensWithAny hc opens)
  rwa [← List.append_assoc, ← List.append_assoc, ← List.append_assoc] at parsed

/-- `qty > 3` may be written `qty Greater  THAN 3`, with a tabulator before the number. -/
theorem parse_respelt_greater_than : ∃ f : Filter,
    f.display = "qty > 3".toList ∧ (Filter.parse f.display).result = .ok f ∧
      (Filter.parse "qty Greater  THAN\t3".toList).result = .ok f := by
  have back : (Filter.parse (Filter.display ⟨"qty".toList, .greater, "3".toList, []⟩)).result =
      .ok ⟨"qty".toList, .greater, "3".toList, []⟩ :=
    Filter.parse_ok_iff.mpr ⟨⟨"qty".toList, " > ".toList, "3".toList⟩, .greater,
      by decide, by decide, rfl⟩
  have read : read? "greater than".toList "Greater  THAN".toList =
      some ("Greater  THAN".toList, []) := by decide
  have respelt := (read?_sound read).2.respelt (by decide)
  have parsed := parse_respelt (b := [' ']) (e := ['\t']) back (by decide) respelt
    (by decide) (List.cons_ne_nil _ _) (by decide) (List.cons_ne_nil _ _)
  exact ⟨_, rfl, back, parsed⟩

end Sentence

end Criteria
