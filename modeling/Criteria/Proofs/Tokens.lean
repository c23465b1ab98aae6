import Criteria.Proofs.Entries

/-!
# Rows of tokens in brackets

A list and a range are read from a row of tokens in brackets. The blanks at the two ends of
the interior are trimmed before the row comes apart, so a blank token at an end is lost,
while one between others is the empty value.

* `readEntries_joined`: a row is read as the tokens that count, with the events of these.
* `interior?_eq_none_iff`: what is not in brackets once it is trimmed has no row.
* `reading_tokens`: what a row in brackets is read as, as a list and as a range, and how a
  text without brackets is refused.
-/

namespace Criteria

namespace Controls

open Text

/-! ## Reading a row -/

theorem scalar_blank {t : Text} (blank : trim t = []) : scalar t = [] := by
  rw [scalar, blank]
  rfl

theorem scalarEvents_trimStart (t : Text) : scalarEvents (trimStart t) = scalarEvents t := by
  rw [scalarEvents, scalarEvents, trim_trimStart]

theorem scalarEvents_trimEnd (t : Text) : scalarEvents (trimEnd t) = scalarEvents t := by
  rw [scalarEvents, scalarEvents, trim_trimEnd]

variable {k : Text} {ts : List Text}

/-- The tokens that count are read one by one, and nothing else raises an event. -/
theorem readEntries_joined (ne : ts ≠ []) (apart : ∀ t ∈ ts, '|' ∉ t) :
    readEntries (joined ts) = ⟨(kept ts).map scalar, (kept ts).flatMap scalarEvents⟩ := by
  have events := map_entries_joined scalarEvents_trimStart scalarEvents_trimEnd ne apart
  rw [readEntries, map_scalar_entries ne apart, List.flatMap_def, List.flatMap_def, events]

/-! ## Finding the brackets -/

theorem interior?_eq_none_iff :
    interior? k = none ↔ ¬ ∃ inner, trim k = '[' :: (inner ++ [']']) := by
  rw [← Option.not_isSome_iff_eq_none, Option.isSome_iff_exists]
  refine not_congr (exists_congr fun inner => ⟨inside?_eq_some, fun bracketed => ?_⟩)
  rw [interior?, bracketed, inside?_enclosed]

theorem readList_of_interior? {inner : Text} (h : interior? k = some inner) :
    readList k = (readEntries inner).map .ok := by
  rw [readList, h]

theorem readRange_of_interior? {inner : Text} (h : interior? k = some inner) :
    readRange k = (readEntries inner).map (asBounds k) := by
  rw [readRange, h]

/-- Tokens with separators between them, in brackets and with blanks around these, are read as a
list of the values of the tokens that count: all but the empty ones, and but for blank ones at the
two ends. A blank token between others counts, as the empty value. As a range they are read if
exactly two of them count, and the error gives the controls and how many there were. A text that
is not in brackets is refused as it stands, before any token is looked at. -/
theorem reading_tokens :
    (∀ b ts e, ts ≠ [] → (∀ t ∈ ts, '|' ∉ t) → AllBlank b → AllBlank e →
      let k := b ++ listed ts ++ e
      let values := (kept ts).map scalar
      let events := (kept ts).flatMap scalarEvents
      readList k = ⟨.ok values, events⟩ ∧
      readRange k = ⟨if values.length = 2 then .ok values
        else .error (.malformedRange k (.count values.length)), events⟩) ∧
    (∀ t, trim t = [] → scalar t = []) ∧
    ∀ k, (¬ ∃ inner, trim k = '[' :: (inner ++ [']'])) →
      readList k = .quiet (.error (.malformedList k)) ∧
      readRange k = .quiet (.error (.malformedRange k .unbracketed)) := by
  refine ⟨fun b ts e ne apart before behind => ?_, fun t => scalar_blank, fun k bare => ?_⟩
  · have found : interior? (b ++ listed ts ++ e) = some (joined ts) :=
      interior?_padded before behind (joined ts)
    intro k values events
    rw [readList_of_interior? found, readRange_of_interior? found, readEntries_joined ne apart]
    exact ⟨rfl, rfl⟩
  · have missing := interior?_eq_none_iff.mpr bare
    rw [readList, readRange, missing]
    exact ⟨rfl, rfl⟩

/-- Blank tokens at both ends, one between others, an empty one, and one with a quote on one side:
a list of three values, which is no range. Of two blank tokens and two bounds a range remains; and
brackets on one side are none. -/
theorem reading_tokens_blank :
    let k := "\u00a0[ | \t|a||\"b|\u2003]\n".toList
    readList k = ⟨.ok [[], "a".toList, "\"b".toList], [.unbalancedQuote "\"b".toList]⟩ ∧
    readRange k = ⟨.error (.malformedRange k (.count 3)), [.unbalancedQuote "\"b".toList]⟩ ∧
    readRange "[ |1| \"2\" | ]".toList = ⟨.ok ["1".toList, "2".toList], []⟩ ∧
    readRange "[1|2".toList = ⟨.error (.malformedRange "[1|2".toList .unbracketed), []⟩ := by
  obtain ⟨rows, _, bare⟩ := reading_tokens
  have mixed := rows ['\u00a0'] [[' '], [' ', '\t'], ['a'], [], ['"', 'b'], ['\u2003']] ['\n']
    (List.cons_ne_nil _ _) (by decide) (by decide) (by decide)
  have bounds := rows [] [[' '], ['1'], " \"2\" ".toList, [' ']] []
    (List.cons_ne_nil _ _) (by decide) (by decide) (by decide)
  have unclosed := bare "[1|2".toList (interior?_eq_none_iff.mp (by decide))
  exact ⟨mixed.1, mixed.2, bounds.2, unclosed.2⟩

end Controls

end Criteria
