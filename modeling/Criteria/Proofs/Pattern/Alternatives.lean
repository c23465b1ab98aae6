import Criteria.Proofs.Entries
import Criteria.Proofs.Pattern.Written

/-!
# Words as alternatives

In a pattern a character that is not reserved stands for itself, and a bar ends one
alternative and begins the next. This module says what words with bars between them are read
as, and which texts match that.

* `writes_word`, `writes_joined`: a word writes its letters, and words with bars between them
  write a choice of the words.
* `matchesWhole_word_iff`: a word matches itself only.
* `isFoundIn_joined`: so words as alternatives, put between the ends of a text, are found in the
  words and in no other text.
-/

namespace Criteria

open Controls (joined)

namespace Pattern

open Reader Reader.State

/-- The characters of a word as parts. -/
def letters (w : Text) : List Pattern := w.map fun c => one (.single c)

variable {t w : Text}

theorem writes_word (free : ∀ c ∈ w, c ∉ reserved) : WritesRow .initial w (letters w) := by
  induction w with
  | nil => exact .nil
  | cons c w ih =>
    obtain ⟨first, later⟩ := List.forall_mem_cons.mp free
    have apart : w.head? ≠ some '?' := by
      intro mark
      exact later '?' (List.mem_of_mem_head? mark) (by decide)
    exact .cons (writes_unreserved rfl first).writes (ih later) apart

/-- Words with bars between them are read as one alternative each. -/
theorem writes_joined {ws : List Text} (ne : ws ≠ []) (free : ∀ w ∈ ws, ∀ c ∈ w, c ∉ reserved) :
    WritesChoice .initial (joined ws) (ws.map fun w => inRow (letters w)) := by
  have choice := WritesChoice.ofList rfl id letters ne fun w mem => writes_word (free w mem)
  rwa [List.map_id] at choice

theorem matchesWhole_word_iff : (inRow (letters w)).MatchesWhole t ↔ t = w := by
  induction w generalizing t with
  | nil => exact matchesWhole_empty_iff
  | cons c w ih =>
    have free : ∀ p ∈ letters w, p.isFree = true := by
      intro p mem
      obtain ⟨_, _, rfl⟩ := List.mem_map.mp mem
      rfl
    show (inRow (one (.single c) :: letters w)).MatchesWhole t ↔ _
    rw [matchesWhole_inRow_cons_iff rfl free]
    constructor
    · rintro ⟨u, v, rfl, first, rest⟩
      obtain ⟨d, rfl, same⟩ := matchesWhole_one_iff.mp first
      rw [ih.mp rest, CharSet.contains_single_iff.mp same]
      rfl
    · rintro rfl
      exact ⟨[c], w, rfl, matchesWhole_one_iff.mpr ⟨c, rfl, CharSet.contains_single_iff.mpr rfl⟩,
        ih.mpr rfl⟩

/-- What writes a choice is read, put between the two ends of a text, as the choice between
them. -/
theorem writes_anchoredText {u : Text} {ps : List Pattern} (h : WritesChoice .initial u ps) :
    WritesRow .initial (anchoredText u) [anchor .textStart, inChoice ps, anchor .textEnd] := by
  have start : Writes .initial ['^'] (anchor .textStart) := (writes_textStart rfl).writes
  have finish : Writes .initial ['$'] (anchor .textEnd) := (writes_textEnd rfl).writes
  have whole : anchoredText u = ['^'] ++ ((['(', '?', ':'] ++ (u ++ [')'])) ++ ['$']) := by
    have opening : "^(?:".toList = ['^', '(', '?', ':'] := by decide
    have closing : ")$".toList = [')', '$'] := by decide
    rw [anchoredText, opening, closing]
    simp only [List.append_assoc, List.cons_append, List.nil_append]
  rw [whole]
  exact .cons start (.cons (h.inGroup rfl).writes finish.row (by decide)) (by simp)

/-- Words as alternatives, put between the two ends of a text, are found in these words and in no
other text. -/
theorem isFoundIn_joined {ws : List Text} (ne : ws ≠ []) (free : ∀ w ∈ ws, ∀ c ∈ w, c ∉ reserved) :
    ∃ piece, parse? (anchoredText (joined ws)) = some piece ∧
      ∀ t, piece.pattern.isFoundIn t = decide (t ∈ ws) := by
  obtain ⟨piece, read, pattern⟩ := (writes_anchoredText (writes_joined ne free)).choice.parse?
  refine ⟨piece, read, fun t => ?_⟩
  have filled : (ws.map fun w => inRow (letters w)) ≠ [] := by simpa using ne
  rw [Bool.eq_iff_iff, isFoundIn_iff, pattern, decide_eq_true_iff]
  refine (found_ends_iff [_]).trans ((matchesWhole_inChoice_iff filled).trans ⟨?_, fun word => ?_⟩)
  · rintro ⟨p, mem, whole⟩
    obtain ⟨w, word, rfl⟩ := List.mem_map.mp mem
    exact matchesWhole_word_iff.mp whole ▸ word
  · exact ⟨_, List.mem_map_of_mem word, matchesWhole_word_iff.mpr rfl⟩

end Pattern

end Criteria
