import Criteria.Proofs.Pattern.CharSet
import Criteria.Proofs.Pattern.Search

/-!
# Patterns as sets of texts

A pattern that asks nothing about the characters around a span matches texts, wherever they
stand. This module says which texts these are, one constructor at a time.

* `isFree`: no condition on a position.
* `spans_within_iff`: a free pattern describes a span of a text as it describes the text of the
  span alone.
* `matchesWhole_sequence_iff`, `matchesWhole_row_iff` and their like: the texts that each
  constructor matches.
* `found_ends_iff`: parts between the two ends of a text are found where they match all of it.
-/

namespace Criteria

namespace Pattern

/-- A pattern without conditions on positions. -/
def isFree : Pattern → Bool
  | empty | one _ => true
  | anchor _ => false
  | sequence p q | either p q => p.isFree && q.isFree
  | repeated p _ _ | group p => p.isFree

variable {p q : Pattern} {s : CharSet} {t u v w : Text} {i k : Nat}

theorem isFree_sequence (first : p.isFree = true) (second : q.isFree = true) :
    (sequence p q).isFree = true :=
  Bool.and_eq_true_iff.mpr ⟨first, second⟩

/-! ## Spans inside a longer text -/

theorem spans_empty_iff : empty.Spans t i k ↔ k = i ∧ i ≤ t.length := by
  constructor
  · intro span
    cases span with
    | empty le => exact ⟨rfl, le⟩
  · rintro ⟨rfl, le⟩
    exact .empty le

/-- Rows of copies are moved as the copies are. -/
theorem copies_within_iff {R S : Nat → Nat → Prop} {a n : Nat} (forward : ∀ i k, R i k → i ≤ k)
    (forwardS : ∀ i k, S i k → i ≤ k)
    (same : ∀ i k, k ≤ n → (S (a + i) (a + k) ↔ R i k)) (m : Nat) (le : k ≤ n) :
    Copies S m (a + i) (a + k) ↔ Copies R m i k := by
  induction m generalizing i with
  | zero => exact Nat.add_left_cancel_iff
  | succ m ih =>
    constructor
    · rintro ⟨j, step, rest⟩
      have ahead := forwardS _ _ step
      have behind := (rest.shorten forwardS).1
      obtain ⟨j, rfl⟩ := Nat.exists_eq_add_of_le (Nat.le_trans (Nat.le_add_right a i) ahead)
      exact ⟨j, (same i j (by omega)).mp step, ih.mp rest⟩
    · rintro ⟨j, step, rest⟩
      have behind := (rest.shorten forward).1
      exact ⟨a + j, (same i j (by omega)).mpr step, ih.mpr rest⟩

/-- A free pattern looks at the characters of a span only. -/
theorem spans_within_iff (free : p.isFree = true) (u w : Text) (le : k ≤ v.length) :
    p.Spans (u ++ v ++ w) (u.length + i) (u.length + k) ↔ p.Spans v i k := by
  have length : (u ++ v ++ w).length = u.length + v.length + w.length := by
    rw [List.length_append, List.length_append]
  induction p generalizing i k with
  | empty =>
    rw [spans_empty_iff, spans_empty_iff, length]
    omega
  | anchor => cases free
  | one s =>
    have inside (h : k = i + 1) : (u ++ v ++ w)[u.length + i]? = v[i]? := by
      rw [List.getElem?_append_left (by rw [List.length_append]; omega),
        List.getElem?_append_right (Nat.le_add_right _ _), Nat.add_sub_cancel_left]
    rw [spans_one_iff, spans_one_iff, Nat.add_assoc, Nat.add_left_cancel_iff]
    exact and_congr_right fun next => by rw [inside next]
  | sequence p q ihp ihq =>
    obtain ⟨freeP, freeQ⟩ := Bool.and_eq_true_iff.mp free
    rw [spans_sequence_iff, spans_sequence_iff]
    constructor
    · rintro ⟨j, first, second⟩
      have ahead := first.bounds.1
      have behind := second.bounds.1
      obtain ⟨j, rfl⟩ := Nat.exists_eq_add_of_le (Nat.le_trans (Nat.le_add_right u.length i) ahead)
      exact ⟨j, (ihp freeP (by omega)).mp first, (ihq freeQ le).mp second⟩
    · rintro ⟨j, first, second⟩
      have behind := second.bounds.1
      exact ⟨u.length + j, (ihp freeP (by omega)).mpr first, (ihq freeQ le).mpr second⟩
  | either p q ihp ihq =>
    obtain ⟨freeP, freeQ⟩ := Bool.and_eq_true_iff.mp free
    rw [spans_either_iff, spans_either_iff]
    exact or_congr (ihp freeP le) (ihq freeQ le)
  | group p ih =>
    rw [spans_group_iff, spans_group_iff]
    exact ih free le
  | repeated p least extra ih =>
    rw [spans_repeated_iff, spans_repeated_iff, length]
    have copies (m : Nat) := copies_within_iff (R := p.Spans v) (S := p.Spans (u ++ v ++ w))
      (fun _ _ span => span.bounds.1) (fun _ _ span => span.bounds.1)
      (fun _ _ below => ih free below) (i := i) m le
    simp only [copies]
    refine and_congr_left fun ⟨more, _, row⟩ => ?_
    have ahead := (row.shorten fun _ _ span => span.bounds.1).1
    omega

/-- A text in the midst of another one is matched there as it is alone. -/
theorem spans_middle_iff (free : p.isFree = true) (u v w : Text) :
    p.Spans (u ++ v ++ w) u.length (u.length + v.length) ↔ p.MatchesWhole v :=
  spans_within_iff free u w (i := 0) (Nat.le_refl _)

/-- Two places in a text cut it into three. -/
theorem exists_cut (ahead : i ≤ k) (inside : k ≤ t.length) :
    ∃ u v w, t = u ++ v ++ w ∧ i = u.length ∧ k = u.length + v.length := by
  have front : (t.take i).length = i := List.length_take_of_le (Nat.le_trans ahead inside)
  have middle : ((t.take k).drop i).length = k - i := by
    rw [List.length_drop, List.length_take_of_le inside]
  refine ⟨t.take i, (t.take k).drop i, t.drop k, ?_, front.symm, by omega⟩
  have before : t.take i = (t.take k).take i := by rw [List.take_take, Nat.min_eq_left ahead]
  rw [before, List.take_append_drop, List.take_append_drop]

/-! ## The texts that are matched -/

theorem matchesWhole_empty_iff : empty.MatchesWhole t ↔ t = [] := by
  rw [MatchesWhole, spans_empty_iff, and_iff_left (Nat.zero_le _), List.length_eq_zero_iff]

theorem matchesWhole_one_iff : (one s).MatchesWhole t ↔ ∃ c, t = [c] ∧ s.contains c = true := by
  rw [MatchesWhole, spans_one_iff]
  constructor
  · rintro ⟨length, c, found, mem⟩
    obtain ⟨d, rfl⟩ := List.length_eq_one_iff.mp length
    cases found
    exact ⟨c, rfl, mem⟩
  · rintro ⟨c, rfl, mem⟩
    exact ⟨rfl, c, rfl, mem⟩

theorem matchesWhole_either_iff :
    (either p q).MatchesWhole t ↔ p.MatchesWhole t ∨ q.MatchesWhole t :=
  spans_either_iff

theorem matchesWhole_group_iff : (group p).MatchesWhole t ↔ p.MatchesWhole t := spans_group_iff

theorem matchesWhole_sequence_iff (freeP : p.isFree = true) (freeQ : q.isFree = true) :
    (sequence p q).MatchesWhole t ↔ ∃ u v, t = u ++ v ∧ p.MatchesWhole u ∧ q.MatchesWhole v := by
  have cut (u v : Text) : (p.Spans (u ++ v) 0 u.length ↔ p.MatchesWhole u) ∧
      (q.Spans (u ++ v) u.length (u ++ v).length ↔ q.MatchesWhole v) := by
    have front := spans_middle_iff freeP [] u v
    have back := spans_middle_iff freeQ u v []
    rw [List.length_nil, Nat.zero_add, List.nil_append] at front
    rw [List.append_nil, ← List.length_append] at back
    exact ⟨front, back⟩
  rw [MatchesWhole, spans_sequence_iff]
  constructor
  · rintro ⟨j, first, second⟩
    have split := List.take_append_drop j t
    have length := List.length_take_of_le first.bounds.2
    obtain ⟨front, back⟩ := cut (t.take j) (t.drop j)
    rw [split, length] at front back
    exact ⟨t.take j, t.drop j, split.symm, front.mp first, back.mp second⟩
  · rintro ⟨u, v, rfl, first, second⟩
    exact ⟨u.length, (cut u v).1.mpr first, (cut u v).2.mpr second⟩

/-- Copies of one character in a row are a text of characters of the set. -/
theorem copies_one_iff {n : Nat} : Copies ((one s).Spans t) n i k ↔
    k = i + n ∧ ∀ j, i ≤ j → j < k → ∃ c, t[j]? = some c ∧ s.contains c = true := by
  induction n generalizing i with
  | zero =>
    constructor
    · rintro rfl
      exact ⟨rfl, fun j low high => absurd high (Nat.not_lt.mpr low)⟩
    · rintro ⟨rfl, _⟩
      rfl
  | succ n ih =>
    constructor
    · rintro ⟨j, span, rest⟩
      obtain ⟨rfl, here⟩ := spans_one_iff.mp span
      obtain ⟨rfl, later⟩ := ih.mp rest
      refine ⟨by omega, fun j low high => ?_⟩
      rcases Nat.eq_or_lt_of_le low with rfl | further
      · exact here
      · exact later j further high
    · rintro ⟨rfl, all⟩
      refine ⟨i + 1, spans_one_iff.mpr ⟨rfl, all i (Nat.le_refl _) (by omega)⟩, ih.mpr ⟨by omega, ?_⟩⟩
      exact fun j low high => all j (Nat.le_of_succ_le low) high

theorem forall_getElem?_iff {P : Char → Prop} :
    (∀ j, 0 ≤ j → j < t.length → ∃ c, t[j]? = some c ∧ P c) ↔ ∀ c ∈ t, P c := by
  constructor
  · intro all c mem
    obtain ⟨j, found⟩ := List.mem_iff_getElem?.mp mem
    obtain ⟨inside, _⟩ := List.getElem?_eq_some_iff.mp found
    obtain ⟨d, same, holds⟩ := all j (Nat.zero_le j) inside
    exact Option.some.inj (found.symm.trans same) ▸ holds
  · intro all j _ inside
    exact ⟨t[j], List.getElem?_eq_getElem inside, all _ (List.getElem_mem inside)⟩

/-- A repeated set matches the texts of its characters that are neither too short nor too
long. -/
theorem matchesWhole_row_iff {least : Nat} {extra : Option Nat} :
    (repeated (one s) least extra).MatchesWhole t ↔ least ≤ t.length ∧
      (∀ most ∈ extra, t.length ≤ least + most) ∧ ∀ c ∈ t, s.contains c = true := by
  rw [MatchesWhole, spans_repeated_iff, and_iff_right (Nat.zero_le _)]
  simp only [copies_one_iff, forall_getElem?_iff, Nat.zero_add]
  constructor
  · rintro ⟨more, allowed, length, all⟩
    exact ⟨by omega, fun most given => by have := allowed most given; omega, all⟩
  · rintro ⟨enough, allowed, all⟩
    exact ⟨t.length - least, fun most given => by have := allowed most given; omega, by omega, all⟩

/-- What may be left out. -/
theorem matchesWhole_optional_iff :
    (repeated p 0 (some 1)).MatchesWhole t ↔ t = [] ∨ p.MatchesWhole t := by
  rw [MatchesWhole, spans_repeated_iff, and_iff_right (Nat.zero_le _)]
  constructor
  · rintro ⟨more, allowed, copies⟩
    have few := allowed 1 rfl
    obtain rfl | rfl : more = 0 ∨ more = 1 := by omega
    · exact .inl (List.length_eq_zero_iff.mp (show 0 = t.length from copies).symm)
    · obtain ⟨j, span, rfl⟩ := copies
      exact .inr span
  · rintro (rfl | whole)
    · exact ⟨0, fun _ _ => Nat.zero_le _, rfl⟩
    · exact ⟨1, fun _ given => by cases given; exact Nat.le_refl _, t.length, whole, rfl⟩

/-! ## Several parts -/

/-- Parts combined from the last one on, as they are read. -/
def nested (combine : Pattern → Pattern → Pattern) : List Pattern → Pattern
  | [] => .empty
  | [p] => p
  | p :: q :: rest => combine p (nested combine (q :: rest))

/-- Parts one behind the other. -/
def inRow (ps : List Pattern) : Pattern := nested .sequence ps

/-- Parts of which one is chosen. -/
def inChoice (ps : List Pattern) : Pattern := nested .either ps

variable {ps qs : List Pattern}

theorem isFree_nested {combine : Pattern → Pattern → Pattern}
    (both : ∀ p q, (combine p q).isFree = (p.isFree && q.isFree))
    (free : ∀ p ∈ ps, p.isFree = true) : (nested combine ps).isFree = true := by
  induction ps with
  | nil => rfl
  | cons p ps ih =>
    obtain ⟨first, later⟩ := List.forall_mem_cons.mp free
    cases ps with
    | nil => exact first
    | cons q rest => exact (both p _).trans (Bool.and_eq_true_iff.mpr ⟨first, ih later⟩)

theorem isFree_inRow (free : ∀ p ∈ ps, p.isFree = true) : (inRow ps).isFree = true :=
  isFree_nested (fun _ _ => rfl) free

theorem isFree_inChoice (free : ∀ p ∈ ps, p.isFree = true) : (inChoice ps).isFree = true :=
  isFree_nested (fun _ _ => rfl) free

theorem spans_inChoice_iff (ne : ps ≠ []) :
    (inChoice ps).Spans t i k ↔ ∃ p ∈ ps, p.Spans t i k := by
  induction ps with
  | nil => exact absurd rfl ne
  | cons p ps ih =>
    cases ps with
    | nil => simp [inChoice, nested]
    | cons q rest =>
      show (either p (inChoice (q :: rest))).Spans t i k ↔ _
      rw [spans_either_iff, ih (List.cons_ne_nil _ _)]
      simp

theorem matchesWhole_inChoice_iff (ne : ps ≠ []) :
    (inChoice ps).MatchesWhole t ↔ ∃ p ∈ ps, p.MatchesWhole t :=
  spans_inChoice_iff ne

theorem exists_empty_then_iff :
    (∃ j, empty.Spans t i j ∧ p.Spans t j k) ↔ p.Spans t i k := by
  constructor
  · rintro ⟨j, stay, span⟩
    obtain ⟨rfl, _⟩ := spans_empty_iff.mp stay
    exact span
  · exact fun span => ⟨i, .empty (Nat.le_trans span.bounds.1 span.bounds.2), span⟩

theorem spans_inRow_cons_iff :
    (inRow (p :: ps)).Spans t i k ↔ ∃ j, p.Spans t i j ∧ (inRow ps).Spans t j k := by
  cases ps with
  | nil =>
    constructor
    · exact fun span => ⟨k, span, .empty span.bounds.2⟩
    · rintro ⟨j, span, stay⟩
      obtain ⟨rfl, _⟩ := spans_empty_iff.mp stay
      exact span
  | cons q rest => exact spans_sequence_iff

theorem spans_inRow_append_iff :
    (inRow (ps ++ qs)).Spans t i k ↔ ∃ j, (inRow ps).Spans t i j ∧ (inRow qs).Spans t j k := by
  induction ps generalizing i with
  | nil => exact exists_empty_then_iff.symm
  | cons p ps ih =>
    rw [List.cons_append, spans_inRow_cons_iff]
    constructor
    · rintro ⟨j, first, rest⟩
      obtain ⟨j', middle, last⟩ := ih.mp rest
      exact ⟨j', spans_inRow_cons_iff.mpr ⟨j, first, middle⟩, last⟩
    · rintro ⟨j', before, last⟩
      obtain ⟨j, first, middle⟩ := spans_inRow_cons_iff.mp before
      exact ⟨j, first, ih.mpr ⟨j', middle, last⟩⟩

theorem matchesWhole_inRow_cons_iff (freeP : p.isFree = true) (free : ∀ p ∈ ps, p.isFree = true) :
    (inRow (p :: ps)).MatchesWhole t ↔
      ∃ u v, t = u ++ v ∧ p.MatchesWhole u ∧ (inRow ps).MatchesWhole v := by
  rw [← matchesWhole_sequence_iff freeP (isFree_inRow free), MatchesWhole, MatchesWhole,
    spans_inRow_cons_iff, spans_sequence_iff]

/-! ## The ends of a text -/

theorem spans_textStart_iff : (anchor .textStart).Spans t i k ↔ i = 0 ∧ k = 0 := by
  rw [spans_anchor_iff]
  constructor
  · rintro ⟨rfl, le, holds⟩
    suffices first : k = 0 from ⟨first, first⟩
    cases k with
    | zero => rfl
    | succ k =>
      have inside : k < t.length := le
      simp [Anchor.holds, charBefore, inside] at holds
  · rintro ⟨rfl, rfl⟩
    exact ⟨rfl, Nat.zero_le _, rfl⟩

theorem spans_textEnd_iff : (anchor .textEnd).Spans t i k ↔ i = t.length ∧ k = t.length := by
  rw [spans_anchor_iff]
  constructor
  · rintro ⟨rfl, le, holds⟩
    suffices last : k = t.length from ⟨last, last⟩
    have outside : t.length ≤ k := by simpa [Anchor.holds] using holds
    omega
  · rintro ⟨rfl, rfl⟩
    exact ⟨rfl, Nat.le_refl _, by simp [Anchor.holds]⟩

/-- Parts between the two ends of a text are found where they match the whole text. -/
theorem found_ends_iff (ps : List Pattern) :
    Found (inRow (anchor .textStart :: (ps ++ [anchor .textEnd]))) t ↔ (inRow ps).MatchesWhole t := by
  have row {i k : Nat} : (inRow (anchor .textStart :: (ps ++ [anchor .textEnd]))).Spans t i k ↔
      i = 0 ∧ k = t.length ∧ (inRow ps).MatchesWhole t := by
    rw [spans_inRow_cons_iff]
    simp only [spans_inRow_append_iff]
    constructor
    · rintro ⟨_, start, j, inner, finish⟩
      obtain ⟨rfl, rfl⟩ := spans_textStart_iff.mp start
      obtain ⟨rfl, rfl⟩ := spans_textEnd_iff.mp finish
      exact ⟨rfl, rfl, inner⟩
    · rintro ⟨rfl, rfl, inner⟩
      exact ⟨0, spans_textStart_iff.mpr ⟨rfl, rfl⟩, t.length, inner, spans_textEnd_iff.mpr ⟨rfl, rfl⟩⟩
  unfold Found
  simp only [row]
  constructor
  · rintro ⟨_, _, _, _, whole⟩
    exact whole
  · exact fun whole => ⟨0, t.length, rfl, rfl, whole⟩

end Pattern

end Criteria
