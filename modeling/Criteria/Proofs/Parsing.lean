import Criteria.Filter
import Criteria.Proofs.Operator

/-!
# What makes a filter

A filter comes from its parts (`Filter.make`) or from a text (`Filter.parse`).
This module says when either gives a filter, and which.

* `make_ok_iff`: the subject is not blank, and the control values can be read.
* `parse_ok_iff`: the text splits, its subject is not blank, its comparator is in
  the catalog, and its parts make a filter.
* `parse_unknown_iff`: the only text that can name an unknown comparator is one
  that splits.
-/

namespace Criteria

namespace Controls

/-- Reading control values never fails for want of a comparator. -/
theorem valuesFor_not_unknown (c : Comparator) (k u : Text) :
    (valuesFor c k).result ≠ .error (.unknownComparator u) := by
  have list : ∀ k, (readList k).result ≠ .error (.unknownComparator u) := by
    intro k
    unfold readList
    cases interior? k <;> exact fun h => nomatch h
  have range : ∀ k, (readRange k).result ≠ .error (.unknownComparator u) := by
    intro k
    unfold readRange
    cases interior? k with
    | none => exact fun h => nomatch h
    | some inner =>
      simp only [Traced.map, asBounds]
      split <;> exact fun h => nomatch h
  unfold valuesFor
  cases c.arity with
  | none => exact fun h => nomatch h
  | scalar => exact fun h => nomatch h
  | range => exact range k
  | list =>
    dsimp only
    split
    · exact fun h => nomatch h
    · exact list k

/-- A comparator that takes a list, but for containment, takes its controls in brackets. -/
theorem valuesFor_list_bracketed {c : Comparator} {k : Text} {vs : List Text}
    (arity : c.arity = .list) (other : c ≠ .contain) (h : (valuesFor c k).result = .ok vs) :
    ∃ inner, interior? k = some inner := by
  unfold valuesFor readList at h
  rw [arity] at h
  dsimp only at h
  rw [if_neg fun both => other both.1] at h
  cases hk : interior? k with
  | none => rw [hk] at h; cases h
  | some inner => exact ⟨inner, rfl⟩

end Controls

namespace Filter

theorem make_ok_iff {s k : Text} {c : Comparator} {f : Filter} :
    (make s c k).result = .ok f ↔
      Text.trim s ≠ [] ∧ ∃ vs, (Controls.valuesFor c (Text.trim k)).result = .ok vs ∧
        f = ⟨Text.trim s, c, Text.trim k, vs⟩ := by
  unfold make
  dsimp only
  split
  next empty =>
    refine ⟨fun h => (nomatch h), fun h => ?_⟩
    exact absurd (List.isEmpty_iff.mp empty) h.1
  next some =>
    have ne : Text.trim s ≠ [] := fun h => some (List.isEmpty_iff.mpr h)
    rw [Traced.map]
    cases (Controls.valuesFor c (Text.trim k)).result with
    | error e => exact ⟨fun h => (nomatch h), fun ⟨_, _, h, _⟩ => (nomatch h)⟩
    | ok vs =>
      constructor
      · intro h
        cases h
        exact ⟨ne, vs, rfl, rfl⟩
      · rintro ⟨_, vs', h, rfl⟩
        cases h
        rfl

/-- What holds of every filter that was made from parts. -/
structure WellFormed (f : Filter) : Prop where
  subject_ne : f.subject ≠ []
  subject_trim : Text.trim f.subject = f.subject
  controls_trim : Text.trim f.controls = f.controls
  values_read : (Controls.valuesFor f.comparator f.controls).result = .ok f.values

theorem make_wellFormed {s k : Text} {c : Comparator} {f : Filter}
    (h : (make s c k).result = .ok f) : f.WellFormed := by
  obtain ⟨ne, vs, values, rfl⟩ := make_ok_iff.mp h
  exact ⟨ne, Text.trim_trim s, Text.trim_trim k, values⟩

namespace WellFormed

variable {f : Filter}

/-- A filter is what its own parts make. -/
theorem make_eq (h : f.WellFormed) : (make f.subject f.comparator f.controls).result = .ok f := by
  refine make_ok_iff.mpr ⟨?_, f.values, ?_, ?_⟩
  · rw [h.subject_trim]
    exact h.subject_ne
  · rw [h.controls_trim]
    exact h.values_read
  · rw [h.subject_trim, h.controls_trim]

theorem subject_firmEnd (h : f.WellFormed) : Text.FirmEnd f.subject :=
  h.subject_trim ▸ Text.trim_firmEnd f.subject

theorem controls_firmStart (h : f.WellFormed) : Text.FirmStart f.controls :=
  h.controls_trim ▸ Text.trim_firmStart f.controls

/-- The controls of a list, but for those of containment, open with a bracket. -/
theorem controls_bracketed (h : f.WellFormed) (arity : f.comparator.arity = .list)
    (other : f.comparator ≠ .contain) : f.controls.head? = some '[' := by
  obtain ⟨inner, hi⟩ := Controls.valuesFor_list_bracketed arity other h.values_read
  rw [Controls.interior?, h.controls_trim] at hi
  cases hk : f.controls with
  | nil => rw [hk] at hi; cases hi
  | cons c k =>
    rw [hk, Text.inside?] at hi
    split at hi
    next both =>
      rw [Bool.and_eq_true, decide_eq_true_eq] at both
      rw [both.1]
      rfl
    next => cases hi

end WellFormed

theorem make_not_unknown (s k u : Text) (c : Comparator) :
    (make s c k).result ≠ .error (.unknownComparator u) := by
  have values := Controls.valuesFor_not_unknown c (Text.trim k) u
  unfold make
  dsimp only
  split
  · exact fun h => nomatch h
  · rw [Traced.map]
    cases hv : (Controls.valuesFor c (Text.trim k)).result with
    | ok vs => exact fun h => nomatch h
    | error e =>
      intro h
      cases h
      exact values hv

/-- The result of parsing a text that splits into parts with some subject. -/
theorem parse_split {t : Text} {parts : Sentence} (h : Sentence.split? t = some parts)
    (subject : Text.trim parts.subject ≠ []) :
    parse t =
      match Comparator.find? parts.operator with
      | none => .quiet (.error (.unknownComparator (Text.trim parts.operator)))
      | some c => make parts.subject c parts.controls := by
  obtain ⟨p, q, r⟩ := parts
  obtain ⟨_, rest, rfl, _⟩ := Sentence.split?_eq_some_iff.mp h
  have text : Text.trim (p ++ rest) ≠ [] := Text.trim_ne_nil_of_append subject
  have filled {s : Text} (hs : s ≠ []) : ¬ s.isEmpty = true := fun e => hs (List.isEmpty_iff.mp e)
  unfold parse
  rw [if_neg (filled text), h]
  refine (if_neg (filled subject)).trans ?_
  unfold Comparator.lookup
  dsimp only
  cases Comparator.find? q <;> rfl

/-- Without parts, or without a subject, there is nothing but a malformed filter. -/
theorem parse_malformed {t : Text}
    (h : ∀ parts, Sentence.split? t = some parts → Text.trim parts.subject = []) :
    ∃ fault, (parse t).result = .error (.malformedFilter t fault) := by
  unfold parse
  split
  · exact ⟨_, rfl⟩
  · cases hs : Sentence.split? t with
    | none => exact ⟨_, rfl⟩
    | some parts =>
      dsimp only
      rw [if_pos (List.isEmpty_iff.mpr (h parts hs))]
      exact ⟨_, rfl⟩

/-- A text that parses to anything but a malformed filter splits, with some subject. -/
theorem split_of_parse {t : Text} {r : Except FilterError Filter} (h : (parse t).result = r)
    (other : ∀ fault, r ≠ .error (.malformedFilter t fault)) :
    ∃ parts, Sentence.split? t = some parts ∧ Text.trim parts.subject ≠ [] := by
  refine Classical.byContradiction fun none => ?_
  obtain ⟨fault, error⟩ := parse_malformed fun parts hs =>
    Classical.byContradiction fun subject => none ⟨parts, hs, subject⟩
  exact other fault (h.symm.trans error)

theorem parse_ok_iff {t : Text} {f : Filter} :
    (parse t).result = .ok f ↔
      ∃ parts c, Sentence.split? t = some parts ∧ Comparator.find? parts.operator = some c ∧
        (make parts.subject c parts.controls).result = .ok f := by
  constructor
  · intro h
    obtain ⟨parts, hs, subject⟩ := split_of_parse h fun _ e => nomatch e
    rw [parse_split hs subject] at h
    cases hc : Comparator.find? parts.operator with
    | none => rw [hc] at h; cases h
    | some c =>
      rw [hc] at h
      exact ⟨parts, c, hs, hc, h⟩
  · rintro ⟨parts, c, hs, hc, hm⟩
    rw [parse_split hs (make_ok_iff.mp hm).1, hc]
    exact hm

theorem parse_unknown_iff {t u : Text} :
    (parse t).result = .error (.unknownComparator u) ↔
      ∃ parts, Sentence.split? t = some parts ∧ Text.trim parts.subject ≠ [] ∧
        Comparator.find? parts.operator = none ∧ u = Text.trim parts.operator := by
  constructor
  · intro h
    obtain ⟨parts, hs, subject⟩ := split_of_parse h fun _ e => nomatch e
    rw [parse_split hs subject] at h
    cases hc : Comparator.find? parts.operator with
    | none =>
      rw [hc] at h
      cases h
      exact ⟨parts, hs, subject, hc, rfl⟩
    | some c =>
      rw [hc] at h
      exact absurd h (make_not_unknown _ _ _ _)
  · rintro ⟨parts, hs, subject, hc, rfl⟩
    rw [parse_split hs subject, hc]
    rfl

end Filter

end Criteria
