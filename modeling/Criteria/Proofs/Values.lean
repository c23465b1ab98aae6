import Criteria.Proofs.Parsing

/-!
# What a filter holds

A filter is made from its parts or parsed from a text, and both trim the parts
and read the control values once. This module says what can be relied on after
that.

* `split_apart`, `split_length`: the fields of a text hold no separator, and there
  is one more of them than separators.
* `Shape`: what the control values look like, by the comparator and its controls.
* `valuesFor_shape`: control values that can be read have that shape.
* `obtained_iff`: the filters that can be obtained are those whose parts are
  trimmed, whose subject is not empty, and whose values are those of the controls.
-/

namespace Criteria

namespace Text

/-! ## Fields -/

theorem split_ne_nil (separator : Char) (t : Text) : split separator t ≠ [] := by
  cases t with
  | nil => exact List.cons_ne_nil _ _
  | cons c t =>
    rw [split]
    split
    · exact List.cons_ne_nil _ _
    · split <;> exact List.cons_ne_nil _ _

/-- A separator ends the empty field before it; any other character opens the first field. -/
theorem split_cons (separator c : Char) (t : Text) : ∃ field more,
    split separator t = field :: more ∧
      split separator (c :: t) =
        if c = separator then [] :: field :: more else (c :: field) :: more := by
  obtain ⟨field, more, h⟩ := List.exists_cons_of_ne_nil (split_ne_nil separator t)
  exact ⟨field, more, h, by rw [split, h]⟩

theorem split_apart {separator : Char} {t : Text} :
    ∀ field ∈ split separator t, separator ∉ field := by
  induction t with
  | nil =>
    intro field hf
    rw [List.mem_singleton.mp hf]
    exact List.not_mem_nil
  | cons c t ih =>
    obtain ⟨first, more, h, split⟩ := split_cons separator c t
    rw [h] at ih
    rw [split]
    intro field hf
    split at hf
    next =>
      rcases List.mem_cons.mp hf with rfl | hf
      · exact List.not_mem_nil
      · exact ih field hf
    next other =>
      rcases List.mem_cons.mp hf with rfl | hf
      · intro mem
        rcases List.mem_cons.mp mem with rfl | mem
        · exact other rfl
        · exact ih first List.mem_cons_self mem
      · exact ih field (List.mem_cons_of_mem first hf)

theorem split_length (separator : Char) (t : Text) :
    (split separator t).length = t.count separator + 1 := by
  induction t with
  | nil => rfl
  | cons c t ih =>
    obtain ⟨first, more, h, split⟩ := split_cons separator c t
    rw [h] at ih
    rw [split, List.count_cons]
    split
    next same => simp [same, ← ih]
    next other => simp [other, ← ih]

end Text

namespace Controls

/-! ## Entries -/

theorem mem_of_mem_scalar {c : Char} {t : Text} (h : c ∈ scalar t) : c ∈ t :=
  Text.mem_of_mem_trim (Text.mem_of_mem_unwrap h)

theorem scalar_entries_apart {inner : Text} :
    ∀ v ∈ (entries inner).map scalar, '|' ∉ v := by
  intro v hv mem
  obtain ⟨entry, he, rfl⟩ := List.mem_map.mp hv
  exact Text.split_apart entry (List.mem_filter.mp he).1 (mem_of_mem_scalar mem)

theorem entries_length_le (inner : Text) : (entries inner).length ≤ inner.count '|' + 1 := by
  calc
    (entries inner).length ≤ (Text.split '|' (Text.trim inner)).length := List.length_filter_le _ _
    _ = (Text.trim inner).count '|' + 1 := Text.split_length _ _
    _ ≤ inner.count '|' + 1 := Nat.succ_le_succ (Text.count_trim_le _ _)

theorem interior?_count_le {k inner : Text} (h : interior? k = some inner) :
    inner.count '|' ≤ k.count '|' := by
  have trimmed := Text.count_trim_le '|' k
  rw [Text.inside?_eq_some h, List.count_cons, List.count_append] at trimmed
  omega

theorem readList_ok_iff {k : Text} {vs : List Text} :
    (readList k).result = .ok vs ↔
      ∃ inner, interior? k = some inner ∧ vs = (entries inner).map scalar := by
  unfold readList
  cases interior? k with
  | none => exact ⟨fun h => (nomatch h), fun ⟨_, h, _⟩ => (nomatch h)⟩
  | some inner =>
    constructor
    · intro h
      cases h
      exact ⟨inner, rfl, rfl⟩
    · rintro ⟨_, h, rfl⟩
      cases h
      rfl

theorem asBounds_ok_iff {k : Text} {vs ws : List Text} :
    asBounds k ws = .ok vs ↔ vs = ws ∧ vs.length = 2 := by
  unfold asBounds
  split
  next two =>
    constructor
    · intro h
      cases h
      exact ⟨rfl, two⟩
    · rintro ⟨rfl, _⟩
      rfl
  next other =>
    refine ⟨fun h => (nomatch h), ?_⟩
    rintro ⟨rfl, two⟩
    exact absurd two other

theorem readRange_ok_iff {k : Text} {vs : List Text} :
    (readRange k).result = .ok vs ↔
      ∃ inner, interior? k = some inner ∧ vs = (entries inner).map scalar ∧ vs.length = 2 := by
  unfold readRange
  cases interior? k with
  | none => exact ⟨fun h => (nomatch h), fun ⟨_, h, _⟩ => (nomatch h)⟩
  | some inner =>
    constructor
    · intro h
      exact ⟨inner, rfl, asBounds_ok_iff.mp h⟩
    · rintro ⟨_, h, read⟩
      cases h
      exact asBounds_ok_iff.mpr read

/-! ## Values by comparator -/

/-- What the control values of a comparator look like. -/
structure Shape (c : Comparator) (k : Text) (values : List Text) : Prop where
  unread : c.arity = .none ∨ c.arity = .scalar → values = []
  bounds : c = .between → values.length = 2
  single : c = .contain → isBracketed k = false → values.length = 1
  bracketed : c ∈ [Comparator.is, .isNot, .isIn, .notIn] → isBracketed k = true
  entries : c ∈ [Comparator.is, .isNot, .isIn, .notIn] ∨ c = .contain ∧ isBracketed k = true →
    (∀ v ∈ values, '|' ∉ v) ∧ values.length ≤ k.count '|' + 1

theorem valuesFor_unread {c : Comparator} (h : c.arity = .none ∨ c.arity = .scalar) (k : Text) :
    (valuesFor c k).result = .ok [] := by
  unfold valuesFor
  cases h with
  | inl none => rw [none]; rfl
  | inr scalar => rw [scalar]; rfl

theorem valuesFor_single {k : Text} (h : isBracketed k = false) :
    valuesFor .contain k = (readScalar k).map fun value => .ok [value] := by
  unfold valuesFor
  exact if_pos ⟨rfl, by simp [h]⟩

theorem valuesFor_list {c : Comparator} {k : Text} (arity : c.arity = .list)
    (h : c ≠ .contain ∨ isBracketed k = true) : valuesFor c k = readList k := by
  unfold valuesFor
  rw [arity]
  refine if_neg ?_
  rintro ⟨contain, unbracketed⟩
  rcases h with other | bracketed
  · exact other contain
  · rw [bracketed] at unbracketed
    cases unbracketed

theorem arity_of_mem_list : ∀ c ∈ [Comparator.is, .isNot, .isIn, .notIn],
    c.arity = .list ∧ c ≠ .contain := by decide

theorem valuesFor_shape {c : Comparator} {k : Text} {vs : List Text}
    (h : (valuesFor c k).result = .ok vs) : Shape c k vs where
  unread unread := by
    rw [valuesFor_unread unread] at h
    cases h
    rfl
  bounds := by
    rintro rfl
    obtain ⟨_, _, _, two⟩ := readRange_ok_iff.mp h
    exact two
  single := by
    rintro rfl unbracketed
    rw [valuesFor_single unbracketed] at h
    cases h
    rfl
  bracketed mem := by
    obtain ⟨arity, other⟩ := arity_of_mem_list c mem
    obtain ⟨inner, hi⟩ := valuesFor_list_bracketed arity other h
    exact Option.isSome_of_eq_some hi
  entries list := by
    have read : valuesFor c k = readList k := by
      rcases list with mem | ⟨rfl, bracketed⟩
      · obtain ⟨arity, other⟩ := arity_of_mem_list c mem
        exact valuesFor_list arity (.inl other)
      · exact valuesFor_list rfl (.inr bracketed)
    rw [read] at h
    obtain ⟨inner, hi, rfl⟩ := readList_ok_iff.mp h
    refine ⟨scalar_entries_apart, ?_⟩
    rw [List.length_map]
    exact Nat.le_trans (entries_length_le inner) (Nat.succ_le_succ (interior?_count_le hi))

end Controls

namespace Filter

/-- How a filter comes about. A filter that was stored is stored as a text and parsed again. -/
inductive Obtained (f : Filter) : Prop
  | made {s k : Text} {c : Comparator} : (make s c k).result = .ok f → Obtained f
  | parsed {t : Text} : (parse t).result = .ok f → Obtained f

theorem obtained_iff_wellFormed {f : Filter} : f.Obtained ↔ f.WellFormed := by
  constructor
  · rintro (h | h)
    · exact make_wellFormed h
    · obtain ⟨_, _, _, _, made⟩ := parse_ok_iff.mp h
      exact make_wellFormed made
  · exact fun wellFormed => .made wellFormed.make_eq

/-- The filters that can be obtained are those with trimmed parts, a subject, and the values
of their controls; and these values have the shape that the comparator asks for. -/
theorem obtained_iff (f : Filter) :
    (f.Obtained ↔ f.subject ≠ [] ∧ Text.trim f.subject = f.subject ∧
      Text.trim f.controls = f.controls ∧
      (Controls.valuesFor f.comparator f.controls).result = .ok f.values) ∧
    (f.Obtained → Controls.Shape f.comparator f.controls f.values) := by
  constructor
  · rw [obtained_iff_wellFormed]
    constructor
    · exact fun h => ⟨h.subject_ne, h.subject_trim, h.controls_trim, h.values_read⟩
    · exact fun ⟨ne, subject, controls, values⟩ => ⟨ne, subject, controls, values⟩
  · exact fun obtained =>
      Controls.valuesFor_shape (obtained_iff_wellFormed.mp obtained).values_read

theorem obtained_iff_in : ∃ f : Filter, (make " x ".toList .isIn " [a||\"b\"] ".toList).result = .ok f ∧
    f.Obtained ∧ Text.trim f.controls = f.controls ∧
      (∀ v ∈ f.values, '|' ∉ v) ∧ f.values.length ≤ f.controls.count '|' + 1 := by
  have made : (make " x ".toList .isIn " [a||\"b\"] ".toList).result =
      .ok ⟨"x".toList, .isIn, "[a||\"b\"]".toList, ["a".toList, "b".toList]⟩ := rfl
  have obtained := Obtained.made made
  have parts := (obtained_iff _).1.mp obtained
  have shape := (obtained_iff _).2 obtained
  exact ⟨_, made, obtained, parts.2.2.1, shape.entries (.inl (by decide))⟩

end Filter

end Criteria
