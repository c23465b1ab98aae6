import Criteria.Proofs.Evaluation
import Criteria.Proofs.RoundTrip

/-!
# Lists of quoted items

Any items without a separator can be written into a filter text: each item is put
in double quotes, and the items in brackets. Parsing gives back the items as they
were, whatever blanks, quotes and brackets they hold.

* `scalar_quoted`: quotes guard an item from being trimmed, and they are taken away
  once.
* `readList_quoted`: quoted items are read as the values of a list.
* `PlainSubject.split?_eq_none`: no comparator stands in a subject without blanks and
  without the marks that symbols are made of.
* `parse_quoted_list`: so a filter text with a list of quoted items is parsed to these
  items, and `in` holds of a quoted literal exactly if it is one of them.
-/

namespace Criteria

namespace Controls

open Text

/-- An item in double quotes. -/
def quoted (item : Text) : Text := '"' :: (item ++ ['"'])

theorem trim_quoted (item : Text) : trim (quoted item) = quoted item :=
  trim_enclosed (by decide) (by decide) item

theorem scalar_quoted (item : Text) : scalar (quoted item) = item := by
  rw [scalar, trim_quoted]
  exact unwrap_enclosed '"' item

theorem separator_not_mem_quoted {item : Text} (apart : '|' ∉ item) : '|' ∉ quoted item := by
  simp [quoted, apart]

theorem readList_quoted {items : List Text} (apart : ∀ item ∈ items, '|' ∉ item) :
    (readList (listed (items.map quoted))).result = .ok items := by
  have filled : ∀ t ∈ items.map quoted, trim t ≠ [] := by
    intro t mem
    obtain ⟨item, _, rfl⟩ := List.mem_map.mp mem
    rw [trim_quoted]
    exact List.cons_ne_nil _ _
  have apartQuoted : ∀ t ∈ items.map quoted, '|' ∉ t := by
    intro t mem
    obtain ⟨item, inItems, rfl⟩ := List.mem_map.mp mem
    exact separator_not_mem_quoted (apart item inItems)
  have unquoted : (items.map quoted).map scalar = items := by
    rw [List.map_map]
    exact (List.map_congr_left fun item _ => scalar_quoted item).trans (List.map_id items)
  rw [readList_listed filled apartQuoted, unquoted]

end Controls

namespace Sentence

open Text Spelling

/-! ## Subjects without a comparator -/

/-- The marks of which every symbol of the catalog holds one. -/
def marks : List Char := ['=', '<', '>']

theorem symbols_marked :
    ∀ a ∈ spellings, isWord a = false → a.any (marks.contains ·) = true := by decide

theorem mark_range {m : Char} (mark : m ∈ marks) : 32 < m.toNat ∧ m.toNat < 65 := by
  have range : marks.all (fun m => 32 < m.toNat && m.toNat < 65) = true := by decide
  simpa using List.all_eq_true.mp range m mark

theorem Spelt.exists_mem {a x : Text} (h : Spelt a x) {l : Char} (mem : l ∈ a) (hl : l ≠ ' ') :
    ∃ c ∈ x, sameLetter l c = true := by
  induction h with
  | nil => cases mem
  | @letter m c a x _ same _ ih =>
    cases List.mem_cons.mp mem with
    | inl first => exact ⟨c, List.mem_cons_self, first ▸ same⟩
    | inr later =>
      obtain ⟨d, inText, same⟩ := ih later
      exact ⟨d, List.mem_cons_of_mem c inText, same⟩
  | @gap g a x _ _ _ ih =>
    obtain ⟨d, inText, same⟩ := ih ((List.mem_cons.mp mem).resolve_left hl)
    exact ⟨d, List.mem_append_right g inText, same⟩

/-- A symbol that is written in a text leaves one of its marks there. -/
theorem Spelt.exists_mark {a x : Text} (h : Spelt a x) (mem : a ∈ spellings)
    (symbol : isWord a = false) : ∃ c ∈ x, c ∈ marks := by
  obtain ⟨l, inSpelling, mark⟩ := List.any_eq_true.mp (symbols_marked a mem symbol)
  have mark : l ∈ marks := List.contains_iff_mem.mp mark
  have range := mark_range mark
  have space : l ≠ ' ' := fun same => absurd range.1 (by rw [same]; decide)
  obtain ⟨c, inText, same⟩ := exists_mem h inSpelling space
  cases sameLetter_iff.mp same with
  | inl lower =>
    have low := (mark_range mark).2
    exact ⟨c, inText, LetterCase.eq_of_toLower lower (by omega) ▸ mark⟩
  | inr long => exact absurd range.2 (by rw [long.1]; decide)

/-- A subject that is one word, with no mark behind its first character. -/
structure PlainSubject (s : Text) : Prop where
  ne_nil : s ≠ []
  unbroken : ∀ c ∈ s, isBlank c = false
  unmarked : ∀ c ∈ s.tail, c ∉ marks

instance (s : Text) : Decidable (PlainSubject s) :=
  decidable_of_iff
    (s ≠ [] ∧ s.all (!isBlank ·) = true ∧ s.tail.all (!marks.contains ·) = true)
    ⟨fun ⟨ne, unbroken, unmarked⟩ => ⟨ne, by simpa using unbroken, by simpa using unmarked⟩,
      fun plain => ⟨plain.ne_nil, by simpa using plain.unbroken, by simpa using plain.unmarked⟩⟩

namespace PlainSubject

variable {s : Text}

theorem trim_eq (h : PlainSubject s) : trim s = s := trim_of_unbroken h.unbroken

theorem blanks_eq_nil (h : PlainSubject s) {b : Text} (blank : AllBlank b) (part : b <:+: s) :
    b = [] := by
  cases b with
  | nil => rfl
  | cons c b =>
    have firm := h.unbroken c (part.subset List.mem_cons_self)
    rw [blank c List.mem_cons_self] at firm
    cases firm

/-- No comparator stands in the subject: a word needs a blank before it, and a symbol a mark. -/
theorem split?_eq_none (h : PlainSubject s) : split? s = none := by
  refine split?_eq_none_iff.mpr fun p rest split filled => Classical.byContradiction fun found => ?_
  obtain ⟨a, b, x, e, r, rfl, stands⟩ := readOperator?_ne_none_iff.mp found
  obtain ⟨first, p, rfl⟩ := List.exists_cons_of_ne_nil filled
  cases word : isWord a with
  | true =>
    have part : b <:+: s := ⟨first :: p, x ++ e ++ r, by rw [split]; simp⟩
    exact (stands.apart word).1 (h.blanks_eq_nil stands.before_blank part)
  | false =>
    obtain ⟨c, inText, mark⟩ := Spelt.exists_mark stands.written stands.mem_spellings word
    refine h.unmarked c ?_ mark
    rw [split]
    simp [inText]

theorem not_endsInNot (h : PlainSubject s) : ¬ EndsInNot s := by
  intro ⟨p, b, w, split, _, gap, blank, _⟩
  exact gap (h.blanks_eq_nil blank ⟨p, w, by rw [split]; simp⟩)

end PlainSubject

/-! ## Writing a list and parsing it -/

variable {s : Text} {c : Comparator} {items : List Text}

/-- The filter of a subject and a list of quoted items. -/
def listFilter (s : Text) (c : Comparator) (items : List Text) : Filter :=
  ⟨s, c, Controls.listed (items.map Controls.quoted), items⟩

theorem listFilter_wellFormed (subject : PlainSubject s) (lists : c.arity = .list)
    (apart : ∀ item ∈ items, '|' ∉ item) : (listFilter s c items).WellFormed where
  subject_ne := subject.ne_nil
  subject_trim := subject.trim_eq
  controls_trim := Controls.trim_listed _
  values_read := by
    have bracketed := Controls.isBracketed_listed (items.map Controls.quoted)
    have read := Controls.valuesFor_list lists (.inr bracketed)
    exact (congrArg Traced.result read).trans (Controls.readList_quoted apart)

/-- On a quoted literal that is not empty `in` asks whether it is one of the items. -/
theorem listFilter_evaluateOn {d : Text} (filled : d ≠ []) :
    ((listFilter s .isIn items).evaluateOn (some (Controls.quoted d))).result =
      .ok (items.any (· == d)) := by
  have some : d.isEmpty = false := List.isEmpty_eq_false_iff.mpr filled
  rw [Filter.evaluateOn_result, Option.getD_some, Controls.scalar_quoted,
    Evaluation.evaluate_result rfl, Evaluation.compare_member (.inr rfl), some]
  rfl

/-- A list of any items without a separator, each in double quotes, is parsed to these items, in
their order and as often as they stand there; and `in` holds of a quoted literal that is not empty
exactly if it is one of the items. -/
theorem parse_quoted_list (subject : PlainSubject s)
    (lists : c ∈ [Comparator.is, .isNot, .isIn, .notIn, .contain])
    (apart : ∀ item ∈ items, '|' ∉ item) :
    ∃ f, (Filter.parse (s ++ ' ' :: c.symbol ++
        ' ' :: Controls.listed (items.map Controls.quoted))).result = .ok f ∧
      f.subject = s ∧ f.comparator = c ∧ f.values = items ∧
      (c = .isIn → ∀ d, d ≠ [] → ∃ holds,
        (f.evaluateOn (some (Controls.quoted d))).result = .ok holds ∧
          (holds = true ↔ d ∈ items)) := by
  have list : ∀ c ∈ [Comparator.is, .isNot, .isIn, .notIn, .contain],
      c.arity = .list ∧ c ≠ .matching := by decide
  have wellFormed := listFilter_wellFormed subject (list c lists).1 apart
  refine ⟨listFilter s c items, ?_, rfl, rfl, rfl, ?_⟩
  · exact parse_display_of wellFormed subject.split?_eq_none
      (fun ends => subject.not_endsInNot ends.2) fun opens => (list c lists).2 opens.1
  · intro isIn d filled
    refine ⟨_, isIn ▸ listFilter_evaluateOn filled, ?_⟩
    simp

/-- An item that is empty, one with a quote and a line break at its edges, one that looks like a
list, and one that is given twice. -/
theorem parse_quoted_list_brackets :
    let s := "=a".toList
    let items := [[], "\"b \n".toList, "[c]".toList, []]
    PlainSubject s ∧ (∀ item ∈ items, '|' ∉ item) ∧
      ∃ f, (Filter.parse "=a in [\"\"|\"\"b \n\"|\"[c]\"|\"\"]".toList).result = .ok f ∧
        f.values = items ∧
        ∃ holds, (f.evaluateOn (some "\"\"b \n\"".toList)).result = .ok holds ∧ holds = true := by
  intro s items
  have subject : PlainSubject s := by decide
  have apart : ∀ item ∈ items, '|' ∉ item := by decide
  obtain ⟨f, parsed, _, _, values, member⟩ :=
    parse_quoted_list (c := .isIn) subject (by decide) apart
  obtain ⟨holds, answer, mem⟩ := member rfl "\"b \n".toList (List.cons_ne_nil _ _)
  exact ⟨subject, apart, f, parsed, values, holds, answer, mem.mpr (by decide)⟩

end Sentence

end Criteria
