import Criteria.Proofs.Respelling

/-!
# Which texts name a comparator

A comparator is looked up by a text, whatever its letter case and blanks. This module says
which texts find it, without the form in which they are compared.

* `canonicalSpelling_respelt`: a text without blanks at its edges is its canonical form
  respelt.
* `canonicalSpelling_eq_iff`: so the texts with the canonical form of a spelling are that
  spelling in any letter case, with any blanks between its words and around them.
* `lookup_ok_iff`, `lookup_error_iff`: these texts are found, all others are reported.
* `lookup_exact`: what follows for a text as a whole.
-/

namespace Criteria

namespace Comparator

open Text Spelling

variable {c d : Char} {t : Text}

/-! ## The canonical form step by step -/

theorem canonicalSpelling_trim (t : Text) : canonicalSpelling (trim t) = canonicalSpelling t := by
  obtain ⟨b, e, hb, he, split, _⟩ := trim_split t
  rw [canonicalSpelling, canonicalSpelling, congrArg words split, words_append_blanks he,
    words_blanks_append hb]

theorem canonicalSpelling_trimStart (t : Text) :
    canonicalSpelling (trimStart t) = canonicalSpelling t := by
  rw [canonicalSpelling, canonicalSpelling, ← words_blanks_append (leadingBlanks_allBlank t),
    leadingBlanks_append_trimStart]

theorem canonicalSpelling_last (hc : isBlank c = false) : canonicalSpelling [c] = [c.toLower] := by
  rw [canonicalSpelling, words_cons_gap hc (.inl rfl)]
  rfl

theorem canonicalSpelling_firm (hc : isBlank c = false) (hd : isBlank d = false) (t : Text) :
    canonicalSpelling (c :: d :: t) = c.toLower :: canonicalSpelling (d :: t) := by
  obtain ⟨word, more, rest, whole⟩ := words_cons_firm (t := t) hc hd
  rw [canonicalSpelling, canonicalSpelling, whole, rest]
  cases more <;> rfl

/-- Blanks before more words become one space. -/
theorem canonicalSpelling_gap (hc : isBlank c = false) (gap : OpensBlank t) (more : words t ≠ []) :
    canonicalSpelling (c :: t) = c.toLower :: ' ' :: canonicalSpelling t := by
  obtain ⟨word, later, split⟩ := List.exists_cons_of_ne_nil more
  rw [canonicalSpelling, canonicalSpelling, words_cons_gap hc (.inr gap), split]
  rfl

/-- A text without blanks at its edges is its canonical form respelt. -/
theorem canonicalSpelling_respelt (t : Text) (start : FirmStart t) (finish : FirmEnd t) :
    Respelt (canonicalSpelling t) t := by
  match t with
  | [] => exact .nil
  | [c] =>
    have hc := start c rfl
    rw [canonicalSpelling_last hc]
    exact .letter (toLower_ne_space hc) rfl .nil
  | c :: d :: t =>
    have hc := start c rfl
    cases hd : isBlank d with
    | false =>
      have firm : FirmStart (d :: t) := fun e same => Option.some.inj same ▸ hd
      rw [canonicalSpelling_firm hc hd]
      exact .letter (toLower_ne_space hc) rfl (canonicalSpelling_respelt (d :: t) firm finish.tail)
    | true =>
      have gap : OpensBlank (d :: t) := ⟨d, t, rfl, hd⟩
      have more := finish.tail.words_ne_nil (List.cons_ne_nil d t)
      have rest := canonicalSpelling_respelt (trimStart (d :: t)) (trimStart_firmStart _)
        finish.tail.trimStart
      have behind := Respelt.gap (leadingBlanks_ne_nil_iff.mpr gap)
        (leadingBlanks_allBlank (d :: t)) rest
      rw [leadingBlanks_append_trimStart, canonicalSpelling_trimStart] at behind
      rw [canonicalSpelling_gap hc gap more]
      exact .letter (toLower_ne_space hc) rfl behind
termination_by t.length
decreasing_by
  · exact Nat.lt_succ_self _
  · exact Nat.lt_succ_of_le (List.dropWhile_sublist _).length_le

/-- The texts with the canonical form of a spelling are that spelling in any letter case, with
any blanks between its words and around them. -/
theorem canonicalSpelling_eq_iff {k : Comparator} {a : Text} (own : a ∈ k.aliases) (x : Text) :
    canonicalSpelling x = a ↔ Respelt a (trim x) := by
  constructor
  · rintro rfl
    rw [← canonicalSpelling_trim]
    exact canonicalSpelling_respelt (trim x) (trim_firmStart x) (trim_firmEnd x)
  · intro respelt
    have mem := mem_spellings k (mem_all k) a own
    have spelt := (respelt_iff (longS_not_mem_alias k (mem_all k) a own)).mp respelt
    have bare : AllBlank [] := fun _ h => nomatch h
    have canonical := spelt.1.canonicalSpelling_eq (Sentence.spellings_plain a mem) bare bare spelt.2
    rw [List.nil_append, List.append_nil, canonicalSpelling_trim] at canonical
    rw [canonical, intercalate_words_spelling a mem]

/-! ## Looking up -/

variable {k : Comparator} {x : Text} {e : FilterError}

theorem find?_eq_some_iff : find? x = some k ↔ ∃ a ∈ k.aliases, Respelt a (trim x) := by
  rw [find?_canonical]
  constructor
  · intro found
    have listed := List.find?_some found
    have own : canonicalSpelling x ∈ k.aliases := List.contains_iff_mem.mp listed
    exact ⟨_, own, (canonicalSpelling_eq_iff own x).mp rfl⟩
  · rintro ⟨a, own, respelt⟩
    rw [(canonicalSpelling_eq_iff own x).mpr respelt]
    exact find?_alias k (mem_all k) a own

theorem lookup_ok_iff : lookup x = .ok k ↔ ∃ a ∈ k.aliases, Respelt a (trim x) := by
  rw [← find?_eq_some_iff, lookup]
  cases find? x with
  | none => exact ⟨fun h => (nomatch h), fun h => (nomatch h)⟩
  | some found =>
    exact ⟨fun h => congrArg some (Except.ok.inj h), fun h => congrArg Except.ok (Option.some.inj h)⟩

/-- What is no spelling of any comparator is reported without the blanks around it. -/
theorem lookup_error_iff : lookup x = .error e ↔
    e = .unknownComparator (trim x) ∧ ∀ k : Comparator, ∀ a ∈ k.aliases, ¬ Respelt a (trim x) := by
  have unknown : (∀ k : Comparator, ∀ a ∈ k.aliases, ¬ Respelt a (trim x)) ↔ find? x = none := by
    constructor
    · intro none
      refine Option.eq_none_iff_forall_ne_some.mpr fun k found => ?_
      obtain ⟨a, own, respelt⟩ := find?_eq_some_iff.mp found
      exact none k a own respelt
    · intro none k a own respelt
      rw [find?_eq_some_iff.mpr ⟨a, own, respelt⟩] at none
      cases none
  rw [unknown, lookup]
  cases find? x with
  | none => exact ⟨fun h => ⟨(Except.error.inj h).symm, rfl⟩, fun h => congrArg Except.error h.1.symm⟩
  | some found => exact ⟨fun h => (nomatch h), fun h => (nomatch h.2)⟩

/-- Apart from blanks, a spelling is written with characters of ASCII. -/
theorem ascii_of_respelt {a y : Text} (h : Respelt a y) (native : ∀ l ∈ a, ¬ LetterCase.IsForeign l) :
    ∀ d ∈ y, d.toNat < 0x80 ∨ isBlank d = true := by
  induction h with
  | nil => exact fun _ h => nomatch h
  | @letter l c a y _ lower _ ih =>
    obtain ⟨first, later⟩ := List.forall_mem_cons.mp native
    refine List.forall_mem_cons.mpr ⟨.inl (Nat.lt_of_not_le fun foreign => first (.inl ?_)), ih later⟩
    rw [← lower, LetterCase.toLower_of_not_capital (.inr (Nat.lt_of_lt_of_le (by decide) foreign))]
    exact foreign
  | @gap g a y _ blank _ ih =>
    obtain ⟨_, later⟩ := List.forall_mem_cons.mp native
    exact List.forall_mem_append.mpr ⟨fun d mem => .inr (blank d mem), ih later⟩

/-- A text finds a comparator exactly if it is one of its spellings in any letter case, with any
blanks for the spaces and around it, and every other text is reported without the blanks around
it. So no letter outside A to Z is taken for one of a spelling, and no text is a spelling of two
comparators. -/
theorem lookup_exact (x : Text) :
    (∀ k, lookup x = .ok k ↔ ∃ a ∈ k.aliases, Respelt a (trim x)) ∧
    (∀ e, lookup x = .error e ↔ e = .unknownComparator (trim x) ∧
      ∀ k : Comparator, ∀ a ∈ k.aliases, ¬ Respelt a (trim x)) ∧
    (∀ k, lookup x = .ok k → ∀ d ∈ x, d.toNat < 0x80 ∨ isBlank d = true) ∧
    ∀ k k' : Comparator, (∃ a ∈ k.aliases, Respelt a (trim x)) →
      (∃ a ∈ k'.aliases, Respelt a (trim x)) → k = k' := by
  refine ⟨fun k => lookup_ok_iff, fun e => lookup_error_iff, fun k found d mem => ?_,
    fun k k' first second => ?_⟩
  · obtain ⟨a, own, respelt⟩ := lookup_ok_iff.mp found
    rcases mem_trim_or_blank mem with inside | blank
    · exact ascii_of_respelt respelt (alias_native k a own) d inside
    · exact .inr blank
  · have both := (find?_eq_some_iff.mpr first).symm.trans (find?_eq_some_iff.mpr second)
    exact Option.some.inj both

/-- Blanks outside ASCII count as blanks, and a capital I with a dot is no I. -/
theorem lookup_exact_wide :
    lookup " Is\u3000 NOT\t".toList = .ok .isNot ∧
      lookup "\u0130n ".toList = .error (.unknownComparator "\u0130n".toList) := by
  constructor
  · have read : read? "is not".toList "Is\u3000 NOT".toList = some ("Is\u3000 NOT".toList, []) := by
      decide
    have trimmed : trim " Is\u3000 NOT\t".toList = "Is\u3000 NOT".toList := by decide
    refine ((lookup_exact _).1 .isNot).mpr ⟨"is not".toList, by decide, ?_⟩
    rw [trimmed]
    exact (read?_sound read).2.respelt (by decide)
  · obtain ⟨_, reported, native, _⟩ := lookup_exact "\u0130n ".toList
    cases found : lookup "\u0130n ".toList with
    | ok k => exact absurd (native k found '\u0130' (by decide)) (by decide)
    | error e => exact congrArg Except.error ((reported e).mp found).1

end Comparator

end Criteria
