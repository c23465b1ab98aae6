import Criteria.Proofs.Grammar

/-!
# Blanks around a filter text

Parsing trims the subject and the controls, so blanks around a filter text should
not count. The split does not trim, though: the first character of the text
belongs to the subject, also if it is a blank, and a comparator right behind it
then leaves a blank subject.

* `parse_append_blanks`: blanks at the end never count.
* `parse_cons_blank`: one more blank at the start counts exactly where a
  comparator stands at the start of the text.
* `parse_padded_iff`: blanks at both ends. They count exactly if the text opens
  with a symbol, or with a word before which two blanks then stand.
* `parse_padding_changes`: `= = 5` is parsed, but not behind a blank.
-/

namespace Criteria

namespace Sentence

open Text Spelling

/-- Behind the blanks it opens with, the text goes on with a symbol. -/
def OpensWithSymbol (t : Text) : Prop :=
  ∃ c : Comparator, ∃ a ∈ c.aliases, isWord a = false ∧ ∃ x r, trimStart t = x ++ r ∧ Spelt a x

/-- Behind the blanks it opens with, the text goes on with a word, and the word ends there. -/
def OpensWithWord (t : Text) : Prop :=
  ∃ c : Comparator, ∃ a ∈ c.aliases, isWord a = true ∧
    ∃ x r, trimStart t = x ++ r ∧ Spelt a x ∧ atWordEnd r = true

/-- The blanks `b` before the text `t` make room for a blank subject: one blank is enough
before a symbol, and a word needs a second blank before it. -/
def Exposes (b t : Text) : Prop :=
  b ≠ [] ∧ (OpensWithSymbol t ∨ OpensWithWord t ∧ 2 ≤ (leadingBlanks (b ++ t)).length)

/-! ## Blanks at the end -/

theorem readOperator?_allBlank {t : Text} (h : AllBlank t) : readOperator? t = none := by
  refine readOperator?_eq_none_iff.mpr fun a mem => ?_
  unfold readAs?
  rw [trimStart_of_allBlank h]
  cases found : read? a [] with
  | none => rfl
  | some p =>
    have first := spellings_firmStart a mem
    rw [read?_nil_text found] at first
    cases first

theorem readOperator?_append_blanks {u e : Text} (firm : FirmEnd u) (hu : u ≠ [])
    (he : AllBlank e) (ne : e ≠ []) :
    readOperator? (u ++ e) = (readOperator? u).map (extendParts e) := by
  have opens : OpensBlank e := List.append_nil e ▸ he.opensBlank ne []
  refine readOperator?_append firm hu opens ?_
  -- behind the seam there is nothing left to read, and no spelling ends in its gap
  rintro a mem a₁ a₂ ⟨rfl, _, _, y, r, after, _⟩
  rw [trimStart_of_allBlank he] at after
  have finish := spellings_firmEnd _ mem
  rw [read?_nil_text after] at finish
  have := finish ' ' (by rw [List.getLast?_append]; rfl)
  cases this

/-- The parts of a text with the blanks `e` behind it. -/
def extendControls (e : Text) (parts : Sentence) : Sentence :=
  ⟨parts.subject, (extendParts e (parts.operator, parts.controls)).1,
    (extendParts e (parts.operator, parts.controls)).2⟩

theorem splitAnywhere?_append_blanks {u e : Text} (firm : FirmEnd u) (he : AllBlank e)
    (ne : e ≠ []) : splitAnywhere? (u ++ e) = (splitAnywhere? u).map (extendControls e) := by
  induction u with
  | nil =>
    have nothing : splitAnywhere? e = none := by
      refine splitAnywhere?_eq_none_iff.mpr fun p rest hrest => readOperator?_allBlank ?_
      exact AllBlank.of_append (hrest ▸ he)
    rw [List.nil_append, nothing]
    rfl
  | cons c u ih =>
    have here := readOperator?_append_blanks firm (List.cons_ne_nil c u) he ne
    rw [List.cons_append] at here ⊢
    rw [splitAnywhere?_cons, splitAnywhere?_cons, here]
    cases readOperator? (c :: u) with
    | some p => rfl
    | none =>
      dsimp only [Option.map_none]
      rw [ih firm.tail, Option.map_map, Option.map_map]
      rfl

theorem split?_append_blanks {u e : Text} (firm : FirmEnd u) (he : AllBlank e) (ne : e ≠ []) :
    split? (u ++ e) = (split? u).map (extendControls e) := by
  cases u with
  | nil =>
    have nothing : split? e = none := by
      refine split?_eq_none_iff.mpr fun p rest hrest _ => readOperator?_allBlank ?_
      exact AllBlank.of_append (hrest ▸ he)
    rw [List.nil_append, nothing]
    rfl
  | cons c u =>
    rw [List.cons_append, split?, split?, splitAnywhere?_append_blanks firm.tail he ne,
      Option.map_map, Option.map_map]
    rfl

theorem find?_append_blanks {q e : Text} (he : AllBlank e) :
    Comparator.find? (q ++ e) = Comparator.find? q := by
  rw [Comparator.find?_canonical, Comparator.find?_canonical, Comparator.canonicalSpelling,
    Comparator.canonicalSpelling, words_append_blanks he]

theorem extendControls_find? (e : Text) (parts : Sentence) :
    Comparator.find? (extendControls e parts).operator = Comparator.find? parts.operator := by
  unfold extendControls extendParts
  split
  · exact find?_append_blanks (leadingBlanks_allBlank e)
  · rfl

theorem extendControls_trim {e : Text} (he : AllBlank e) (parts : Sentence) :
    trim (extendControls e parts).controls = trim parts.controls := by
  unfold extendControls extendParts
  split
  next none =>
    have none : parts.controls = [] := none
    rw [none, trimStart_of_allBlank he]
  next => exact trim_append_blanks he

/-- A filter is made from the trimmed subject and the trimmed controls. -/
theorem make_congr {s s' k k' : Text} (c : Comparator) (hs : trim s = trim s')
    (hk : trim k = trim k') : Filter.make s c k = Filter.make s' c k' := by
  rw [Filter.make, Filter.make, hs, hk]

theorem parse_append_blanks_firm {u e : Text} {f : Filter} (firm : FirmEnd u) (he : AllBlank e) :
    (Filter.parse (u ++ e)).result = .ok f ↔ (Filter.parse u).result = .ok f := by
  rcases Decidable.em (e = []) with rfl | ne
  · rw [List.append_nil]
  · rw [Filter.parse_ok_iff, Filter.parse_ok_iff, split?_append_blanks firm he ne]
    have made (parts : Sentence) (c : Comparator) :=
      make_congr (s := parts.subject) c rfl (extendControls_trim he parts)
    constructor
    · rintro ⟨_, c, extended, hc, hm⟩
      obtain ⟨parts, hs, rfl⟩ := Option.map_eq_some_iff.mp extended
      rw [extendControls_find? e] at hc
      exact ⟨parts, c, hs, hc, made parts c ▸ hm⟩
    · rintro ⟨parts, c, hs, hc, hm⟩
      refine ⟨extendControls e parts, c, by rw [hs]; rfl, ?_, (made parts c).symm ▸ hm⟩
      rw [extendControls_find? e, hc]

/-- Blanks at the end of a text do not count. -/
theorem parse_append_blanks {t e : Text} {f : Filter} (he : AllBlank e) :
    (Filter.parse (t ++ e)).result = .ok f ↔ (Filter.parse t).result = .ok f := by
  obtain ⟨e', he', split, firm⟩ := trimEnd_split t
  rw [split, List.append_assoc, parse_append_blanks_firm firm (he'.append he),
    parse_append_blanks_firm firm he']

/-! ## Blanks at the start -/

theorem split?_cons_of_some {c : Char} {t q r : Text} (h : readOperator? t = some (q, r)) :
    split? (c :: t) = some ⟨[c], q, r⟩ := by
  refine split?_eq_some_iff.mpr ⟨List.cons_ne_nil c [], t, rfl, h, fun s s' hs ne ne' => ?_⟩
  cases s with
  | nil => exact absurd rfl ne
  | cons d s => exact absurd (List.append_eq_nil_iff.mp (List.cons.inj hs).2.symm).2 ne'

theorem split?_cons_of_none {c : Char} {t : Text} (h : readOperator? t = none) :
    split? (c :: t) = (split? t).map (prependSubject c) := by
  cases t with
  | nil => rfl
  | cons d t => rw [split?, splitAnywhere?_cons, h, split?]

/-- One more blank at the start counts exactly where a comparator stands there. -/
theorem parse_cons_blank {c : Char} {t : Text} {f : Filter} (hc : isBlank c = true) :
    (Filter.parse (c :: t)).result = .ok f ↔
      (Filter.parse t).result = .ok f ∧ readOperator? t = none := by
  rw [Filter.parse_ok_iff, Filter.parse_ok_iff]
  cases h : readOperator? t with
  | some p =>
    -- the blank is all there is of a subject
    refine ⟨?_, fun both => (nomatch both.2)⟩
    rintro ⟨parts, _, hs, _, hm⟩
    rw [split?_cons_of_some h] at hs
    cases hs
    have blank : trim [c] = [] := trim_eq_nil_iff.mpr fun d hd => List.mem_singleton.mp hd ▸ hc
    exact absurd blank (Filter.make_ok_iff.mp hm).1
  | none =>
    rw [split?_cons_of_none h]
    have made (parts : Sentence) (c' : Comparator) :=
      make_congr (k := parts.controls) c' (trim_cons_blank (t := parts.subject) hc) rfl
    constructor
    · rintro ⟨_, c', longer, hf, hm⟩
      obtain ⟨parts, hs, rfl⟩ := Option.map_eq_some_iff.mp longer
      exact ⟨⟨parts, c', hs, hf, made parts c' ▸ hm⟩, rfl⟩
    · rintro ⟨⟨parts, c', hs, hf, hm⟩, _⟩
      exact ⟨prependSubject c parts, c', by rw [hs]; rfl, hf, (made parts c').symm ▸ hm⟩

/-- At the start of a text a symbol stands with any blanks before it, a word with some. -/
theorem readOperator?_ne_none_iff_opens {t : Text} :
    readOperator? t ≠ none ↔ OpensWithSymbol t ∨ OpensWithWord t ∧ leadingBlanks t ≠ [] := by
  rw [readOperator?_ne_none_iff]
  constructor
  · rintro ⟨a, b, x, e, r, rfl, stands⟩
    obtain ⟨c, own⟩ := stands.listed
    cases word : isWord a with
    | false => exact .inl ⟨c, a, own, word, x, e ++ r, stands.trimStart_eq, stands.written⟩
    | true =>
      obtain ⟨opens, ended⟩ := (fits_word_iff word).mp stands.fits
      exact .inr ⟨⟨c, a, own, word, x, e ++ r, stands.trimStart_eq, stands.written, ended⟩,
        leadingBlanks_ne_nil_iff.mpr opens⟩
  · rintro (⟨c, a, own, symbol, x, r, rest, spelt⟩ | ⟨⟨c, a, own, word, x, r, rest, spelt, ended⟩, ne⟩)
    · refine ⟨a, leadingBlanks t, x, [], r, ?_, ⟨c, own⟩, leadingBlanks_allBlank t, spelt,
        fun _ h => (nomatch h), fun word => ?_⟩
      · rw [List.append_nil, List.append_assoc, ← rest, leadingBlanks_append_trimStart]
      · rw [symbol] at word
        cases word
    · refine ⟨a, leadingBlanks t, x, leadingBlanks r, trimStart r, ?_, ⟨c, own⟩,
        leadingBlanks_allBlank t, spelt, leadingBlanks_allBlank r, fun _ => ⟨ne, ?_⟩⟩
      · rw [List.append_assoc, leadingBlanks_append_trimStart, List.append_assoc, ← rest,
          leadingBlanks_append_trimStart]
      · rw [← leadingBlanks_append_trimStart r,
          atWordEnd_blanks_append (leadingBlanks_allBlank r)] at ended
        exact ended.imp_right (atWordEnd_firmStart (trimStart_firmStart r)).mp

theorem opensWithSymbol_blanks_append {b : Text} (hb : AllBlank b) (t : Text) :
    OpensWithSymbol (b ++ t) ↔ OpensWithSymbol t := by
  rw [OpensWithSymbol, trimStart_blanks_append hb, OpensWithSymbol]

theorem opensWithWord_blanks_append {b : Text} (hb : AllBlank b) (t : Text) :
    OpensWithWord (b ++ t) ↔ OpensWithWord t := by
  rw [OpensWithWord, trimStart_blanks_append hb, OpensWithWord]

/-- A comparator is exposed by the last blank before the place where it stands. -/
theorem exposes_cons_iff {c : Char} {b t : Text} (hb : AllBlank (c :: b)) :
    Exposes (c :: b) t ↔ readOperator? (b ++ t) ≠ none := by
  have tail : AllBlank b := hb.tail
  have count : 2 ≤ (leadingBlanks (c :: b ++ t)).length ↔ leadingBlanks (b ++ t) ≠ [] := by
    rw [List.cons_append, leadingBlanks_cons_blank (hb c List.mem_cons_self), List.length_cons,
      ← List.length_pos_iff]
    omega
  rw [readOperator?_ne_none_iff_opens, opensWithSymbol_blanks_append tail,
    opensWithWord_blanks_append tail, ← count]
  exact and_iff_right (List.cons_ne_nil c b)

theorem Exposes.readOperator?_ne_none {b t : Text} (hb : AllBlank b) (h : Exposes b t) :
    readOperator? (b ++ t) ≠ none := by
  rw [readOperator?_ne_none_iff_opens, opensWithSymbol_blanks_append hb,
    opensWithWord_blanks_append hb, ← List.length_pos_iff]
  exact h.2.imp_right (And.imp_right fun two => by omega)

/-- Blanks at the start of a text count exactly where they expose a comparator. -/
theorem parse_blanks_append {b t : Text} {f : Filter} (hb : AllBlank b) :
    (Filter.parse (b ++ t)).result = .ok f ↔ (Filter.parse t).result = .ok f ∧ ¬ Exposes b t := by
  induction b with
  | nil => exact (and_iff_left fun exposes => exposes.1 rfl).symm
  | cons c b ih =>
    have tail : AllBlank b := hb.tail
    rw [List.cons_append, parse_cons_blank (hb c List.mem_cons_self), ih tail, exposes_cons_iff hb,
      Decidable.not_not, and_assoc]
    refine and_congr_right fun _ => and_iff_right_of_imp fun none exposes => ?_
    exact exposes.readOperator?_ne_none tail none

/-- A text with blanks around it gives the filter that it gives without them, except that
blanks at its start may expose a comparator, and then it gives none. -/
theorem parse_padded_iff {a t b : Text} {f : Filter} (ha : AllBlank a) (hb : AllBlank b) :
    (Filter.parse (a ++ t ++ b)).result = .ok f ↔
      (Filter.parse t).result = .ok f ∧ ¬ Exposes a t := by
  rw [parse_append_blanks hb, parse_blanks_append ha]

/-- Two blanks before `is is [a]` expose its first word; one does not. -/
theorem parse_padded_is_is : ∃ f,
    (Filter.parse "is is [a]".toList).result = .ok f ∧
      (Filter.parse " is is [a]  ".toList).result = .ok f ∧
      (Filter.parse "  is is [a]".toList).result ≠ .ok f := by
  have parsed : (Filter.parse "is is [a]".toList).result =
      .ok ⟨"is".toList, .is, "[a]".toList, ["a".toList]⟩ :=
    Filter.parse_ok_iff.mpr ⟨⟨"is".toList, " is ".toList, "[a]".toList⟩, .is,
      by decide, by decide, rfl⟩
  have one : AllBlank [' '] := by decide
  have two : AllBlank [' ', ' '] := by decide
  have unexposed : ¬ Exposes [' '] "is is [a]".toList := by
    rw [exposes_cons_iff one]
    decide
  have exposed : Exposes [' ', ' '] "is is [a]".toList := by
    rw [exposes_cons_iff two]
    decide
  refine ⟨_, parsed, (parse_padded_iff one two).mpr ⟨parsed, unexposed⟩, fun padded => ?_⟩
  exact ((parse_padded_iff (b := []) two (by decide)).mp padded).2 exposed

/-- In ` = = 5` the first equals sign is the comparator, since the blank before it counts as
a subject; without the blank it is the subject. -/
theorem parse_padding_changes :
    (Filter.parse "= = 5".toList).result = .ok ⟨"=".toList, .equal, "5".toList, []⟩ ∧
      (Filter.parse " = = 5".toList).result =
        .error (.malformedFilter " = = 5".toList .blankSubject) := by
  constructor
  · exact Filter.parse_ok_iff.mpr ⟨⟨"=".toList, " = ".toList, "5".toList⟩, .equal,
      by decide, by decide, rfl⟩
  · have found : split? " = = 5".toList = some ⟨" ".toList, "= ".toList, "= 5".toList⟩ := by
      decide
    unfold Filter.parse
    rw [found]
    rfl

end Sentence

end Criteria
