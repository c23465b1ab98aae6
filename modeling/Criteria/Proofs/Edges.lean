import Criteria.Text

/-!
# The edges of a text

Readers take blanks greedily, so what they do at a place of a text depends on
where the blanks around it end. This module says how the blanks at the two edges
of a text behave when texts are put together.

* `FirmStart`, `FirmEnd`: no blank stands at the edge.
* `leadingBlanks_append`, `trimStart_append`: a text with a character that is
  not blank keeps its blanks to itself.
* `trim_eq`: a text between blanks is what trimming leaves of them, if it is
  firm at both edges.
* `inside?_eq_some`, `trim_enclosed`, `unwrap_of_not_mem`: a pair of marks around a
  text, and a text without the mark.
* `words_blanks_append`, `words_append_blanks`: the blanks at the edges do not
  count among the words.
-/

namespace Criteria

namespace Text

/-- Every character is a blank. -/
def AllBlank (t : Text) : Prop := ∀ c ∈ t, isBlank c = true

/-- The text does not open with a blank. -/
def FirmStart (t : Text) : Prop := ∀ c ∈ t.head?, isBlank c = false

/-- The text does not end with a blank. -/
def FirmEnd (t : Text) : Prop := ∀ c ∈ t.getLast?, isBlank c = false

instance (t : Text) : Decidable (AllBlank t) :=
  decidable_of_iff (t.all isBlank = true) List.all_eq_true

instance (t : Text) : Decidable (FirmStart t) :=
  decidable_of_iff (t.head?.all (!isBlank ·) = true) (by cases h : t.head? <;> simp [FirmStart, h])

instance (t : Text) : Decidable (FirmEnd t) :=
  decidable_of_iff (t.getLast?.all (!isBlank ·) = true) (by cases h : t.getLast? <;> simp [FirmEnd, h])

/-- The text opens with a blank. -/
def OpensBlank (t : Text) : Prop := ∃ b rest, t = b :: rest ∧ isBlank b = true

theorem AllBlank.append {s t : Text} (hs : AllBlank s) (ht : AllBlank t) : AllBlank (s ++ t) := by
  intro c hc
  rcases List.mem_append.mp hc with h | h
  · exact hs c h
  · exact ht c h

theorem AllBlank.of_append {s t : Text} (h : AllBlank (s ++ t)) : AllBlank t :=
  fun c hc => h c (List.mem_append_right s hc)

theorem AllBlank.tail {c : Char} {t : Text} (h : AllBlank (c :: t)) : AllBlank t :=
  AllBlank.of_append (s := [c]) h

theorem AllBlank.opensBlank {b : Text} (hb : AllBlank b) (ne : b ≠ []) (t : Text) :
    OpensBlank (b ++ t) := by
  cases b with
  | nil => exact absurd rfl ne
  | cons c b => exact ⟨c, b ++ t, rfl, hb c List.mem_cons_self⟩

/-! ## Blanks at the start -/

theorem leadingBlanks_append_trimStart (t : Text) : leadingBlanks t ++ trimStart t = t :=
  List.takeWhile_append_dropWhile

theorem leadingBlanks_allBlank (t : Text) : AllBlank (leadingBlanks t) :=
  fun _ hc => List.all_eq_true.mp (List.all_takeWhile (l := t)) _ hc

theorem leadingBlanks_cons_blank {c : Char} {t : Text} (hc : isBlank c = true) :
    leadingBlanks (c :: t) = c :: leadingBlanks t :=
  List.takeWhile_cons_of_pos hc

theorem trimStart_cons_blank {c : Char} {t : Text} (hc : isBlank c = true) :
    trimStart (c :: t) = trimStart t :=
  List.dropWhile_cons_of_pos hc

theorem leadingBlanks_cons_firm {c : Char} {t : Text} (hc : isBlank c = false) :
    leadingBlanks (c :: t) = [] :=
  List.takeWhile_cons_of_neg (by simp [hc])

theorem trimStart_cons_firm {c : Char} {t : Text} (hc : isBlank c = false) :
    trimStart (c :: t) = c :: t :=
  List.dropWhile_cons_of_neg (by simp [hc])

theorem trimStart_firmStart (t : Text) : FirmStart (trimStart t) := by
  induction t with
  | nil => intro c hc; simp [trimStart] at hc
  | cons d t ih =>
    cases hd : isBlank d with
    | true => rw [trimStart_cons_blank hd]; exact ih
    | false =>
      rw [trimStart_cons_firm hd]
      intro c hc
      cases hc
      exact hd

theorem leadingBlanks_of_firmStart {t : Text} (h : FirmStart t) : leadingBlanks t = [] := by
  cases t with
  | nil => rfl
  | cons c t => exact leadingBlanks_cons_firm (h c rfl)

theorem trimStart_of_firmStart {t : Text} (h : FirmStart t) : trimStart t = t := by
  cases t with
  | nil => rfl
  | cons c t => exact trimStart_cons_firm (h c rfl)

theorem leadingBlanks_blanks_append {b : Text} (hb : AllBlank b) (t : Text) :
    leadingBlanks (b ++ t) = b ++ leadingBlanks t := by
  induction b with
  | nil => rfl
  | cons c b ih =>
    rw [List.cons_append, leadingBlanks_cons_blank (hb c List.mem_cons_self),
      ih hb.tail, List.cons_append]

theorem trimStart_blanks_append {b : Text} (hb : AllBlank b) (t : Text) :
    trimStart (b ++ t) = trimStart t := by
  induction b with
  | nil => rfl
  | cons c b ih =>
    rw [List.cons_append, trimStart_cons_blank (hb c List.mem_cons_self),
      ih hb.tail]

theorem allBlank_of_trimStart_eq_nil {t : Text} (h : trimStart t = []) : AllBlank t := by
  have split := leadingBlanks_append_trimStart t
  rw [h, List.append_nil] at split
  exact split ▸ leadingBlanks_allBlank t

theorem trimStart_of_allBlank {t : Text} (h : AllBlank t) : trimStart t = [] := by
  have := trimStart_blanks_append h []
  rwa [List.append_nil] at this

theorem leadingBlanks_ne_nil_iff {t : Text} : leadingBlanks t ≠ [] ↔ OpensBlank t := by
  cases t with
  | nil => exact ⟨fun h => absurd rfl h, fun ⟨_, _, h, _⟩ => nomatch h⟩
  | cons c t =>
    cases hc : isBlank c with
    | true =>
      rw [leadingBlanks_cons_blank hc]
      exact ⟨fun _ => ⟨c, t, rfl, hc⟩, fun _ => List.cons_ne_nil _ _⟩
    | false =>
      rw [leadingBlanks_cons_firm hc]
      refine ⟨fun h => absurd rfl h, ?_⟩
      rintro ⟨b, rest, h, hb⟩
      cases h
      rw [hc] at hb
      cases hb

/-! ## Texts put together -/

/-- The blanks that open a text end inside it if it holds anything else. -/
theorem leadingBlanks_append {t : Text} (h : trimStart t ≠ []) (w : Text) :
    leadingBlanks (t ++ w) = leadingBlanks t := by
  induction t with
  | nil => exact absurd rfl h
  | cons c t ih =>
    cases hc : isBlank c with
    | true =>
      rw [trimStart_cons_blank hc] at h
      rw [List.cons_append, leadingBlanks_cons_blank hc, leadingBlanks_cons_blank hc, ih h]
    | false => rw [List.cons_append, leadingBlanks_cons_firm hc, leadingBlanks_cons_firm hc]

theorem trimStart_append {t : Text} (h : trimStart t ≠ []) (w : Text) :
    trimStart (t ++ w) = trimStart t ++ w := by
  induction t with
  | nil => exact absurd rfl h
  | cons c t ih =>
    cases hc : isBlank c with
    | true =>
      rw [trimStart_cons_blank hc] at h
      rw [List.cons_append, trimStart_cons_blank hc, trimStart_cons_blank hc, ih h]
    | false =>
      rw [List.cons_append, trimStart_cons_firm hc, trimStart_cons_firm hc, List.cons_append]

theorem FirmEnd.of_append {s t : Text} (h : FirmEnd (s ++ t)) : FirmEnd t := by
  intro c hc
  refine h c ?_
  rw [List.getLast?_append, hc]
  rfl

theorem FirmEnd.append_of_ne_nil {s t : Text} (h : FirmEnd t) (ht : t ≠ []) : FirmEnd (s ++ t) := by
  intro c hc
  have last := List.getLast?_eq_some_getLast ht
  rw [List.getLast?_append, last, Option.some_or] at hc
  exact h c (last ▸ hc)

theorem FirmEnd.tail {c : Char} {t : Text} (h : FirmEnd (c :: t)) : FirmEnd t := by
  cases t with
  | nil => intro d hd; cases hd
  | cons d t => exact FirmEnd.of_append (s := [c]) h

theorem FirmEnd.trimStart_ne_nil {t : Text} (h : FirmEnd t) (ht : t ≠ []) : trimStart t ≠ [] := by
  intro none
  have blank := allBlank_of_trimStart_eq_nil none
  have last := h (t.getLast ht) (List.getLast?_eq_some_getLast ht)
  rw [blank _ (List.getLast_mem ht)] at last
  cases last

theorem FirmEnd.trimStart {t : Text} (h : FirmEnd t) : FirmEnd (trimStart t) := by
  induction t with
  | nil => exact h
  | cons c t ih =>
    cases hc : isBlank c with
    | true => rw [trimStart_cons_blank hc]; exact ih h.tail
    | false => rw [trimStart_cons_firm hc]; exact h

/-! ## Trimming -/

theorem trimEnd_append_blanks {t b : Text} (ht : FirmEnd t) (hb : AllBlank b) :
    trimEnd (t ++ b) = t := by
  have firm : FirmStart t.reverse := by
    intro c hc
    rw [List.head?_reverse] at hc
    exact ht c hc
  have blank : AllBlank b.reverse := fun c hc => hb c (List.mem_reverse.mp hc)
  have dropped : Text.trimStart (b.reverse ++ t.reverse) = t.reverse := by
    rw [trimStart_blanks_append blank, trimStart_of_firmStart firm]
  rw [trimEnd, List.reverse_append]
  exact (congrArg List.reverse dropped).trans (List.reverse_reverse t)

/-- What a text is but for the blanks after it. -/
theorem trimEnd_split (t : Text) : ∃ b, AllBlank b ∧ t = trimEnd t ++ b ∧ FirmEnd (trimEnd t) := by
  refine ⟨(leadingBlanks t.reverse).reverse, ?_, ?_, ?_⟩
  · exact fun c hc => leadingBlanks_allBlank t.reverse c (List.mem_reverse.mp hc)
  · have split := congrArg List.reverse (leadingBlanks_append_trimStart t.reverse)
    rw [List.reverse_append, List.reverse_reverse] at split
    exact split.symm
  · intro c hc
    rw [trimEnd, List.getLast?_reverse] at hc
    exact trimStart_firmStart t.reverse c hc

/-- What a text is but for the blanks around it. -/
theorem trim_split (t : Text) :
    ∃ b e, AllBlank b ∧ AllBlank e ∧ t = b ++ trim t ++ e ∧ FirmStart (trim t) ∧ FirmEnd (trim t) := by
  obtain ⟨e, he, split, firm⟩ := trimEnd_split (trimStart t)
  refine ⟨leadingBlanks t, e, leadingBlanks_allBlank t, he, ?_, ?_, firm⟩
  · rw [trim, List.append_assoc, ← split, leadingBlanks_append_trimStart]
  · intro c hc
    refine trimStart_firmStart t c ?_
    rw [split, List.head?_append]
    rw [trim] at hc
    rw [hc]
    rfl

theorem trim_firmStart (t : Text) : FirmStart (trim t) :=
  let ⟨_, _, _, _, _, h, _⟩ := trim_split t
  h

theorem trim_firmEnd (t : Text) : FirmEnd (trim t) :=
  let ⟨_, _, _, _, _, _, h⟩ := trim_split t
  h

theorem trim_eq {b t e : Text} (hb : AllBlank b) (he : AllBlank e) (start : FirmStart t)
    (finish : FirmEnd t) : trim (b ++ t ++ e) = t := by
  rw [trim, List.append_assoc, trimStart_blanks_append hb]
  cases t with
  | nil => rw [List.nil_append, trimStart_of_allBlank he]; rfl
  | cons c t =>
    rw [List.cons_append, trimStart_cons_firm (start c rfl), ← List.cons_append]
    exact trimEnd_append_blanks finish he

theorem trim_of_firm {t : Text} (start : FirmStart t) (finish : FirmEnd t) : trim t = t := by
  have := trim_eq (b := []) (e := []) (fun _ h => nomatch h) (fun _ h => nomatch h) start finish
  rwa [List.nil_append, List.append_nil] at this

theorem trim_of_unbroken {t : Text} (firm : ∀ c ∈ t, isBlank c = false) : trim t = t :=
  trim_of_firm (fun c first => firm c (List.mem_of_mem_head? first))
    fun c last => firm c (List.mem_of_mem_getLast? last)

theorem trim_trim (t : Text) : trim (trim t) = trim t :=
  trim_of_firm (trim_firmStart t) (trim_firmEnd t)

/-- Blanks around a text do not outlast trimming. -/
theorem trim_blanks_append {b t e : Text} (hb : AllBlank b) (he : AllBlank e) :
    trim (b ++ t ++ e) = trim t := by
  obtain ⟨b', e', hb', he', split, start, finish⟩ := trim_split t
  have whole : b ++ t ++ e = (b ++ b') ++ trim t ++ (e' ++ e) := by
    rw [congrArg (b ++ · ++ e) split]
    simp only [List.append_assoc]
  rw [whole]
  exact trim_eq (hb.append hb') (he'.append he) start finish

theorem trim_append_blanks {t e : Text} (he : AllBlank e) : trim (t ++ e) = trim t :=
  trim_blanks_append (b := []) (fun _ h => nomatch h) he

theorem trim_cons_blank {c : Char} {t : Text} (hc : isBlank c = true) : trim (c :: t) = trim t := by
  rw [trim, trimStart_cons_blank hc]
  rfl

theorem trim_length_le (t : Text) : (trim t).length ≤ t.length := by
  obtain ⟨b, e, _, _, split, _⟩ := trim_split t
  have := congrArg List.length split
  simp only [List.length_append] at this
  omega

theorem trim_eq_nil_iff {t : Text} : trim t = [] ↔ AllBlank t := by
  constructor
  · intro h
    obtain ⟨b, e, hb, he, split, _⟩ := trim_split t
    rw [h, List.append_nil] at split
    exact split ▸ hb.append he
  · intro h
    have firm : FirmStart [] := fun _ hc => nomatch hc
    have := trim_eq (t := []) (e := []) h (fun _ hc => nomatch hc) firm fun _ hc => nomatch hc
    rwa [List.append_nil, List.append_nil] at this

theorem trimStart_eq_nil_iff {t : Text} : trimStart t = [] ↔ AllBlank t :=
  ⟨allBlank_of_trimStart_eq_nil, trimStart_of_allBlank⟩

theorem trimEnd_eq_nil_iff {t : Text} : trimEnd t = [] ↔ AllBlank t := by
  constructor
  · intro none
    obtain ⟨b, blank, split, _⟩ := trimEnd_split t
    rw [none, List.nil_append] at split
    exact split ▸ blank
  · intro blank
    have firm : FirmEnd [] := fun _ hc => nomatch hc
    exact trimEnd_append_blanks firm blank

theorem trim_ne_nil_of_append {p rest : Text} (h : trim p ≠ []) : trim (p ++ rest) ≠ [] := by
  intro none
  have blank := trim_eq_nil_iff.mp none
  exact h (trim_eq_nil_iff.mpr fun c hc => blank c (List.mem_append_left rest hc))

theorem mem_of_mem_trim {c : Char} {t : Text} (h : c ∈ trim t) : c ∈ t := by
  obtain ⟨b, e, _, _, split, _⟩ := trim_split t
  rw [split]
  exact List.mem_append_left e (List.mem_append_right b h)

theorem mem_trim_or_blank {c : Char} {t : Text} (mem : c ∈ t) :
    c ∈ trim t ∨ isBlank c = true := by
  obtain ⟨b, e, hb, he, split, _⟩ := trim_split t
  rw [split, List.mem_append, List.mem_append] at mem
  rcases mem with (before | inside) | behind
  · exact .inr (hb c before)
  · exact .inl inside
  · exact .inr (he c behind)

theorem count_trim_le (c : Char) (t : Text) : (trim t).count c ≤ t.count c := by
  obtain ⟨b, e, _, _, split, _⟩ := trim_split t
  have := congrArg (List.count c) split
  simp only [List.count_append] at this
  omega

/-! ## Marks around a text -/

theorem inside?_eq_some {opening closing : Char} {t inner : Text}
    (h : inside? opening closing t = some inner) : t = opening :: (inner ++ [closing]) := by
  cases t with
  | nil => cases h
  | cons c rest =>
    rw [inside?] at h
    split at h
    next both =>
      cases h
      simp only [Bool.and_eq_true, decide_eq_true_eq, beq_iff_eq] at both
      obtain ⟨rfl, last⟩ := both
      obtain ⟨front, rfl⟩ := List.getLast?_eq_some_iff.mp last
      rw [List.dropLast_concat]
    next => cases h

theorem inside?_enclosed (opening closing : Char) (inner : Text) :
    inside? opening closing (opening :: (inner ++ [closing])) = some inner := by
  rw [inside?, List.getLast?_concat, List.dropLast_concat]
  simp

/-- Trimming does not reach behind marks that are no blanks. -/
theorem trim_enclosed {opening closing : Char} (first : isBlank opening = false)
    (last : isBlank closing = false) (inner : Text) :
    trim (opening :: (inner ++ [closing])) = opening :: (inner ++ [closing]) := by
  refine trim_of_firm ?_ ?_
  · intro c hc
    cases hc
    exact first
  · intro c hc
    rw [← List.cons_append, List.getLast?_concat] at hc
    cases hc
    exact last

theorem unwrap_enclosed (mark : Char) (inner : Text) :
    unwrap mark (mark :: (inner ++ [mark])) = inner := by
  rw [unwrap, inside?_enclosed]
  rfl

theorem unwrap_of_not_mem {mark : Char} {t : Text} (h : mark ∉ t) : unwrap mark t = t := by
  rw [unwrap]
  cases inner : inside? mark mark t with
  | none => rfl
  | some u =>
    rw [inside?_eq_some inner] at h
    exact absurd List.mem_cons_self h

theorem mem_of_mem_unwrap {c mark : Char} {t : Text} (h : c ∈ unwrap mark t) : c ∈ t := by
  rw [unwrap] at h
  cases inner : inside? mark mark t with
  | none => rwa [inner] at h
  | some u =>
    rw [inner] at h
    rw [inside?_eq_some inner]
    exact List.mem_cons_of_mem mark (List.mem_append_left [mark] h)

theorem withoutLeading_of_not_mem {mark : Char} {t : Text} (h : mark ∉ t) :
    withoutLeading mark t = t := by
  cases t with
  | nil => rfl
  | cons c t =>
    refine if_neg ?_
    intro same
    exact h (List.mem_cons.mpr (.inl same.symm))

/-! ## Words -/

theorem words_cons (c : Char) (t : Text) :
    words (c :: t) =
      if isBlank c then words t
      else match t, words t with
        | d :: _, word :: more => if isBlank d then [c] :: word :: more else (c :: word) :: more
        | _, more => [c] :: more := rfl

theorem words_cons_blank {c : Char} {t : Text} (hc : isBlank c = true) :
    words (c :: t) = words t := by
  rw [words_cons, if_pos hc]

theorem words_blanks_append {b : Text} (hb : AllBlank b) (t : Text) : words (b ++ t) = words t := by
  induction b with
  | nil => rfl
  | cons c b ih =>
    rw [List.cons_append, words_cons_blank (hb c List.mem_cons_self),
      ih hb.tail]

theorem words_of_allBlank {t : Text} (h : AllBlank t) : words t = [] := by
  have := words_blanks_append h []
  rwa [List.append_nil] at this

/-- A character before a gap, or before nothing, is a word of its own. -/
theorem words_cons_gap {c : Char} {t : Text} (hc : isBlank c = false) (ht : t = [] ∨ OpensBlank t) :
    words (c :: t) = [c] :: words t := by
  rw [words_cons, if_neg (by simp [hc])]
  rcases ht with rfl | ⟨b, rest, rfl, hb⟩
  · rfl
  · cases hw : words (b :: rest) with
    | nil => rfl
    | cons word more => simp [hb]

/-- A character before another one belongs to the same word. -/
theorem words_cons_firm {c d : Char} {t : Text} (hc : isBlank c = false) (hd : isBlank d = false) :
    ∃ word more, words (d :: t) = word :: more ∧ words (c :: d :: t) = (c :: word) :: more := by
  cases hw : words (d :: t) with
  | nil =>
    -- no: the word that `d` is in comes first
    rw [words_cons, if_neg (by simp [hd])] at hw
    split at hw
    · split at hw <;> cases hw
    · cases hw
  | cons word more =>
    refine ⟨word, more, rfl, ?_⟩
    rw [words_cons, if_neg (by simp [hc]), hw]
    simp [hd]

theorem words_append_blanks {b : Text} (hb : AllBlank b) (t : Text) : words (t ++ b) = words t := by
  induction t with
  | nil => exact words_of_allBlank hb
  | cons c t ih =>
    rw [List.cons_append]
    cases hc : isBlank c with
    | true => rw [words_cons_blank hc, words_cons_blank hc, ih]
    | false =>
      -- the character after `c` decides whether `c` ends a word
      cases t with
      | nil =>
        have gap : [] ++ b = [] ∨ OpensBlank ([] ++ b) := by
          cases b with
          | nil => exact .inl rfl
          | cons d b => exact .inr ⟨d, b, rfl, hb d List.mem_cons_self⟩
        rw [words_cons_gap hc gap, words_cons_gap hc (.inl rfl), ih]
      | cons d t =>
        cases hd : isBlank d with
        | true =>
          rw [List.cons_append] at ih ⊢
          rw [words_cons_gap hc (.inr ⟨d, t ++ b, rfl, hd⟩),
            words_cons_gap hc (.inr ⟨d, t, rfl, hd⟩), ih]
        | false =>
          obtain ⟨word, more, hw, hcw⟩ := words_cons_firm (t := t) hc hd
          obtain ⟨word', more', hw', hcw'⟩ := words_cons_firm (t := t ++ b) hc hd
          rw [List.cons_append] at ih ⊢
          rw [hw, hw'] at ih
          cases ih
          rw [hcw, hcw']

/-- Every character of a text that is not blank is in one of its words. -/
theorem mem_words_of_firm {c : Char} {t : Text} (hc : isBlank c = false) (mem : c ∈ t) :
    ∃ word ∈ words t, c ∈ word := by
  induction t with
  | nil => cases mem
  | cons d t ih =>
    cases hd : isBlank d with
    | true =>
      rcases List.mem_cons.mp mem with rfl | mem
      · rw [hc] at hd; cases hd
      · rw [words_cons_blank hd]; exact ih mem
    | false =>
      -- the words of the tail are those of the whole text, the first one perhaps without `d`
      rcases t with _ | ⟨e, t⟩
      · rw [words_cons_gap hd (.inl rfl)]
        exact ⟨[d], List.mem_cons_self, mem⟩
      · cases he : isBlank e with
        | true =>
          rw [words_cons_gap hd (.inr ⟨e, t, rfl, he⟩)]
          rcases List.mem_cons.mp mem with rfl | mem
          · exact ⟨[c], List.mem_cons_self, List.mem_cons_self⟩
          · obtain ⟨word, hw, hcw⟩ := ih mem
            exact ⟨word, List.mem_cons_of_mem _ hw, hcw⟩
        | false =>
          obtain ⟨word, more, hw, hdw⟩ := words_cons_firm (t := t) hd he
          rw [hdw]
          rcases List.mem_cons.mp mem with rfl | mem
          · exact ⟨c :: word, List.mem_cons_self, List.mem_cons_self⟩
          · obtain ⟨w, hmem, hcw⟩ := ih mem
            rw [hw] at hmem
            rcases List.mem_cons.mp hmem with rfl | hmem
            · exact ⟨d :: w, List.mem_cons_self, List.mem_cons_of_mem d hcw⟩
            · exact ⟨w, List.mem_cons_of_mem _ hmem, hcw⟩

theorem FirmEnd.words_ne_nil {t : Text} (firm : FirmEnd t) (filled : t ≠ []) :
    words t ≠ [] := by
  have last := firm (t.getLast filled) (List.getLast?_eq_some_getLast filled)
  obtain ⟨word, mem, _⟩ := mem_words_of_firm last (List.getLast_mem filled)
  exact List.ne_nil_of_mem mem

end Text

end Criteria
