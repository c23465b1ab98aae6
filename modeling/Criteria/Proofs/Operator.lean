import Criteria.Sentence
import Criteria.Proofs.Spelling

/-!
# Where a comparator stands

The split of a filter text tries the spellings of the catalog at one place after
the other. This module gives both tries a form to reason with.

* `readOperator?_eq`: at one place the words and the symbols of the catalog are
  tried as one list, each in the same way (`readAs?`).
* `spellingAt?`: the spelling that is taken there, the first that fits.
* `readOperator?_append`: between a text that ends firmly and one that opens with
  a blank nothing new is found, unless a gap of some spelling is the seam
  (`Straddles`).
* `split?_eq_some_iff`, `split?_eq_none_iff`: the subject ends at the first place,
  but for the start of the text, where a comparator stands.
-/

namespace Criteria

namespace Sentence

open Text Spelling

/-- All spellings in the order in which they are tried. -/
def spellings : List Text := catalogWords ++ catalogSymbols

/-- Whether a spelling may stand between what is before and after it: a word needs a blank
before it and its end after it. -/
def fits (a blanks rest : Text) : Bool := !isWord a || (!blanks.isEmpty && atWordEnd rest)

/-- What the comparator's part and the controls are if a spelling is taken for the
comparator at the start of a text. -/
def readAs? (t a : Text) : Option (Text × Text) :=
  match read? a (trimStart t) with
  | some (taken, rest) =>
      if fits a (leadingBlanks t) rest then some (closeOperator (leadingBlanks t ++ taken) rest)
      else none
  | none => none

/-- The spelling that is taken for the comparator at the start of a text. -/
def spellingAt? (t : Text) : Option Text := spellings.find? fun a => (readAs? t a).isSome

/-! ## One place -/

theorem fits_symbol {a blanks rest : Text} (symbol : isWord a = false) :
    fits a blanks rest = true := by
  rw [fits, symbol]
  rfl

theorem fits_word_iff {a t rest : Text} (word : isWord a = true) :
    fits a (leadingBlanks t) rest = true ↔ OpensBlank t ∧ atWordEnd rest = true := by
  rw [fits, word, ← leadingBlanks_ne_nil_iff]
  simp

theorem readAs?_eq_some {t a q r : Text} :
    readAs? t a = some (q, r) ↔
      ∃ x rest, read? a (trimStart t) = some (x, rest) ∧ fits a (leadingBlanks t) rest = true ∧
        q = leadingBlanks t ++ x ++ leadingBlanks rest ∧ r = trimStart rest := by
  unfold readAs?
  cases h : read? a (trimStart t) with
  | none => exact ⟨fun h => (nomatch h), fun ⟨_, _, h, _⟩ => (nomatch h)⟩
  | some p =>
    obtain ⟨x, rest⟩ := p
    dsimp only
    split
    next hf =>
      simp only [closeOperator, Option.some.injEq, Prod.mk.injEq]
      constructor
      · rintro ⟨rfl, rfl⟩
        exact ⟨x, rest, ⟨rfl, rfl⟩, hf, rfl, rfl⟩
      · rintro ⟨y, rest', ⟨rfl, rfl⟩, _, rfl, rfl⟩
        exact ⟨rfl, rfl⟩
    next hf =>
      refine ⟨fun h => (nomatch h), ?_⟩
      rintro ⟨y, rest', h, hf', _⟩
      cases h
      exact absurd hf' hf

theorem readAs?_split {t a q r : Text} (h : readAs? t a = some (q, r)) : t = q ++ r := by
  obtain ⟨x, rest, hx, _, rfl, rfl⟩ := readAs?_eq_some.mp h
  rw [List.append_assoc, leadingBlanks_append_trimStart, List.append_assoc, ← (read?_sound hx).1,
    leadingBlanks_append_trimStart]

theorem findSome?_congr {α β : Type} {f g : α → Option β} {l : List α}
    (h : ∀ a ∈ l, f a = g a) : l.findSome? f = l.findSome? g := by
  induction l with
  | nil => rfl
  | cons a l ih =>
    rw [List.findSome?_cons, List.findSome?_cons, h a List.mem_cons_self,
      ih fun b hb => h b (List.mem_cons_of_mem a hb)]

theorem catalogWords_isWord : ∀ a ∈ catalogWords, isWord a = true := by decide

theorem catalogSymbols_not_isWord : ∀ a ∈ catalogSymbols, isWord a = false := by decide

theorem readWord?_eq (t : Text) :
    readWord? (leadingBlanks t) (trimStart t) = catalogWords.findSome? (readAs? t) := by
  unfold readWord?
  split
  next empty =>
    refine (List.findSome?_eq_none_iff.mpr fun a ha => ?_).symm
    unfold readAs? fits
    rw [catalogWords_isWord a ha, empty]
    split <;> rfl
  next blanks =>
    refine findSome?_congr fun a ha => ?_
    unfold readAs? fits
    rw [catalogWords_isWord a ha, Bool.eq_false_iff.mpr blanks]
    rfl

theorem readSymbol?_eq (t : Text) :
    readSymbol? (leadingBlanks t) (trimStart t) = catalogSymbols.findSome? (readAs? t) := by
  unfold readSymbol?
  refine findSome?_congr fun a ha => ?_
  unfold readAs? fits
  rw [catalogSymbols_not_isWord a ha]
  cases read? a (trimStart t) <;> rfl

/-- Words and symbols are tried as one list. -/
theorem readOperator?_eq (t : Text) : readOperator? t = spellings.findSome? (readAs? t) := by
  rw [spellings, List.findSome?_append, ← readWord?_eq, ← readSymbol?_eq]
  rfl

theorem readOperator?_eq_none_iff {t : Text} :
    readOperator? t = none ↔ ∀ a ∈ spellings, readAs? t a = none := by
  rw [readOperator?_eq, List.findSome?_eq_none_iff]

/-- What is read at a place is read as the spelling that is taken there. -/
theorem readOperator?_eq_bind (t : Text) :
    readOperator? t = (spellingAt? t).bind (readAs? t) := by
  rw [readOperator?_eq, spellingAt?]
  induction spellings with
  | nil => rfl
  | cons a l ih =>
    rw [List.findSome?_cons, List.find?_cons]
    cases h : readAs? t a with
    | none => exact ih
    | some p => exact h.symm

theorem spellingAt?_mem {t a : Text} (h : spellingAt? t = some a) : a ∈ spellings :=
  List.mem_of_find?_eq_some h

theorem readOperator?_spelling {t q r : Text} (h : readOperator? t = some (q, r)) :
    ∃ a, spellingAt? t = some a ∧ readAs? t a = some (q, r) := by
  rw [readOperator?_eq_bind] at h
  exact Option.bind_eq_some_iff.mp h

theorem readOperator?_split {t q r : Text} (h : readOperator? t = some (q, r)) : t = q ++ r := by
  obtain ⟨_, _, ha⟩ := readOperator?_spelling h
  exact readAs?_split ha

/-! ## Across a seam -/

/-- Adds a text with a blank at its start to what was read before it. -/
def extendParts (w : Text) (p : Text × Text) : Text × Text :=
  if p.2 = [] then (p.1 ++ leadingBlanks w, trimStart w) else (p.1, p.2 ++ w)

/-- A gap of the spelling `a` is the seam between `u` and `w`. -/
structure Straddles (u w a a₁ a₂ : Text) : Prop where
  parts : a = a₁ ++ ' ' :: a₂
  opens : OpensBlank u
  before : read? a₁ (trimStart u) = some (trimStart u, [])
  after : ∃ y r, read? a₂ (trimStart w) = some (y, r) ∧ atWordEnd r = true

theorem atWordEnd_append {t w : Text} (hw : OpensBlank w) : atWordEnd (t ++ w) = atWordEnd t := by
  obtain ⟨b, rest, rfl, hb⟩ := hw
  cases t with
  | nil => exact hb
  | cons c t => rfl

theorem spellings_plain : ∀ a ∈ spellings, Plain a := by decide

theorem spellings_spaced_isWord : ∀ a ∈ spellings, ' ' ∈ a → isWord a = true := by decide

theorem fits_extend {a b rest w : Text} (hw : OpensBlank w) :
    fits a b (rest ++ w) = fits a b rest := by
  rw [fits, fits, atWordEnd_append hw]

theorem FirmEnd.of_read {a u x r : Text} (firm : FirmEnd u) (h : read? a u = some (x, r)) :
    FirmEnd r := by
  obtain ⟨rfl, _⟩ := read?_sound h
  exact FirmEnd.of_append firm

theorem closeOperator_extend {rest w : Text} (firm : FirmEnd rest) (taken : Text) :
    closeOperator taken (rest ++ w) = extendParts w (closeOperator taken rest) := by
  unfold closeOperator extendParts
  rcases Decidable.em (rest = []) with rfl | hr
  · simp [leadingBlanks, trimStart]
  · have inside := firm.trimStart_ne_nil hr
    rw [if_neg inside, leadingBlanks_append inside, trimStart_append inside]

theorem readAs?_extend {u w a : Text} {p : Text × Text} (firm : FirmEnd u) (hu : u ≠ [])
    (hw : OpensBlank w) (h : readAs? u a = some p) :
    readAs? (u ++ w) a = some (extendParts w p) := by
  have inside := firm.trimStart_ne_nil hu
  obtain ⟨x, rest, hx, hf, hq, hr⟩ := readAs?_eq_some.mp h
  have hp : p = closeOperator (leadingBlanks u ++ x) rest := Prod.ext hq hr
  have hx' := read?_extend firm.trimStart hx w
  unfold readAs?
  rw [trimStart_append inside, leadingBlanks_append inside, hx']
  dsimp only
  rw [fits_extend hw, if_pos hf, closeOperator_extend (FirmEnd.of_read firm.trimStart hx), hp]

theorem readAs?_seam {u w a : Text} {p : Text × Text} (mem : a ∈ spellings) (firm : FirmEnd u)
    (hu : u ≠ []) (hw : OpensBlank w) (h : readAs? (u ++ w) a = some p) :
    (readAs? u a).isSome ∨ ∃ a₁ a₂, Straddles u w a a₁ a₂ := by
  have inside := firm.trimStart_ne_nil hu
  obtain ⟨x, rest, hx, hf, _, _⟩ := readAs?_eq_some.mp h
  rw [trimStart_append inside] at hx
  rw [leadingBlanks_append inside] at hf
  rcases read?_seam (spellings_plain a mem) firm.trimStart hw hx with
    ⟨r', hr, rfl⟩ | ⟨a₁, a₂, y, rfl, h₁, h₂⟩
  · left
    rw [fits_extend hw] at hf
    unfold readAs?
    rw [hr]
    dsimp only
    rw [if_pos hf]
    rfl
  · right
    have word : isWord (a₁ ++ ' ' :: a₂) = true :=
      spellings_spaced_isWord _ mem (List.mem_append_right a₁ List.mem_cons_self)
    rw [fits, word] at hf
    simp only [Bool.not_true, Bool.false_or, Bool.and_eq_true, Bool.not_eq_true',
      List.isEmpty_eq_false_iff] at hf
    exact ⟨a₁, a₂, rfl, leadingBlanks_ne_nil_iff.mp hf.1, h₁, y, rest, h₂, hf.2⟩

/-- Where no gap is the seam, the seam changes nothing of what is found. -/
theorem readOperator?_append {u w : Text} (firm : FirmEnd u) (hu : u ≠ []) (hw : OpensBlank w)
    (apart : ∀ a ∈ spellings, ∀ a₁ a₂, ¬ Straddles u w a a₁ a₂) :
    readOperator? (u ++ w) = (readOperator? u).map (extendParts w) := by
  rw [readOperator?_eq, readOperator?_eq, List.map_findSome?]
  refine findSome?_congr fun a ha => ?_
  rw [Function.comp_apply]
  -- spelling for spelling, what is read with `w` is what is read without it
  cases h : readAs? u a with
  | some p => exact readAs?_extend firm hu hw h
  | none =>
    cases h' : readAs? (u ++ w) a with
    | none => rfl
    | some p =>
      rcases readAs?_seam ha firm hu hw h' with found | ⟨a₁, a₂, straddles⟩
      · rw [h] at found; cases found
      · exact absurd straddles (apart a ha a₁ a₂)

/-- What is found in the first text is not lost. -/
theorem readOperator?_append_ne_none {u w : Text} (firm : FirmEnd u) (hu : u ≠ [])
    (hw : OpensBlank w) (h : readOperator? u ≠ none) : readOperator? (u ++ w) ≠ none := by
  intro none
  refine h (readOperator?_eq_none_iff.mpr fun a ha => ?_)
  cases found : readAs? u a with
  | none => rfl
  | some p =>
    have := readOperator?_eq_none_iff.mp none a ha
    rw [readAs?_extend firm hu hw found] at this
    cases this

/-- A spelling with a gap at the seam is found. -/
theorem readOperator?_of_straddles {u w a a₁ a₂ : Text} (mem : a ∈ spellings) (firm : FirmEnd u)
    (hw : OpensBlank w) (h : Straddles u w a a₁ a₂) : readOperator? (u ++ w) ≠ none := by
  obtain ⟨rfl, opens, before, y, r, after, ended⟩ := h
  have hu : u ≠ [] := by
    rintro rfl
    obtain ⟨_, _, h, _⟩ := opens
    cases h
  have inside := firm.trimStart_ne_nil hu
  have gap := leadingBlanks_ne_nil_iff.mpr hw
  have whole := read?_gap (read?_extend firm.trimStart before w) (by simpa using gap)
    (by simpa using after)
  intro none
  have := readOperator?_eq_none_iff.mp none _ mem
  unfold readAs? at this
  rw [trimStart_append inside, leadingBlanks_append inside, whole] at this
  simp only [fits, ended, List.isEmpty_eq_false_iff.mpr (leadingBlanks_ne_nil_iff.mpr opens),
    Bool.not_false, Bool.and_true, Bool.or_true, if_true] at this
  cases this

/-! ## The first place -/

theorem splitAnywhere?_nil :
    splitAnywhere? [] = (readOperator? []).map fun p => ⟨[], p.1, p.2⟩ := by
  rfl

theorem splitAnywhere?_cons (c : Char) (t : Text) :
    splitAnywhere? (c :: t) =
      match readOperator? (c :: t) with
      | some (operator, controls) => some ⟨[], operator, controls⟩
      | none => (splitAnywhere? t).map (prependSubject c) := by
  rfl

theorem splitAnywhere?_eq_some_iff {t p q r : Text} :
    splitAnywhere? t = some ⟨p, q, r⟩ ↔
      ∃ rest, t = p ++ rest ∧ readOperator? rest = some (q, r) ∧
        ∀ s s', p = s ++ s' → s' ≠ [] → readOperator? (s' ++ rest) = none := by
  induction t generalizing p with
  | nil =>
    rw [splitAnywhere?_nil, Option.map_eq_some_iff]
    constructor
    · rintro ⟨⟨q', r'⟩, h, heq⟩
      cases heq
      exact ⟨[], rfl, h, fun s s' hs hs' => absurd (List.append_eq_nil_iff.mp hs.symm).2 hs'⟩
    · rintro ⟨rest, hrest, h, _⟩
      obtain ⟨rfl, rfl⟩ := List.append_eq_nil_iff.mp hrest.symm
      exact ⟨(q, r), h, rfl⟩
  | cons c t ih =>
    rw [splitAnywhere?_cons]
    cases h : readOperator? (c :: t) with
    | some found =>
      obtain ⟨q', r'⟩ := found
      dsimp only
      constructor
      · intro heq
        cases heq
        exact ⟨c :: t, rfl, h, fun s s' hs hs' => absurd (List.append_eq_nil_iff.mp hs.symm).2 hs'⟩
      · rintro ⟨rest, hrest, hread, first⟩
        cases p with
        | nil =>
          rw [List.nil_append] at hrest
          subst hrest
          rw [h] at hread
          cases hread
          rfl
        | cons d p =>
          have := first [] (d :: p) rfl (List.cons_ne_nil d p)
          rw [← hrest, h] at this
          cases this
    | none =>
      dsimp only
      rw [Option.map_eq_some_iff]
      constructor
      · -- the places of `c :: t` are its start, where nothing is found, and those of `t`
        rintro ⟨⟨p', q', r'⟩, hsplit, heq⟩
        cases heq
        obtain ⟨rest, rfl, hread, first⟩ := ih.mp hsplit
        refine ⟨rest, rfl, hread, fun s s' hs hs' => ?_⟩
        cases s with
        | nil =>
          rw [List.nil_append] at hs
          rw [← hs]
          exact h
        | cons d s => exact first s s' (List.cons.inj hs).2 hs'
      · rintro ⟨rest, hrest, hread, first⟩
        cases p with
        | nil =>
          rw [List.nil_append] at hrest
          rw [hrest, hread] at h
          cases h
        | cons d p =>
          obtain ⟨rfl, ht⟩ := List.cons.inj hrest
          refine ⟨⟨p, q, r⟩, ih.mpr ⟨rest, ht, hread, fun s s' hs hs' => ?_⟩, rfl⟩
          exact first (c :: s) s' (congrArg (c :: ·) hs) hs'

/-- The subject is the shortest start of the text, but for the empty one, that a comparator
follows. -/
theorem split?_eq_some_iff {t p q r : Text} :
    split? t = some ⟨p, q, r⟩ ↔
      p ≠ [] ∧ ∃ rest, t = p ++ rest ∧ readOperator? rest = some (q, r) ∧
        ∀ s s', p = s ++ s' → s ≠ [] → s' ≠ [] → readOperator? (s' ++ rest) = none := by
  cases t with
  | nil =>
    refine ⟨fun h => (nomatch h), ?_⟩
    rintro ⟨hp, rest, hrest, _⟩
    exact absurd (List.append_eq_nil_iff.mp hrest.symm).1 hp
  | cons c t =>
    rw [split?, Option.map_eq_some_iff]
    constructor
    · rintro ⟨⟨p', q', r'⟩, hsplit, heq⟩
      cases heq
      obtain ⟨rest, rfl, hread, first⟩ := splitAnywhere?_eq_some_iff.mp hsplit
      refine ⟨List.cons_ne_nil c p', rest, rfl, hread, fun s s' hs ne ne' => ?_⟩
      cases s with
      | nil => exact absurd rfl ne
      | cons d s => exact first s s' (List.cons.inj hs).2 ne'
    · rintro ⟨hp, rest, hrest, hread, first⟩
      cases p with
      | nil => exact absurd rfl hp
      | cons d p =>
        obtain ⟨rfl, ht⟩ := List.cons.inj hrest
        refine ⟨⟨p, q, r⟩, splitAnywhere?_eq_some_iff.mpr ⟨rest, ht, hread, fun s s' hs ne => ?_⟩,
          rfl⟩
        exact first (c :: s) s' (congrArg (c :: ·) hs) (List.cons_ne_nil c s) ne

/-- The subject ends no later than where a comparator stands. -/
theorem split?_subject_le {t s rest : Text} {parts : Sentence} (h : split? t = some parts)
    (ht : t = s ++ rest) (hs : s ≠ []) (found : readOperator? rest ≠ none) :
    parts.subject.length ≤ s.length := by
  obtain ⟨p, q, r⟩ := parts
  obtain ⟨_, rest', ht', _, first⟩ := split?_eq_some_iff.mp h
  dsimp only
  rcases List.append_eq_append_iff.mp (ht.symm.trans ht') with ⟨s', rfl, rfl⟩ | ⟨s', rfl, _⟩
  · cases s' with
    | nil => exact Nat.le_of_eq (congrArg List.length (List.append_nil s))
    | cons d s' => exact absurd (first s (d :: s') rfl hs (List.cons_ne_nil d s')) found
  · exact List.length_append ▸ Nat.le_add_right p.length s'.length

theorem splitAnywhere?_eq_none_iff {t : Text} :
    splitAnywhere? t = none ↔ ∀ p rest, t = p ++ rest → readOperator? rest = none := by
  induction t with
  | nil =>
    rw [splitAnywhere?_nil, Option.map_eq_none_iff]
    constructor
    · intro h p rest hrest
      rw [(List.append_eq_nil_iff.mp hrest.symm).2]
      exact h
    · exact fun h => h [] [] rfl
  | cons c t ih =>
    rw [splitAnywhere?_cons]
    cases h : readOperator? (c :: t) with
    | some found =>
      refine ⟨fun h => (nomatch h), fun none => ?_⟩
      rw [none [] (c :: t) rfl] at h
      cases h
    | none =>
      dsimp only
      rw [Option.map_eq_none_iff, ih]
      constructor
      · intro none p rest hrest
        cases p with
        | nil =>
          rw [List.nil_append] at hrest
          rw [← hrest]
          exact h
        | cons d p => exact none p rest (List.cons.inj hrest).2
      · exact fun none p rest hrest => none (c :: p) rest (congrArg (c :: ·) hrest)

theorem split?_eq_none_iff {t : Text} :
    split? t = none ↔ ∀ p rest, t = p ++ rest → p ≠ [] → readOperator? rest = none := by
  cases t with
  | nil =>
    refine ⟨fun _ p rest hrest hp => ?_, fun _ => rfl⟩
    exact absurd (List.append_eq_nil_iff.mp hrest.symm).1 hp
  | cons c t =>
    rw [split?, Option.map_eq_none_iff, splitAnywhere?_eq_none_iff]
    constructor
    · intro none p rest hrest hp
      cases p with
      | nil => exact absurd rfl hp
      | cons d p => exact none p rest (List.cons.inj hrest).2
    · intro none p rest hrest
      exact none (c :: p) rest (congrArg (c :: ·) hrest) (List.cons_ne_nil c p)

end Sentence

end Criteria
