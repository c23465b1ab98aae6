import Criteria.Proofs.Grammar
import Criteria.Proofs.Pattern.Written

/-!
# The split as a pattern

A filter text is split by looking from place to place for one spelling after the other. The same
split can be written as one pattern with a group for each part. Here that pattern is read, and
the split is found among the ways in which its groups may take a text.

* `writes_spelling`, `matches_letters_iff`: a spelling as a pattern matches its ways of writing.
* `grammar_parse`: what the pattern is read as.
* `Divides`, `divides_iff`: what the groups may take. Behind a subject that is not empty a
  comparator stands before the controls.
* `Prefers`, `grammar_splits`: of these ways the split is the one that is preferred, and the
  pattern is found in the texts that split.
-/

namespace Criteria

namespace Sentence

open Pattern Reader Reader.State Spelling Text

/-! ## Letters of spellings -/

/-- Letter case is ignored, and the dot takes every character. -/
def splitFlags : Flags := { Flags.initial with ignoreCase := true, dotAll := true }

/-- All that spellings are written with, but for their spaces. -/
def spellingLetters : Text := "abcdefghilmnopqrstuwy!<=>".toList

/-- The characters that stand for a letter of a spelling. -/
def variants (l : Char) : Text :=
  ((List.range 128).map Char.ofNat ++ [longS]).filter (sameLetter l)

theorem mem_spellingLetters {a : Text} (mem : a ∈ spellings) :
    ∀ l ∈ a, l ≠ ' ' → l ∈ spellingLetters := by
  have table : (spellings.all fun a => a.all fun l => l == ' ' || spellingLetters.contains l) =
      true := by decide +kernel
  intro l inSpelling letter
  have found := List.all_eq_true.mp (List.all_eq_true.mp table a mem) l inSpelling
  rw [Bool.or_eq_true, beq_iff_eq, List.contains_iff_mem] at found
  exact found.resolve_left letter

theorem closure_letter {l : Char} (mem : l ∈ spellingLetters) :
    Folding.closure (.single l) = .ofText (variants l) := by
  have table : (spellingLetters.all fun l =>
      (CharSet.single l).isAscii && (Folding.folded Folding.asciiPairs (.single l)).isAscii &&
        Folding.unfolded Folding.asciiPairs (Folding.folded Folding.asciiPairs (.single l)) ==
          .ofText (variants l)) = true := by decide +kernel
  have found := List.all_eq_true.mp table l mem
  rw [Bool.and_eq_true, Bool.and_eq_true, beq_iff_eq] at found
  rw [Folding.closure_eq found.1.1 found.1.2, found.2]

/-- A letter of a spelling, with letter case ignored. -/
theorem contains_letter_iff {l c : Char} (mem : l ∈ spellingLetters) :
    (Folding.closure (.single l)).contains c = true ↔ sameLetter l c = true := by
  rw [closure_letter mem, CharSet.contains_ofText_iff, variants, List.mem_filter]
  refine and_iff_right_of_imp fun same => List.mem_append.mpr ?_
  rcases sameLetter_iff.mp same with lower | ⟨_, rfl⟩
  · have ascii : (spellingLetters.all (·.toNat < 128)) = true := by decide
    have small : l.toNat < 128 := of_decide_eq_true (List.all_eq_true.mp ascii l mem)
    have below : c.toNat < 128 := by
      rcases Nat.lt_or_ge c.toNat 128 with below | foreign
      · exact below
      · rwa [← lower, LetterCase.toLower_of_not_capital (.inr (by omega))] at small
    exact .inl (List.mem_map.mpr ⟨c.toNat, List.mem_range.mpr below, Char.ofNat_toNat c⟩)
  · exact .inr (List.mem_singleton.mpr rfl)

/-! ## Spellings -/

/-- Blanks, as many as are asked for or more. -/
def blanksPart (least : Nat) : Pattern := repeated (one Property.blanks) least none

def letterPart (l : Char) : Pattern :=
  if l = ' ' then blanksPart 1 else one (Folding.closure (.single l))

def spellingPart (a : Text) : Pattern := inRow (a.map letterPart)

def letterText (l : Char) : Text := if l = ' ' then ['\\', 's', '+'] else [l]

variable {a p q r t : Text}

theorem writes_blank : WritesAtom splitFlags ['\\', 's'] (one Property.blanks) :=
  writes_shorthand rfl (by decide) (congrArg some (if_pos rfl))

theorem writes_letters (free : ∀ l ∈ a, l ≠ ' ' → l ∉ reserved) :
    WritesRow splitFlags (a.flatMap letterText) (a.map letterPart) := by
  induction a with
  | nil => exact .nil
  | cons l a ih =>
    obtain ⟨first, later⟩ := List.forall_mem_cons.mp free
    have head : Writes splitFlags (letterText l) (letterPart l) := by
      unfold letterText letterPart
      split
      next space => exact writes_blank.some rfl
      next letter => exact (writes_unreserved rfl (first letter)).writes
    have apart : (a.flatMap letterText).head? ≠ some '?' := by
      cases a with
      | nil => exact fun none => (nomatch none)
      | cons m a =>
        rw [List.flatMap_cons, letterText]
        split
        next space =>
          show some '\\' ≠ some '?'
          decide
        next letter =>
          intro mark
          have reservedMark : '?' ∈ reserved := by decide
          exact later m List.mem_cons_self letter (Option.some.inj mark ▸ reservedMark)
    rw [List.flatMap_cons, List.map_cons]
    exact .cons head (ih later) apart

theorem writes_spelling (mem : a ∈ spellings) :
    WritesRow splitFlags ("\\s+".toList.intercalate (words a)) (a.map letterPart) := by
  have texts : (spellings.all fun a =>
      "\\s+".toList.intercalate (words a) == a.flatMap letterText) = true := by decide +kernel
  have free : (spellingLetters.all (!reserved.contains ·)) = true := by decide
  rw [beq_iff_eq.mp (List.all_eq_true.mp texts a mem)]
  refine writes_letters fun l inSpelling letter => ?_
  have plain := List.all_eq_true.mp free l (mem_spellingLetters mem l inSpelling letter)
  simpa using plain

theorem writes_alternatives (as : List Text) (ne : as ≠ []) (among : ∀ a ∈ as, a ∈ spellings) :
    WritesChoice splitFlags (alternatives as) (as.map spellingPart) :=
  .ofList rfl (fun a => "\\s+".toList.intercalate (words a)) (List.map letterPart) ne
    fun a mem => writes_spelling (among a mem)

theorem matches_blanks_iff {least : Nat} :
    (blanksPart least).MatchesWhole t ↔ least ≤ t.length ∧ AllBlank t := by
  rw [blanksPart, matchesWhole_row_iff]
  simp only [Property.contains_blanks]
  exact and_congr_right fun _ => and_iff_right fun _ unbounded => nomatch unbounded

theorem matches_gap_iff : (blanksPart 1).MatchesWhole t ↔ t ≠ [] ∧ AllBlank t := by
  rw [matches_blanks_iff, Nat.one_le_iff_ne_zero, ne_eq, List.length_eq_zero_iff]

theorem matches_blanksPart_iff : (blanksPart 0).MatchesWhole t ↔ AllBlank t :=
  matches_blanks_iff.trans (and_iff_right (Nat.zero_le _))

theorem isFree_blanksPart (least : Nat) : (blanksPart least).isFree = true := by
  rw [blanksPart, isFree, isFree]

theorem isFree_letterPart : ∀ p ∈ a.map letterPart, p.isFree = true := by
  intro p mem
  obtain ⟨l, _, rfl⟩ := List.mem_map.mp mem
  unfold letterPart
  split <;> rfl

/-- A spelling matches the texts that are ways of writing it. -/
theorem matches_letters_iff (known : ∀ l ∈ a, l ≠ ' ' → l ∈ spellingLetters) :
    (spellingPart a).MatchesWhole t ↔ Spelt a t := by
  unfold spellingPart
  induction a generalizing t with
  | nil =>
    refine matchesWhole_empty_iff.trans ⟨?_, fun spelt => ?_⟩
    · rintro rfl
      exact .nil
    · cases spelt
      rfl
  | cons l a ih =>
    obtain ⟨first, later⟩ := List.forall_mem_cons.mp known
    have free : (letterPart l).isFree = true := isFree_letterPart (a := [l]) _ List.mem_cons_self
    rw [List.map_cons, matchesWhole_inRow_cons_iff free isFree_letterPart]
    simp only [ih later]
    by_cases space : l = ' '
    · subst space
      have gap : letterPart ' ' = blanksPart 1 := rfl
      simp only [gap, matches_gap_iff]
      constructor
      · rintro ⟨g, x, rfl, ⟨ne, blank⟩, spelt⟩
        exact .gap ne blank spelt
      · intro spelt
        cases spelt with
        | letter other _ _ => exact absurd rfl other
        | gap ne blank spelt => exact ⟨_, _, rfl, ⟨ne, blank⟩, spelt⟩
    · have letter : letterPart l = one (Folding.closure (.single l)) := if_neg space
      simp only [letter, matchesWhole_one_iff, contains_letter_iff (first space)]
      constructor
      · rintro ⟨_, x, rfl, ⟨c, rfl, same⟩, spelt⟩
        exact .letter space same spelt
      · intro spelt
        cases spelt with
        | letter _ same spelt => exact ⟨[_], _, rfl, ⟨_, rfl, same⟩, spelt⟩
        | gap _ _ _ => exact absurd rfl space

theorem isFree_spellings (as : List Text) : (inChoice (as.map spellingPart)).isFree = true := by
  refine isFree_inChoice fun p mem => ?_
  obtain ⟨a, _, rfl⟩ := List.mem_map.mp mem
  exact isFree_inRow isFree_letterPart

theorem matches_spellings_iff (as : List Text) (ne : as ≠ []) (among : ∀ a ∈ as, a ∈ spellings) :
    (inChoice (as.map spellingPart)).MatchesWhole t ↔ ∃ a ∈ as, Spelt a t := by
  rw [matchesWhole_inChoice_iff (by simpa using ne)]
  constructor
  · rintro ⟨_, mem, whole⟩
    obtain ⟨a, listed, rfl⟩ := List.mem_map.mp mem
    exact ⟨a, listed, (matches_letters_iff (mem_spellingLetters (among a listed))).mp whole⟩
  · rintro ⟨a, listed, spelt⟩
    exact ⟨_, List.mem_map_of_mem listed,
      (matches_letters_iff (mem_spellingLetters (among a listed))).mpr spelt⟩

/-! ## What the pattern is read as -/

/-- Any characters, as many as are asked for or more. -/
def charactersPart (least : Nat) : Pattern := repeated (one .full) least none

/-- A word with blanks before it, and with blanks or the end of the text behind it. -/
def wordParts : List Pattern :=
  [blanksPart 1, inChoice (catalogWords.map spellingPart),
    either (blanksPart 1) (anchor .textEnd)]

def symbolParts : List Pattern :=
  [blanksPart 0, inChoice (catalogSymbols.map spellingPart), blanksPart 0]

def operatorPart : Pattern := either (inRow wordParts) (inRow symbolParts)

/-- The three groups: subject, comparator and controls. -/
def groupParts : List Pattern :=
  [group (charactersPart 1), group operatorPart, group (charactersPart 0)]

/-- The text of the group for the comparator. -/
def operatorText : Text :=
  ['\\', 's', '+'] ++ ((['(', '?', ':'] ++ (alternatives catalogWords ++ [')'])) ++
    (['(', '?', ':'] ++ ((['\\', 's', '+'] ++ '|' :: ['$']) ++ [')']))) ++
  '|' :: (['\\', 's', '*'] ++ ((['(', '?', ':'] ++ (alternatives catalogSymbols ++ [')'])) ++
    ['\\', 's', '*']))

theorem writes_operator :
    WritesChoice splitFlags operatorText [inRow wordParts, inRow symbolParts] := by
  have words := (writes_alternatives catalogWords (by decide)
    fun a mem => List.mem_append_left _ mem).inGroup rfl
  have symbols := (writes_alternatives catalogSymbols (by decide)
    fun a mem => List.mem_append_right _ mem).inGroup rfl
  have wordEnd := (WritesChoice.bar rfl (writes_blank.some rfl).row
    (writes_textEnd rfl).writes.row.choice).inGroup rfl
  have gap : Writes splitFlags ['\\', 's', '*'] (blanksPart 0) := writes_blank.many rfl
  exact .bar rfl
    (.cons (writes_blank.some rfl) (.cons words.writes wordEnd.writes.row (by simp)) (by simp))
    (WritesRow.cons gap (.cons symbols.writes gap.row (by simp)) (by simp)).choice

/-- What the whole pattern is read as. The flags before it stand for a part without characters. -/
def wholePattern : Pattern :=
  inRow (.empty :: anchor .textStart :: (groupParts ++ [anchor .textEnd]))

theorem grammar_eq : grammar = ['(', '?', 'i', 's', ')'] ++ (['^'] ++
    ((['('] ++ ((['.'] ++ ['+', '?']) ++ [')'])) ++ ((['('] ++ (operatorText ++ [')'])) ++
      ((['('] ++ ((['.'] ++ ['*']) ++ [')'])) ++ ['$'])))) := by
  have opening : "(?is)^(.+?)(\\s+(?:".toList = ['(', '?', 'i', 's', ')', '^', '(', '.', '+', '?',
    ')', '(', '\\', 's', '+', '(', '?', ':'] := by decide
  have middle : ")(?:\\s+|$)|\\s*(?:".toList = [')', '(', '?', ':', '\\', 's', '+', '|', '$', ')',
    '|', '\\', 's', '*', '(', '?', ':'] := by decide
  have closing : ")\\s*)(.*)$".toList =
    [')', '\\', 's', '*', ')', '(', '.', '*', ')', '$'] := by decide
  unfold grammar operatorText
  -- what the alternatives are does not matter, and they are not to be computed
  generalize alternatives catalogWords = words
  generalize alternatives catalogSymbols = symbols
  rw [opening, middle, closing]
  simp only [List.append_assoc, List.cons_append, List.nil_append]

theorem grammar_parse : ∃ piece, parse? grammar = some piece ∧ piece.pattern = wholePattern := by
  have dot : WritesAtom splitFlags ['.'] (one .full) := writes_dot rfl rfl
  have start : Writes splitFlags ['^'] (anchor .textStart) := (writes_textStart rfl).writes
  have finish : Writes splitFlags ['$'] (anchor .textEnd) := (writes_textEnd rfl).writes
  have subject := (dot.someReluctantly rfl).writes.row.choice.captured rfl (by decide)
  have apart : operatorText.head? ≠ some '?' := by
    show some '\\' ≠ some '?'
    decide
  have operator := writes_operator.captured rfl apart
  have controls := (dot.many rfl).row.choice.captured rfl (by decide)
  have row := WritesRow.cons start (.cons subject.writes (.cons operator.writes
    (.cons controls.writes finish.row (by simp)) (by simp)) (by simp)) (by simp)
  rw [grammar_eq]
  refine row.parse?_flagged fun rest => readAll?_next rfl ?_
  show initial.readOpening? ('?' :: 'i' :: 's' :: ')' :: rest) = some (flagged splitFlags, rest)
  rw [readOpening?_eq]
  rfl

/-! ## How it divides a text -/

/-- The groups of the pattern may take the parts of the text like this. -/
structure Divides (t : Text) (parts : Sentence) : Prop where
  whole : parts.subject ++ parts.operator ++ parts.controls = t
  subject : (charactersPart 1).Spans t 0 parts.subject.length
  operator : operatorPart.Spans t parts.subject.length
    (parts.subject.length + parts.operator.length)
  controls : (charactersPart 0).Spans t (parts.subject.length + parts.operator.length) t.length

theorem found_iff_divides : Found wholePattern t ↔ ∃ parts, Divides t parts := by
  unfold Found wholePattern
  simp only [spans_inRow_cons_iff (p := .empty), exists_empty_then_iff]
  refine (found_ends_iff groupParts).trans ?_
  show (sequence (group _) (sequence (group _) (group _))).Spans t 0 t.length ↔ _
  simp only [spans_sequence_iff, spans_group_iff]
  constructor
  · rintro ⟨j, subject, k, operator, controls⟩
    obtain ⟨u, v, w, rfl, rfl, rfl⟩ := exists_cut operator.bounds.1 operator.bounds.2
    exact ⟨⟨u, v, w⟩, rfl, subject, operator, controls⟩
  · rintro ⟨parts, whole, subject, operator, controls⟩
    exact ⟨_, subject, _, operator, controls⟩

theorem matches_characters_iff {least : Nat} :
    (charactersPart least).MatchesWhole t ↔ least ≤ t.length := by
  rw [charactersPart, matchesWhole_row_iff]
  exact and_iff_left ⟨fun _ unbounded => (nomatch unbounded), fun c _ => CharSet.contains_full c⟩

/-- Behind a word stands a gap again, or the text ends there. -/
theorem spans_words_iff {i k : Nat} {gap words : Pattern} :
    (sequence gap (sequence words (either gap (anchor .textEnd)))).Spans t i k ↔
      (sequence gap (sequence words gap)).Spans t i k ∨
        (sequence gap words).Spans t i k ∧ k = t.length := by
  simp only [spans_sequence_iff, spans_either_iff, spans_textEnd_iff]
  constructor
  · rintro ⟨j, before, l, word, behind | ⟨rfl, rfl⟩⟩
    · exact .inl ⟨j, before, l, word, behind⟩
    · exact .inr ⟨⟨j, before, word⟩, rfl⟩
  · rintro (⟨j, before, l, word, behind⟩ | ⟨⟨j, before, word⟩, rfl⟩)
    · exact ⟨j, before, l, word, .inl behind⟩
    · exact ⟨j, before, _, word, .inr ⟨rfl, rfl⟩⟩

theorem spans_wordParts_iff : (inRow wordParts).Spans (p ++ q ++ r) p.length (p.length + q.length) ↔
    ∃ a ∈ catalogWords, ∃ b x e, q = b ++ x ++ e ∧ Stands a b x e r := by
  have words : (inChoice (catalogWords.map spellingPart)).isFree = true := isFree_spellings _
  have wordsIff {x : Text} := matches_spellings_iff (t := x) catalogWords (by decide)
    fun a mem => List.mem_append_left _ mem
  have last : p.length + q.length = (p ++ q ++ r).length ↔ r = [] := by
    rw [List.length_append, List.length_append, ← List.length_eq_zero_iff]
    omega
  show (sequence (blanksPart 1)
    (sequence _ (either (blanksPart 1) (anchor .textEnd)))).Spans _ _ _ ↔ _
  rw [spans_words_iff, last, spans_middle_iff (isFree_sequence rfl words),
    spans_middle_iff (isFree_sequence rfl (isFree_sequence words rfl))]
  simp only [matchesWhole_sequence_iff, isFree_blanksPart, isFree_sequence, words, wordsIff,
    matches_gap_iff]
  constructor
  · rintro (⟨b, _, rfl, ⟨ne, blank⟩, x, e, rfl, ⟨a, word, spelt⟩, some, behind⟩ |
      ⟨⟨b, x, rfl, ⟨ne, blank⟩, a, word, spelt⟩, rfl⟩)
    · refine ⟨a, word, b, x, e, (List.append_assoc b x e).symm, ?_⟩
      have listed := mem_spellings_iff.mp (List.mem_append_left _ word)
      exact ⟨listed, blank, spelt, behind, fun _ => ⟨ne, .inl some⟩⟩
    · refine ⟨a, word, b, x, [], (List.append_nil _).symm, ?_⟩
      have listed := mem_spellings_iff.mp (List.mem_append_left _ word)
      exact ⟨listed, blank, spelt, fun _ mem => (nomatch mem), fun _ => ⟨ne, .inr rfl⟩⟩
  · rintro ⟨a, word, b, x, e, rfl, stands⟩
    obtain ⟨ne, ended⟩ := stands.apart (catalogWords_isWord a word)
    rcases Decidable.em (e = []) with rfl | some
    · have split := List.append_nil (b ++ x)
      exact .inr ⟨⟨b, x, split, ⟨ne, stands.before_blank⟩, a, word, stands.written⟩,
        ended.resolve_left (absurd rfl)⟩
    · have split := List.append_assoc b x e
      exact .inl ⟨b, _, split, ⟨ne, stands.before_blank⟩, x, e, rfl, ⟨a, word, stands.written⟩,
        some, stands.after_blank⟩

theorem spans_symbolParts_iff :
    (inRow symbolParts).Spans (p ++ q ++ r) p.length (p.length + q.length) ↔
      ∃ a ∈ catalogSymbols, ∃ b x e, q = b ++ x ++ e ∧ Stands a b x e r := by
  have symbols : (inChoice (catalogSymbols.map spellingPart)).isFree = true := isFree_spellings _
  have symbolsIff {x : Text} := matches_spellings_iff (t := x) catalogSymbols (by decide)
    fun a mem => List.mem_append_right _ mem
  show (sequence (blanksPart 0) (sequence _ (blanksPart 0))).Spans _ _ _ ↔ _
  rw [spans_middle_iff (isFree_sequence rfl (isFree_sequence symbols rfl))]
  simp only [matchesWhole_sequence_iff, isFree_blanksPart, isFree_sequence, symbols, symbolsIff,
    matches_blanksPart_iff]
  constructor
  · rintro ⟨b, _, rfl, blank, x, e, rfl, ⟨a, symbol, spelt⟩, behind⟩
    refine ⟨a, symbol, b, x, e, (List.append_assoc b x e).symm, ?_⟩
    have listed := mem_spellings_iff.mp (List.mem_append_right _ symbol)
    refine ⟨listed, blank, spelt, behind, fun word => ?_⟩
    rw [catalogSymbols_not_isWord a symbol] at word
    cases word
  · rintro ⟨a, symbol, b, x, e, rfl, stands⟩
    exact ⟨b, _, List.append_assoc b x e, stands.before_blank, x, e, rfl,
      ⟨a, symbol, stands.written⟩, stands.after_blank⟩

/-- What the group for the comparator takes stands before the controls. -/
theorem spans_operator_iff : operatorPart.Spans (p ++ q ++ r) p.length (p.length + q.length) ↔
    ∃ a b x e, q = b ++ x ++ e ∧ Stands a b x e r := by
  rw [operatorPart, spans_either_iff, spans_wordParts_iff, spans_symbolParts_iff]
  constructor
  · rintro (⟨a, _, found⟩ | ⟨a, _, found⟩)
    · exact ⟨a, found⟩
    · exact ⟨a, found⟩
  · rintro ⟨a, b, x, e, split, stands⟩
    exact (List.mem_append.mp stands.mem_spellings).imp
      (fun word => ⟨a, word, b, x, e, split, stands⟩)
      (fun symbol => ⟨a, symbol, b, x, e, split, stands⟩)

theorem divides_iff : Divides t ⟨p, q, r⟩ ↔
    p ++ q ++ r = t ∧ p ≠ [] ∧ ∃ a b x e, q = b ++ x ++ e ∧ Stands a b x e r := by
  have subject := spans_middle_iff (p := charactersPart 1) rfl [] p (q ++ r)
  rw [matches_characters_iff, Nat.one_le_iff_ne_zero, ne_eq, List.length_eq_zero_iff,
    List.nil_append, ← List.append_assoc, List.length_nil, Nat.zero_add] at subject
  have controls := (spans_middle_iff (p := charactersPart 0) rfl (p ++ q) r []).mpr
    (matches_characters_iff.mpr (Nat.zero_le _))
  rw [List.append_nil, ← List.length_append] at controls
  constructor
  · rintro ⟨rfl, opens, operator, _⟩
    exact ⟨rfl, subject.mp opens, spans_operator_iff.mp operator⟩
  · rintro ⟨rfl, ne, found⟩
    refine ⟨rfl, subject.mpr ne, spans_operator_iff.mpr found, ?_⟩
    rw [← List.length_append]
    exact controls

/-! ## The split among these ways -/

/-- Of all that may stand at a place the longest spelling, with the blanks behind it, takes the
most of the text. -/
theorem Stands.length_le {b x e r a' b' x' e' r' : Text} (h : Stands a b x e r)
    (firm : FirmStart r) (longest : IsLongest (b ++ x ++ e ++ r) a x) (h' : Stands a' b' x' e' r')
    (same : b ++ x ++ e ++ r = b' ++ x' ++ e' ++ r') :
    (b' ++ x' ++ e').length ≤ (b ++ x ++ e).length := by
  by_cases other : a' = a
  · -- one spelling is written in one way, and all the blanks are taken
    subst other
    have read := (h.readAs?_eq_of_firmStart firm).symm.trans (same ▸ h'.readAs?_eq)
    obtain ⟨operator, _⟩ := Prod.mk.inj (Option.some.inj read)
    rw [operator, leadingBlanks_blanks_append h'.after_blank, ← List.append_assoc]
    exact (List.prefix_append _ _).length_le
  · have shorter := (longest a' b' x' e' r' same h' other).2
    have before : b' = b := by rw [← h'.leadingBlanks_eq, ← same, h.leadingBlanks_eq]
    subst before
    have firmEnd : FirmEnd x := h.written.firmEnd (spellings_plain a h.mem_spellings)
      (spellings_firmEnd a h.mem_spellings)
    simp only [List.append_assoc, List.append_cancel_left_eq] at same
    -- the blanks behind the shorter spelling end before the longer one does
    suffices inside : (x' ++ e').length ≤ x.length by
      simp only [List.length_append] at inside ⊢
      omega
    rcases List.append_eq_append_iff.mp same with ⟨y, rfl, _⟩ | ⟨y, rfl, behind⟩
    · rw [List.length_append] at shorter
      omega
    · have ne : y ≠ [] := by
        rintro rfl
        simp at shorter
      rcases List.append_eq_append_iff.mp behind with ⟨z, rfl, _⟩ | ⟨z, rfl, _⟩
      · simp only [List.length_append]
        omega
      · have blank : AllBlank y := fun c mem => h'.after_blank c (List.mem_append_left z mem)
        exact absurd (trimStart_of_allBlank blank) (firmEnd.of_append.trimStart_ne_nil ne)

/-- The way that is preferred. The group for the subject is reluctant, so it takes as little as
it can. The alternatives are listed longest first and blanks are taken as long as they last, so
the group for the comparator takes as much as it can behind this subject. -/
structure Prefers (t : Text) (parts : Sentence) : Prop where
  divides : Divides t parts
  subject_le : ∀ other, Divides t other → parts.subject.length ≤ other.subject.length
  operator_le : ∀ other, Divides t other → other.subject = parts.subject →
    other.operator.length ≤ parts.operator.length

variable {parts other : Sentence}

theorem Divides.readOperator?_ne_none (h : Divides t other) :
    readOperator? (other.operator ++ other.controls) ≠ none := by
  obtain ⟨p, q, r⟩ := other
  obtain ⟨_, _, a, b, x, e, rfl, stands⟩ := divides_iff.mp h
  exact readOperator?_ne_none_iff.mpr ⟨a, b, x, e, r, rfl, stands⟩

theorem Divides.split_eq (h : Divides t other) :
    t = other.subject ++ (other.operator ++ other.controls) := by
  rw [← h.whole, List.append_assoc]

theorem Divides.subject_ne (h : Divides t other) : other.subject ≠ [] := by
  obtain ⟨p, q, r⟩ := other
  exact (divides_iff.mp h).2.1

theorem prefers_of_split (h : split? t = some parts) : Prefers t parts := by
  obtain ⟨p, q, r⟩ := parts
  obtain ⟨ne, rest, split, read, _⟩ := split?_eq_some_iff.mp h
  obtain ⟨rfl, firm, a, b, x, e, rfl, stands, longest⟩ := readOperator?_eq_some_iff.mp read
  refine ⟨divides_iff.mpr ⟨?_, ne, a, b, x, e, rfl, stands⟩, fun other ways => ?_,
    fun other ways same => ?_⟩
  · rw [split, List.append_assoc]
  · exact split?_subject_le h ways.split_eq ways.subject_ne ways.readOperator?_ne_none
  · obtain ⟨p', q', r'⟩ := other
    obtain ⟨whole, _, a', b', x', e', rfl, stands'⟩ := divides_iff.mp ways
    obtain rfl : p' = p := same
    rw [split, List.append_assoc, List.append_cancel_left_eq] at whole
    exact stands.length_le firm longest stands' whole.symm

theorem Prefers.unique (h : Prefers t parts) (h' : Prefers t other) : parts = other := by
  obtain ⟨p, q, r⟩ := parts
  obtain ⟨p', q', r'⟩ := other
  have whole := h.divides.split_eq.symm.trans h'.divides.split_eq
  dsimp only at whole
  have subject := Nat.le_antisymm (h.subject_le _ h'.divides) (h'.subject_le _ h.divides)
  obtain ⟨rfl, rest⟩ := List.append_inj whole subject
  have operator :=
    Nat.le_antisymm (h'.operator_le _ h.divides rfl) (h.operator_le _ h'.divides rfl)
  obtain ⟨rfl, rfl⟩ := List.append_inj rest operator
  rfl

/-- The pattern is found in a text exactly if the text splits, and the split is what its groups
take. -/
theorem grammar_splits : ∃ piece, parse? grammar = some piece ∧ ∀ t,
    piece.pattern.isFoundIn t = (split? t).isSome ∧
    ∀ parts, split? t = some parts ↔ Prefers t parts := by
  obtain ⟨piece, read, pattern⟩ := grammar_parse
  have splits {t : Text} {parts : Sentence} (ways : Divides t parts) : split? t ≠ none :=
    fun none =>
      ways.readOperator?_ne_none (split?_eq_none_iff.mp none _ _ ways.split_eq ways.subject_ne)
  refine ⟨piece, read, fun t => ⟨?_, fun parts => ⟨prefers_of_split, fun preferred => ?_⟩⟩⟩
  · rw [Bool.eq_iff_iff, isFoundIn_iff, pattern, found_iff_divides]
    constructor
    · rintro ⟨parts, ways⟩
      exact Option.isSome_iff_ne_none.mpr (splits ways)
    · intro some
      obtain ⟨parts, split⟩ := Option.isSome_iff_exists.mp some
      exact ⟨parts, (prefers_of_split split).divides⟩
  · obtain ⟨other, split⟩ := Option.ne_none_iff_exists'.mp (splits preferred.divides)
    rw [split, (prefers_of_split split).unique preferred]

end Sentence

end Criteria
