import Criteria.Proofs.Placement

/-!
# Displaying a filter and parsing it again

A filter is displayed as its subject, the symbol of its comparator and its
controls, with a blank between them. Parsing that text may find another
comparator at an earlier place, or a longer spelling at the same place.

* `parse_display_iff`: a filter made from its parts is read back exactly if no
  comparator stands inside its subject, its subject does not end in `not` before
  the comparator `in`, and its controls do not open with `any` after `match`.
* `parse_display_of_parse_iff`: a filter that was parsed is read back exactly if
  its subject does not end in a word spelling; the other two cases do not arise.
* `parse_display_changes`: `x is=5` is parsed, but not read back.
-/

namespace Criteria

namespace Sentence

open Text Spelling

/-! ## What can go wrong -/

/-- The text ends in a word spelling with a blank, and something else, before it. -/
def EndsInWord (s : Text) : Prop :=
  ∃ p b w a, s = p ++ (b ++ w) ∧ p ≠ [] ∧ b ≠ [] ∧ AllBlank b ∧ a ∈ catalogWords ∧
    read? a w = some (w, [])

/-! ## The catalog -/

theorem firm_of_lower {w a : Text} (h : lower w = a) (ha : a.any isBlank = false) :
    ∀ c ∈ w, isBlank c = false := by
  intro c hc
  cases blank : isBlank c with
  | false => rfl
  | true =>
    have mem : c.toLower ∈ a := h ▸ List.mem_map_of_mem hc
    rw [toLower_of_blank blank] at mem
    exact absurd blank (by simpa using List.any_eq_false.mp ha c mem)

theorem mem_catalogWords {a : Text} (mem : a ∈ spellings) (word : isWord a = true) :
    a ∈ catalogWords := by
  rcases List.mem_append.mp mem with h | h
  · exact h
  · rw [catalogSymbols_not_isWord a h] at word
    cases word

/-! ## The place after the subject -/

/-- What is displayed after the subject. -/
def closing (c : Comparator) (k : Text) : Text :=
  ' ' :: c.symbol ++ if k.isEmpty then [] else ' ' :: k

theorem closing_opensBlank (c : Comparator) (k : Text) : OpensBlank (closing c k) :=
  ⟨' ', _, rfl, by decide⟩

theorem read?_symbol : ∀ c ∈ Comparator.all,
    ∃ a ∈ c.aliases, read? a c.symbol = some (c.symbol, []) := by decide

theorem longS_not_mem_symbol : ∀ c ∈ Comparator.all, longS ∉ c.symbol := by decide

/-- What is displayed after the subject is the comparator in one of its spellings. -/
theorem stands_symbol (c : Comparator) (k : Text) : ∃ a ∈ c.aliases, ∃ e,
    Stands a [' '] c.symbol e k ∧ (e ≠ [] ∨ k = []) ∧ closing c k = [' '] ++ c.symbol ++ e ++ k := by
  obtain ⟨a, own, read⟩ := read?_symbol c (Comparator.mem_all c)
  have spelt := (read?_sound read).2
  have blank : AllBlank [' '] := by decide
  rcases Decidable.em (k = []) with rfl | hk
  · refine ⟨a, own, [], ⟨⟨c, own⟩, blank, spelt, by decide, ?_⟩, .inr rfl, ?_⟩
    · exact fun _ => ⟨List.cons_ne_nil _ _, .inr rfl⟩
    · simp [closing]
  · refine ⟨a, own, [' '], ⟨⟨c, own⟩, blank, spelt, blank, ?_⟩, .inl (List.cons_ne_nil _ _), ?_⟩
    · exact fun _ => ⟨List.cons_ne_nil _ _, .inl (List.cons_ne_nil _ _)⟩
    · simp [closing, hk]

/-! ## Parsed filters -/

/-- How a parsed filter lies in its text: its subject with blanks around it, then the first
place where a comparator stands. -/
structure Lies (f : Filter) (before after rest operator controls : Text) : Prop where
  before_blank : AllBlank before
  after_blank : AllBlank after
  read : readOperator? rest = some (operator, controls)
  comparator : Comparator.find? operator = some f.comparator
  controls_eq : f.controls = trim controls
  wellFormed : f.WellFormed
  /-- No comparator stands at an earlier place of the subject. -/
  first : ∀ s u, f.subject = s ++ u → s ≠ [] → u ≠ [] → readOperator? (u ++ (after ++ rest)) = none

theorem lies_of_parse {t : Text} {f : Filter} (h : (Filter.parse t).result = .ok f) :
    ∃ b e rest q r, t = b ++ f.subject ++ e ++ rest ∧ Lies f b e rest q r := by
  obtain ⟨⟨p, q, r⟩, c, hs, hc, hm⟩ := Filter.parse_ok_iff.mp h
  have wellFormed := Filter.make_wellFormed hm
  obtain ⟨_, vs, _, rfl⟩ := Filter.make_ok_iff.mp hm
  obtain ⟨_, rest, rfl, hread, first⟩ := split?_eq_some_iff.mp hs
  obtain ⟨b, e, hb, he, hp, _⟩ := trim_split p
  refine ⟨b, e, rest, q, r, congrArg (· ++ rest) hp, hb, he, hread, hc, rfl, wellFormed, ?_⟩
  intro s u hsu ne ne'
  dsimp only at hsu
  rw [← List.append_assoc]
  refine first (b ++ s) (u ++ e) ?_ ?_ ?_
  · rw [hsu] at hp
    simpa using hp
  · exact fun h => ne (List.append_eq_nil_iff.mp h).2
  · exact fun h => ne' (List.append_eq_nil_iff.mp h).1

namespace Lies

variable {f : Filter} {b e rest q r : Text}

/-- The comparator was read as one of its spellings. -/
theorem spelling (h : Lies f b e rest q r) :
    ∃ a ∈ f.comparator.aliases, spellingAt? rest = some a ∧ readAs? rest a = some (q, r) := by
  obtain ⟨a, ha, hread⟩ := readOperator?_spelling h.read
  obtain ⟨c, _, own⟩ := Comparator.exists_owner a (spellingAt?_mem ha)
  have hs : longS ∉ q := by
    intro hs
    have := h.comparator
    rw [Comparator.find?_eq_none_of_longS hs] at this
    cases this
  have := Comparator.find?_of_readAs own hread hs
  rw [h.comparator] at this
  cases this
  exact ⟨a, own, ha, hread⟩

/-- A subject in `not` before `in` would have been read as the comparator `not in`. -/
theorem not_endsInNot (h : Lies f b e rest q r) (hc : f.comparator = .isIn) :
    ¬ EndsInNot f.subject := by
  rintro ⟨p, g, w, split, hp, hg, blank, lower⟩
  obtain ⟨a, own, _, hread⟩ := h.spelling
  rw [hc] at own
  obtain rfl : a = "in".toList := List.mem_singleton.mp own
  obtain ⟨x, rest', hx, hf, _, _⟩ := readAs?_eq_some.mp hread
  obtain ⟨opens, ended⟩ := (fits_word_iff (by decide)).mp hf
  have firm := firm_of_lower lower (by decide)
  have start : FirmStart w := fun c hc => firm c (List.mem_of_mem_head? hc)
  have finish : FirmEnd (g ++ w) := by
    refine FirmEnd.append_of_ne_nil (fun c hc => firm c (List.mem_of_mem_getLast? hc)) ?_
    rintro rfl
    cases lower
  have opensE : OpensBlank (e ++ rest) := by
    cases e with
    | nil => exact opens
    | cons d e => exact ⟨d, e ++ rest, rfl, h.after_blank d List.mem_cons_self⟩
  have before : trimStart (g ++ w) = w := by
    rw [trimStart_blanks_append blank, trimStart_of_firmStart start]
  -- the blanks between `not` and `in` end the subject or were trimmed off behind it
  have straddles : Straddles (g ++ w) (e ++ rest) "not in".toList "not".toList "in".toList := by
    refine ⟨rfl, blank.opensBlank hg w, ?_, x, rest', ?_, ended⟩
    · rw [before]
      exact (read?_word (by decide)).mpr ⟨(List.append_nil w).symm, lower⟩
    · rw [trimStart_blanks_append h.after_blank]
      exact hx
  refine readOperator?_of_straddles (by decide) finish opensE straddles ?_
  exact h.first p (g ++ w) split hp fun none => hg (List.append_eq_nil_iff.mp none).1

/-- Controls in `any` after `match` would have been read as the comparator `match any`. -/
theorem not_opensWithAny (h : Lies f b e rest q r) (hc : f.comparator = .matching) :
    ¬ OpensWithAny f.controls := by
  rintro ⟨w, more, split, lower, ended⟩
  obtain ⟨a, own, taken, hread⟩ := h.spelling
  rw [hc] at own
  obtain rfl : a = "match".toList := List.mem_singleton.mp own
  obtain ⟨x, rest', hx, hf, _, hr⟩ := readAs?_eq_some.mp hread
  obtain ⟨opens, wordEnd⟩ := (fits_word_iff (by decide)).mp hf
  obtain ⟨tail, blank, hsplit, _⟩ := trimEnd_split r
  have hk : trimEnd r = w ++ more := by
    rw [← split, h.controls_eq, trim, hr, trimStart_of_firmStart (trimStart_firmStart rest')]
  rw [hk, List.append_assoc] at hsplit
  have any : read? "any".toList (trimStart rest') = some (w, more ++ tail) :=
    (read?_word (by decide)).mpr ⟨hr ▸ hsplit, lower⟩
  have gap : leadingBlanks rest' ≠ [] := by
    cases rest' with
    | nil => cases any
    | cons d rest' => exact leadingBlanks_ne_nil_iff.mpr ⟨d, rest', rfl, wordEnd⟩
  have ended' : atWordEnd (more ++ tail) = true := by
    rcases ended with rfl | opensMore
    · cases tail with
      | nil => rfl
      | cons d tail => exact blank d List.mem_cons_self
    · obtain ⟨d, more, rfl, hd⟩ := opensMore
      exact hd
  have found : (readAs? rest "match any".toList).isSome = true := by
    have whole := readAs?_eq_some.mpr ⟨_, _, read?_gap hx gap any,
      (fits_word_iff (by decide)).mpr ⟨opens, ended'⟩, rfl, rfl⟩
    exact Option.isSome_of_eq_some whole
  -- and no longer spelling than the one that is taken fits
  exact absurd (spellingAt?_length taken (by decide) found) (by decide)

/-- Where the letters of a spelling are read in the subject, they do not count in the whole
text. -/
theorem misfit (h : Lies f b e rest q r) {p u a x more : Text} (split : f.subject = p ++ u)
    (hp : p ≠ []) (hu : u ≠ []) (mem : a ∈ spellings)
    (hx : read? a (trimStart u) = some (x, more)) :
    fits a (leadingBlanks u) (more ++ (e ++ rest)) = false := by
  have firm : FirmEnd u := FirmEnd.of_append (split ▸ h.wellFormed.subject_firmEnd)
  have inside := firm.trimStart_ne_nil hu
  have nothing := readOperator?_eq_none_iff.mp (h.first p u split hp hu) a mem
  cases fit : fits a (leadingBlanks u) (more ++ (e ++ rest)) with
  | false => rfl
  | true =>
    unfold readAs? at nothing
    rw [trimStart_append inside, leadingBlanks_append inside,
      read?_extend firm.trimStart hx] at nothing
    dsimp only at nothing
    rw [if_pos fit] at nothing
    cases nothing

/-- A spelling that is found in the subject is a word at its end: what follows the subject in
the text cuts it short of a blank. -/
theorem endsInWord_of_readAs (h : Lies f b e rest q r) {p u a : Text} {parts : Text × Text}
    (split : f.subject = p ++ u) (hp : p ≠ []) (mem : a ∈ spellings)
    (found : readAs? u a = some parts) : EndsInWord f.subject := by
  obtain ⟨x, more, hx, hf, _, _⟩ := readAs?_eq_some.mp found
  have hu : u ≠ [] := by
    rintro rfl
    have : readAs? [] a = none :=
      readOperator?_eq_none_iff.mp (by decide : readOperator? [] = none) a mem
    rw [found] at this
    cases this
  have misfit := h.misfit split hp hu mem hx
  have word : isWord a = true := by
    cases hw : isWord a with
    | true => rfl
    | false => rw [fits, hw] at misfit; cases misfit
  obtain ⟨opens, ended⟩ := (fits_word_iff word).mp hf
  have none : more = [] := by
    cases more with
    | nil => rfl
    | cons d more =>
      have fit : fits a (leadingBlanks u) (d :: more ++ (e ++ rest)) = true :=
        (fits_word_iff word).mpr ⟨opens, ended⟩
      rw [misfit] at fit
      cases fit
  obtain ⟨hxu, _⟩ := read?_sound hx
  rw [none, List.append_nil] at hxu
  rw [none, ← hxu] at hx
  refine ⟨p, leadingBlanks u, trimStart u, a, ?_, hp, leadingBlanks_ne_nil_iff.mpr opens,
    leadingBlanks_allBlank u, mem_catalogWords mem word, hx⟩
  rw [leadingBlanks_append_trimStart, split]

theorem split?_subject_eq_none_iff (h : Lies f b e rest q r) :
    split? f.subject = none ↔ ¬ EndsInWord f.subject := by
  constructor
  · rintro none ⟨p, g, w, a, split, hp, hg, blank, word, hread⟩
    have mem : a ∈ spellings := List.mem_append_left _ word
    have found := readAs?_last mem blank hg (read?_sound hread).2
    have nothing := split?_eq_none_iff.mp none p (g ++ w) split hp
    have := readOperator?_eq_none_iff.mp nothing a mem
    rw [found] at this
    cases this
  · intro notWord
    refine split?_eq_none_iff.mpr fun p u split hp => ?_
    refine readOperator?_eq_none_iff.mpr fun a mem => ?_
    cases found : readAs? u a with
    | none => rfl
    | some parts => exact absurd (h.endsInWord_of_readAs split hp mem found) notWord

end Lies

/-! ## Reading back -/

theorem display_eq (f : Filter) : f.display = f.subject ++ closing f.comparator f.controls :=
  List.append_assoc _ _ _

/-- If a filter is read back, no comparator stands inside its subject. -/
theorem split?_subject_of_parse_display {f : Filter} (wellFormed : f.WellFormed)
    (h : (Filter.parse f.display).result = .ok f) : split? f.subject = none := by
  obtain ⟨parts, c, hs, _, hm⟩ := Filter.parse_ok_iff.mp h
  obtain ⟨_, vs, _, hf⟩ := Filter.make_ok_iff.mp hm
  have subject : f.subject.length ≤ parts.subject.length := by
    rw [hf]
    exact trim_length_le parts.subject
  refine split?_eq_none_iff.mpr fun p u split hp => Classical.byContradiction fun found => ?_
  have hu : u ≠ [] := by
    rintro rfl
    exact found (by decide)
  have firm : FirmEnd u := FirmEnd.of_append (split ▸ wellFormed.subject_firmEnd)
  have longer := readOperator?_append_ne_none firm hu
    (closing_opensBlank f.comparator f.controls) found
  have text : f.display = p ++ (u ++ closing f.comparator f.controls) := by
    rw [display_eq, split, List.append_assoc]
  have earlier := split?_subject_le hs text hp longer
  have positive := List.length_pos_iff.mpr hu
  rw [split, List.length_append] at subject
  omega

theorem parse_display_of {f : Filter} (wellFormed : f.WellFormed)
    (apart : split? f.subject = none) (notIn : ¬ (f.comparator = .isIn ∧ EndsInNot f.subject))
    (any : ¬ (f.comparator = .matching ∧ OpensWithAny f.controls)) :
    (Filter.parse f.display).result = .ok f := by
  obtain ⟨a, own, e, stands, he, text⟩ := stands_symbol f.comparator f.controls
  rw [display_eq, text]
  exact stands.parse_eq own (longS_not_mem_symbol _ (Comparator.mem_all _)) (List.cons_ne_nil _ _) he
    wellFormed apart notIn any

/-- A filter that was made from its parts is read back from what it displays exactly if no
comparator stands in its subject, its subject does not end in `not` where its comparator is
`in`, and its controls do not open with `any` where its comparator is `match`. -/
theorem parse_display_iff {s k : Text} {c : Comparator} {f : Filter}
    (h : (Filter.make s c k).result = .ok f) :
    (Filter.parse f.display).result = .ok f ↔
      split? f.subject = none ∧ ¬ (f.comparator = .isIn ∧ EndsInNot f.subject) ∧
        ¬ (f.comparator = .matching ∧ OpensWithAny f.controls) := by
  have wellFormed := Filter.make_wellFormed h
  constructor
  · intro back
    obtain ⟨_, _, _, _, _, _, lies⟩ := lies_of_parse back
    exact ⟨split?_subject_of_parse_display wellFormed back,
      fun ⟨hc, ends⟩ => lies.not_endsInNot hc ends, fun ⟨hc, opens⟩ => lies.not_opensWithAny hc opens⟩
  · rintro ⟨apart, notIn, any⟩
    exact parse_display_of wellFormed apart notIn any

/-- With other comparators `not` and `any` do no harm; with `match`, `any` does. -/
theorem parse_display_not_any :
    (∃ f, (Filter.make "x not".toList .equal "any".toList).result = .ok f ∧
      (Filter.parse f.display).result = .ok f) ∧
    ∃ f, (Filter.make "x".toList .matching "any".toList).result = .ok f ∧
      (Filter.parse f.display).result ≠ .ok f := by
  have equal : (Filter.make "x not".toList .equal "any".toList).result =
      .ok ⟨"x not".toList, .equal, "any".toList, []⟩ := rfl
  have matching : (Filter.make "x".toList .matching "any".toList).result =
      .ok ⟨"x".toList, .matching, "any".toList, []⟩ := rfl
  refine ⟨⟨_, equal, (parse_display_iff equal).mpr ⟨by decide, ?_, ?_⟩⟩,
    ⟨_, matching, fun back => ?_⟩⟩
  · rintro ⟨isIn, _⟩
    cases isIn
  · rintro ⟨isMatching, _⟩
    cases isMatching
  · exact ((parse_display_iff matching).mp back).2.2 ⟨rfl, "any".toList, [], rfl, rfl, .inl rfl⟩

/-- A filter that was parsed is read back from what it displays exactly if its subject does
not end in a word spelling of the catalog. -/
theorem parse_display_of_parse_iff {t : Text} {f : Filter} (h : (Filter.parse t).result = .ok f) :
    (Filter.parse f.display).result = .ok f ↔ ¬ EndsInWord f.subject := by
  obtain ⟨_, _, _, _, _, _, lies⟩ := lies_of_parse h
  rw [← lies.split?_subject_eq_none_iff]
  constructor
  · exact split?_subject_of_parse_display lies.wellFormed
  · intro apart
    exact parse_display_of lies.wellFormed apart (fun ⟨hc, ends⟩ => lies.not_endsInNot hc ends)
      fun ⟨hc, opens⟩ => lies.not_opensWithAny hc opens

/-- `a b  >= 5` is read back, so `a b` does not end in a word spelling. -/
theorem parse_display_of_parse_two_words : ∃ f,
    (Filter.parse "a b  >= 5".toList).result = .ok f ∧
      (Filter.parse f.display).result = .ok f ∧ ¬ EndsInWord f.subject := by
  have parsed : (Filter.parse "a b  >= 5".toList).result =
      .ok ⟨"a b".toList, .greaterOrEqual, "5".toList, []⟩ :=
    Filter.parse_ok_iff.mpr ⟨⟨"a b".toList, "  >= ".toList, "5".toList⟩, .greaterOrEqual,
      by decide, by decide, rfl⟩
  have back : (Filter.parse (Filter.display ⟨"a b".toList, .greaterOrEqual, "5".toList, []⟩)).result =
      .ok ⟨"a b".toList, .greaterOrEqual, "5".toList, []⟩ :=
    Filter.parse_ok_iff.mpr ⟨⟨"a b".toList, " >= ".toList, "5".toList⟩, .greaterOrEqual,
      by decide, by decide, rfl⟩
  exact ⟨_, parsed, back, (parse_display_of_parse_iff parsed).mp back⟩

/-- In `x is=5` no blank follows `is`, so the equals sign is the comparator; in what is
displayed a blank does. -/
theorem parse_display_changes : ∃ f,
    (Filter.parse "x is=5".toList).result = .ok f ∧ f.display = "x is = 5".toList ∧
      (Filter.parse f.display).result = .error (.malformedList "= 5".toList) := by
  refine ⟨⟨"x is".toList, .equal, "5".toList, []⟩, ?_, rfl, ?_⟩
  · exact Filter.parse_ok_iff.mpr ⟨⟨"x is".toList, "=".toList, "5".toList⟩, .equal,
      by decide, by decide, rfl⟩
  · have found : split? "x is = 5".toList = some ⟨"x".toList, " is ".toList, "= 5".toList⟩ := by
      decide
    have lookup : Comparator.find? " is ".toList = some .is := by decide
    show (Filter.parse "x is = 5".toList).result = _
    rw [Filter.parse_split found (by decide), lookup]
    rfl

end Sentence

end Criteria
