import Criteria.Proofs.Pattern.Alternatives
import Criteria.Proofs.Pattern.FullMatch
import Criteria.Proofs.Placeholders
import Criteria.Proofs.RoundTrip

/-!
# Patterns of plain words

Words with bars between them are a pattern, and in brackets they are a list. The one is read as
a regular expression and searched for between the ends of a text, the other is cut at the bars
and compared entry by entry. For words of letters and digits both ask whether a text is one of
the words.

* `PlainWord`: a word of ASCII letters and digits.
* `map_scalar_plain`, `trim_joined`: reading leaves such words as they are.
* `compare_pattern`, `compare_list`: what both comparisons come to.
* `parse_pattern`, `parse_list`, `parse_match_any`: both filters are parsed from their texts,
  unless the pattern is read as a part of another comparator.
* `pattern_agrees_with_list`: so the answers of the two filters are the same.
-/

namespace Criteria

open Text Controls

/-- The ASCII letters and digits. -/
def alphanumerics : List Char :=
  "ABCDEFGHIJKLMNOPQRSTUVWXYZabcdefghijklmnopqrstuvwxyz0123456789".toList

/-- A word of ASCII letters and digits. -/
structure PlainWord (w : Text) : Prop where
  ne_nil : w ≠ []
  subset : w ⊆ alphanumerics

instance (w : Text) : Decidable (PlainWord w) :=
  decidable_of_iff (w ≠ [] ∧ w ⊆ alphanumerics)
    ⟨fun ⟨ne, subset⟩ => ⟨ne, subset⟩, fun plain => ⟨plain.ne_nil, plain.subset⟩⟩

/-- Letters and digits separate nothing, quote nothing, and stand for themselves. -/
theorem alphanumerics_plain {c : Char} (mem : c ∈ alphanumerics) :
    isBlank c = false ∧ c ≠ '"' ∧ c ∉ Reader.reserved := by
  have table : (alphanumerics.all fun c =>
      !isBlank c && (c != '"' && !Reader.reserved.contains c)) = true := by decide
  simpa using List.all_eq_true.mp table c mem

namespace PlainWord

variable {w : Text}

theorem firm (h : PlainWord w) : ∀ c ∈ w, isBlank c = false :=
  fun _ mem => (alphanumerics_plain (h.subset mem)).1

theorem unreserved (h : PlainWord w) : ∀ c ∈ w, c ∉ Reader.reserved :=
  fun _ mem => (alphanumerics_plain (h.subset mem)).2.2

theorem not_mem (h : PlainWord w) {c : Char} (special : c ∈ Reader.reserved) : c ∉ w :=
  fun mem => h.unreserved c mem special

theorem trim_eq (h : PlainWord w) : trim w = w := trim_of_unbroken h.firm

theorem scalar_eq (h : PlainWord w) : scalar w = w := by
  have unquoted : '"' ∉ w := fun mem => (alphanumerics_plain (h.subset mem)).2.1 rfl
  rw [scalar_unquoted unquoted, h.trim_eq]

end PlainWord

/-! ## Rows of words -/

section

variable {ws : List Text}

theorem joined_not_mem (plain : ∀ w ∈ ws, PlainWord w) {c : Char}
    (special : c ∈ Reader.reserved) (bar : c ≠ '|') : c ∉ joined ws := by
  intro mem
  rcases mem_of_mem_joined mem with separator | ⟨w, word, inWord⟩
  · exact bar separator
  · exact (plain w word).not_mem special inWord

theorem joined_firm (plain : ∀ w ∈ ws, PlainWord w) : ∀ c ∈ joined ws, isBlank c = false := by
  intro c mem
  rcases mem_of_mem_joined mem with rfl | ⟨w, word, inWord⟩
  · decide
  · exact (plain w word).firm c inWord

theorem trim_joined (plain : ∀ w ∈ ws, PlainWord w) : trim (joined ws) = joined ws :=
  trim_of_unbroken (joined_firm plain)

theorem joined_ne_nil (ne : ws ≠ []) (plain : ∀ w ∈ ws, PlainWord w) : joined ws ≠ [] := by
  obtain ⟨w, ws, rfl⟩ := List.exists_cons_of_ne_nil ne
  have word : w ∈ w :: ws := List.mem_cons_self
  obtain ⟨c, rest, rfl⟩ := List.exists_cons_of_ne_nil (plain w word).ne_nil
  exact List.ne_nil_of_mem (mem_joined word List.mem_cons_self)

theorem map_scalar_plain (plain : ∀ w ∈ ws, PlainWord w) : ws.map scalar = ws :=
  (List.map_congr_left fun w word => (plain w word).scalar_eq).trans (List.map_id ws)

theorem valuesFor_plain (plain : ∀ w ∈ ws, PlainWord w) :
    (valuesFor .is (listed ws)).result = .ok ws := by
  have filled : ∀ w ∈ ws, trim w ≠ [] := fun w word => by
    rw [(plain w word).trim_eq]
    exact (plain w word).ne_nil
  have apart : ∀ w ∈ ws, '|' ∉ w := fun w word => (plain w word).not_mem (by decide)
  rw [valuesFor_list rfl (.inl (by decide)), readList_listed filled apart, map_scalar_plain plain]

end

/-- There is nothing to put into the words, nor into their row. -/
structure Context.Leaves (names : Context) (ws : List Text) : Prop where
  words : ∀ w ∈ ws, names.resolve w = w
  row : names.resolve (joined ws) = joined ws

/-- Variables are put into placeholders only, and these are written with a dollar sign. -/
theorem Variables.resolve_undollared {t : Text} (free : '$' ∉ t) (vars : Variables) :
    vars.resolve t = t :=
  resolve_eq_self fun _ ⟨_, part⟩ => absurd (part.subset List.mem_cons_self) free

theorem Variables.leaves {ws : List Text} (plain : ∀ w ∈ ws, PlainWord w) (vars : Variables) :
    vars.context.Leaves ws where
  words w word := resolve_undollared ((plain w word).not_mem (by decide)) vars
  row := resolve_undollared (joined_not_mem plain (by decide) (by decide)) vars

namespace Evaluation

variable {f : Filter} {mode : Mode} {actual expected : Text} {ws : List Text}

/-- The pattern of the words is compared as membership. -/
theorem compare_pattern (ne : ws ≠ []) (plain : ∀ w ∈ ws, PlainWord w)
    (matching : f.comparator = .matching) (controls : f.controls = joined ws)
    (small : f.PatternIsSmall) (row : mode.resolve (joined ws) = joined ws) :
    (compare f mode actual expected).result = .ok (decide (actual ∈ ws)) := by
  obtain ⟨piece, read, found⟩ :=
    Pattern.isFoundIn_joined ne fun w word => (plain w word).unreserved
  have written : trim f.controls = joined ws := by rw [controls, trim_joined plain]
  have compiled := Filter.matchesPattern_of_small small actual
  rw [written, read] at compiled
  rw [compare_matching matching, controls, row, trim_joined plain, compiled]
  exact congrArg Except.ok (found actual)

theorem compare_list (is : f.comparator = .is) (values : f.values = ws)
    (words : ∀ w ∈ ws, mode.resolve w = w) (filled : mode.isLiteral = true → actual ≠ []) :
    (compare f mode actual expected).result = .ok (decide (actual ∈ ws)) := by
  have absent : (mode.isLiteral && actual.isEmpty) = false := by
    rw [Bool.and_eq_false_imp, List.isEmpty_eq_false_iff]
    exact filled
  rw [compare_member (.inl is), absent, Bool.false_or, isMember_of_unchanged (values ▸ words), values]

end Evaluation

namespace Filter

open Evaluation

variable {ws : List Text} {f g : Filter}

/-- Two filters on one subject: the pattern of the words, and the list of the words. -/
structure PatternAndList (ws : List Text) (f g : Filter) : Prop where
  pattern_obtained : f.Obtained
  list_obtained : g.Obtained
  matching : f.comparator = .matching
  is : g.comparator = .is
  pattern : f.controls = joined ws
  list : g.controls = listed ws
  subject : f.subject = g.subject

theorem PatternAndList.values (h : PatternAndList ws f g) (plain : ∀ w ∈ ws, PlainWord w) :
    g.values = ws := by
  have read := (obtained_iff_wellFormed.mp h.list_obtained).values_read
  rw [h.is, h.list, valuesFor_plain plain] at read
  exact (Except.ok.inj read).symm

theorem PatternAndList.evaluateOn (h : PatternAndList ws f g) (ne : ws ≠ [])
    (plain : ∀ w ∈ ws, PlainWord w) (small : f.PatternIsSmall) {data : Option Text}
    (filled : literalValue data ≠ []) :
    (f.evaluateOn data).result = .ok (decide (literalValue data ∈ ws)) ∧
      (g.evaluateOn data).result = .ok (decide (literalValue data ∈ ws)) := by
  constructor
  · rw [evaluateOn_result, evaluate_result (by rw [h.matching]; rfl)]
    exact compare_pattern ne plain h.matching h.pattern small rfl
  · rw [evaluateOn_result, evaluate_result (by rw [h.is]; rfl)]
    exact compare_list h.is (h.values plain) (fun _ _ => rfl) fun _ => filled

theorem PatternAndList.evaluateIn (h : PatternAndList ws f g) (ne : ws ≠ [])
    (plain : ∀ w ∈ ws, PlainWord w) (small : f.PatternIsSmall) {names : Context}
    (leaves : names.Leaves ws) :
    (f.evaluateIn names).result = decide (names.resolve f.subject ∈ ws) ∧
      (g.evaluateIn names).result = decide (names.resolve f.subject ∈ ws) := by
  have settled {r : Except FilterError Bool} {holds : Bool} (same : r = .ok holds) :
      r.toOption.getD false = holds := by
    rw [same]
    rfl
  constructor
  · rw [evaluateIn_result, evaluate_result (by rw [h.matching]; rfl)]
    exact settled (compare_pattern ne plain h.matching h.pattern small leaves.row)
  · rw [evaluateIn_result, evaluate_result (by rw [h.is]; rfl), ← h.subject]
    exact settled (compare_list h.is (h.values plain) leaves.words fun literal => by cases literal)

/-! ## Making and parsing -/

/-- The pattern is a single word that, with `match` before it, is another comparator. -/
def IsAnyWord (ws : List Text) : Prop := ∃ w, ws = [w] ∧ lower w = "any".toList

theorem not_mem_of_lower {w a : Text} (same : lower w = a) {c : Char} (other : c.toLower ∉ a) :
    c ∉ w :=
  fun mem => other (same ▸ List.mem_map_of_mem mem)

theorem not_opensWithAny (plain : ∀ w ∈ ws, PlainWord w) (ne : ws ≠ []) (other : ¬ IsAnyWord ws) :
    ¬ Sentence.OpensWithAny (joined ws) := by
  rintro ⟨w, rest, split, any, ended⟩
  obtain rfl : rest = [] := by
    refine ended.resolve_right ?_
    rintro ⟨c, more, rfl, blank⟩
    have firm := joined_firm plain c (by rw [split]; simp)
    rw [firm] at blank
    cases blank
  rw [List.append_nil] at split
  obtain ⟨v, ws, rfl⟩ := List.exists_cons_of_ne_nil ne
  cases ws with
  | nil =>
    rw [joined_singleton] at split
    exact other ⟨v, rfl, split ▸ any⟩
  | cons u ws =>
    -- the bar between two words would be in `any`, too
    have bar : '|' ∈ w := by
      rw [← split, joined_cons (List.cons_ne_nil u ws)]
      exact List.mem_append_right v List.mem_cons_self
    exact not_mem_of_lower any (by decide) bar

theorem pattern_wellFormed {s : Text} (filled : s ≠ []) (trimmed : trim s = s)
    (plain : ∀ w ∈ ws, PlainWord w) : WellFormed ⟨s, .matching, joined ws, []⟩ where
  subject_ne := filled
  subject_trim := trimmed
  controls_trim := trim_joined plain
  values_read := rfl

theorem list_wellFormed {s : Text} (filled : s ≠ []) (trimmed : trim s = s)
    (plain : ∀ w ∈ ws, PlainWord w) : WellFormed ⟨s, .is, listed ws, ws⟩ where
  subject_ne := filled
  subject_trim := trimmed
  controls_trim := trim_listed ws
  values_read := valuesFor_plain plain

theorem patternAndList {s : Text} (filled : s ≠ []) (trimmed : trim s = s)
    (plain : ∀ w ∈ ws, PlainWord w) :
    PatternAndList ws ⟨s, .matching, joined ws, []⟩ ⟨s, .is, listed ws, ws⟩ where
  pattern_obtained := obtained_iff_wellFormed.mpr (pattern_wellFormed filled trimmed plain)
  list_obtained := obtained_iff_wellFormed.mpr (list_wellFormed filled trimmed plain)
  matching := rfl
  is := rfl
  pattern := rfl
  list := rfl
  subject := rfl

theorem make_pattern {s : Text} (filled : trim s ≠ []) (plain : ∀ w ∈ ws, PlainWord w) :
    (make s .matching (joined ws)).result = .ok ⟨trim s, .matching, joined ws, []⟩ := by
  have unread : (valuesFor .matching (trim (joined ws))).result = .ok [] := rfl
  rw [make_eq_ok filled unread, trim_joined plain]

theorem make_list {s : Text} (filled : trim s ≠ []) (plain : ∀ w ∈ ws, PlainWord w) :
    (make s .is (listed ws)).result = .ok ⟨trim s, .is, listed ws, ws⟩ := by
  have values : (valuesFor .is (trim (listed ws))).result = .ok ws := by
    rw [trim_listed, valuesFor_plain plain]
  rw [make_eq_ok filled values, trim_listed]

/-- The pattern as a filter text. -/
def patternText (s : Text) (ws : List Text) : Text := s ++ " match ".toList ++ joined ws

/-- The list as a filter text. -/
def listText (s : Text) (ws : List Text) : Text := s ++ " is ".toList ++ listed ws

theorem display_pattern (ne : ws ≠ []) (plain : ∀ w ∈ ws, PlainWord w) (s : Text) :
    display ⟨s, .matching, joined ws, []⟩ = patternText s ws := by
  have some : (joined ws).isEmpty = false := List.isEmpty_eq_false_iff.mpr (joined_ne_nil ne plain)
  rw [display, some, patternText, List.append_assoc, List.append_assoc]
  rfl

theorem display_list (s : Text) (ws : List Text) :
    display ⟨s, .is, listed ws, ws⟩ = listText s ws := by
  rw [display, listText, List.append_assoc, List.append_assoc]
  rfl

theorem parse_pattern {s : Text} (filled : s ≠ []) (trimmed : trim s = s)
    (apart : Sentence.split? s = none) (ne : ws ≠ []) (plain : ∀ w ∈ ws, PlainWord w)
    (other : ¬ IsAnyWord ws) :
    (parse (patternText s ws)).result = .ok ⟨s, .matching, joined ws, []⟩ := by
  rw [← display_pattern ne plain]
  exact Sentence.parse_display_of (pattern_wellFormed filled trimmed plain) apart
    (fun ends => nomatch ends.1) fun opens => not_opensWithAny plain ne other opens.2

theorem parse_list {s : Text} (filled : s ≠ []) (trimmed : trim s = s)
    (apart : Sentence.split? s = none) (plain : ∀ w ∈ ws, PlainWord w) :
    (parse (listText s ws)).result = .ok ⟨s, .is, listed ws, ws⟩ := by
  rw [← display_list]
  exact Sentence.parse_display_of (list_wellFormed filled trimmed plain) apart
    (fun ends => nomatch ends.1) fun opens => nomatch opens.1

/-- With `match` before it, `any` is one comparator. -/
theorem stands_match_any {w : Text} (any : lower w = "any".toList) :
    Sentence.Stands "match any".toList [' '] ("match ".toList ++ w) [] [] where
  listed := ⟨.any, by decide⟩
  before_blank := by decide
  written := by
    have read := (Spelling.read?_word (by decide)).mpr ⟨(List.append_nil w).symm, any⟩
    have gap : Spelling.Spelt " any".toList ([' '] ++ w) :=
      .gap (List.cons_ne_nil _ _) (by decide) (Spelling.read?_sound read).2
    exact .letter (by decide) (by decide) (.letter (by decide) (by decide)
      (.letter (by decide) (by decide) (.letter (by decide) (by decide)
        (.letter (by decide) (by decide) gap))))
  after_blank := by decide
  apart _ := ⟨List.cons_ne_nil _ _, .inr rfl⟩

theorem parse_match_any {s w : Text} (filled : s ≠ []) (trimmed : trim s = s)
    (apart : Sentence.split? s = none) (any : lower w = "any".toList) :
    (parse (patternText s [w])).result = .ok ⟨s, .any, [], []⟩ := by
  have wellFormed : WellFormed ⟨s, .any, [], []⟩ := ⟨filled, trimmed, rfl, rfl⟩
  have text : patternText s [w] = s ++ ([' '] ++ ("match ".toList ++ w) ++ [] ++ []) := by
    rw [patternText, joined_singleton, List.append_nil, List.append_nil, List.append_assoc]
    rfl
  have noLongS : Spelling.longS ∉ "match ".toList ++ w := by
    rw [List.mem_append, not_or]
    exact ⟨by decide, not_mem_of_lower any (by decide)⟩
  have own : "match any".toList ∈ Comparator.any.aliases := by decide
  rw [text]
  exact (stands_match_any any).parse_eq own noLongS (List.cons_ne_nil _ _) (.inr rfl)
    wellFormed apart (fun ends => nomatch ends.1) fun opens => nomatch opens.1

/-- Plain words as alternatives of a pattern ask the same as the list of these words, on every
literal that is not empty and in every context that has nothing to put into the words, such as
variables. The two filters can be made on any subject, and they are parsed from their texts unless
the pattern is the one word `any`, in any letter case; then another comparator is parsed. -/
theorem pattern_agrees_with_list (ne : ws ≠ []) (plain : ∀ w ∈ ws, PlainWord w) :
    (∀ f g, PatternAndList ws f g → f.PatternIsSmall →
      (∀ data, literalValue data ≠ [] → ∃ holds, (f.evaluateOn data).result = .ok holds ∧
        (g.evaluateOn data).result = .ok holds ∧ (holds = true ↔ literalValue data ∈ ws)) ∧
      ∀ names : Context, names.Leaves ws →
        (f.evaluateIn names).result = (g.evaluateIn names).result ∧
        ((f.evaluateIn names).result = true ↔ names.resolve f.subject ∈ ws)) ∧
    (∀ vars : Variables, vars.context.Leaves ws) ∧
    (∀ s, trim s ≠ [] → ∃ f g, (make s .matching (joined ws)).result = .ok f ∧
      (make s .is (listed ws)).result = .ok g ∧ PatternAndList ws f g) ∧
    ∀ s, s ≠ [] → trim s = s → Sentence.split? s = none →
      (¬ IsAnyWord ws → ∃ f g, (parse (patternText s ws)).result = .ok f ∧
        (parse (listText s ws)).result = .ok g ∧ PatternAndList ws f g) ∧
      (IsAnyWord ws → ∃ f, (parse (patternText s ws)).result = .ok f ∧ f.comparator = .any) := by
  refine ⟨fun f g both small => ⟨fun data filled => ?_, fun names leaves => ?_⟩,
    Variables.leaves plain, fun s filled => ?_, fun s filled trimmed apart => ⟨fun other => ?_, ?_⟩⟩
  · obtain ⟨pattern, list⟩ := both.evaluateOn ne plain small filled
    exact ⟨_, pattern, list, decide_eq_true_iff⟩
  · obtain ⟨pattern, list⟩ := both.evaluateIn ne plain small leaves
    rw [pattern, list]
    exact ⟨rfl, decide_eq_true_iff⟩
  · exact ⟨_, _, make_pattern filled plain, make_list filled plain,
      patternAndList filled (trim_trim s) plain⟩
  · exact ⟨_, _, parse_pattern filled trimmed apart ne plain other,
      parse_list filled trimmed apart plain, patternAndList filled trimmed plain⟩
  · rintro ⟨w, rfl, any⟩
    exact ⟨_, parse_match_any filled trimmed apart any, rfl⟩

/-- Two words, on a quoted literal that is one of them, on one that only opens with one, and in a
context. -/
theorem pattern_agrees_with_list_two_words :
    (∀ w ∈ ["ab".toList, "2".toList], PlainWord w) ∧
    ∃ f g, (parse "x match ab|2".toList).result = .ok f ∧
      (parse "x is [ab|2]".toList).result = .ok g ∧ f.PatternIsSmall ∧
      (f.evaluateOn (some " \"2\" ".toList)).result = .ok true ∧
      (g.evaluateOn (some " \"2\" ".toList)).result = .ok true ∧
      (∃ holds, (f.evaluateOn (some "abc".toList)).result = .ok holds ∧ holds ≠ true) ∧
      (f.evaluateIn (Variables.empty.set "x".toList "2".toList)).result =
        (g.evaluateIn (Variables.empty.set "x".toList "2".toList)).result := by
  have plain : ∀ w ∈ ["ab".toList, "2".toList], PlainWord w := by decide
  obtain ⟨agree, vars, _, parsed⟩ := pattern_agrees_with_list (List.cons_ne_nil _ _) plain
  have other : ¬ IsAnyWord ["ab".toList, "2".toList] := by
    rintro ⟨w, single, _⟩
    cases single
  obtain ⟨f, g, pattern, list, both⟩ :=
    (parsed "x".toList (by decide) (by decide) (by decide)).1 other
  have small : f.PatternIsSmall := by
    have all : (Pattern.parse? (Pattern.anchoredText "ab|2".toList)).all Pattern.isWithinLimits =
      true := by decide
    intro piece read
    rw [both.pattern] at read
    have same : Pattern.parse? (Pattern.anchoredText "ab|2".toList) = some piece := read
    rw [same] at all
    exact all
  obtain ⟨literal, context⟩ := agree f g both small
  obtain ⟨_, first, second, member⟩ := literal (some " \"2\" ".toList) (by decide)
  obtain rfl := member.mpr (by decide)
  obtain ⟨longer, third, _, notMember⟩ := literal (some "abc".toList) (by decide)
  exact ⟨plain, f, g, pattern, list, small, first, second,
    ⟨longer, third, fun holds => absurd (notMember.mp holds) (by decide)⟩, (context _ (vars _)).1⟩

/-- In capitals, too, `any` behind `match` is another comparator, one that holds of every literal. -/
theorem pattern_disagrees_in_capitals :
    PlainWord "ANY".toList ∧ "ANY".toList ≠ "any".toList ∧
      ∃ f g, (parse "x match ANY".toList).result = .ok f ∧
        (parse "x is [ANY]".toList).result = .ok g ∧ literalValue (some "foo".toList) ≠ [] ∧
        (f.evaluateOn (some "foo".toList)).result = .ok true ∧
        (g.evaluateOn (some "foo".toList)).result = .ok false := by
  have any : (parse "x match ANY".toList).result = .ok ⟨"x".toList, .any, [], []⟩ :=
    parse_match_any (s := "x".toList) (w := "ANY".toList) (by decide) (by decide) (by decide)
      (by decide)
  have list : (parse "x is [ANY]".toList).result =
      .ok ⟨"x".toList, .is, "[ANY]".toList, ["ANY".toList]⟩ :=
    parse_ok_iff.mpr ⟨⟨"x".toList, " is ".toList, "[ANY]".toList⟩, .is, by decide, by decide, rfl⟩
  exact ⟨by decide, by decide, _, _, any, list, by decide, rfl, rfl⟩

end Filter

end Criteria
