import Criteria.Proofs.Evaluation
import Criteria.Proofs.Pattern.Language
import Criteria.Proofs.Pattern.Run
import Criteria.Proofs.Pattern.Search

/-!
# Matching a whole text

A pattern that has to match a whole text is put between `^(?:` and `)$` as it is
written. This module says when that keeps its meaning.

* `HidesClosing`: the pattern ends in a comment, which takes the parenthesis.
* `BreaksOut`: the pattern is none by itself, but closes the group and opens
  another, so that there is a pattern with what is put around it.
* `isValid_anchoredText_iff`: these are the only patterns that gain or lose
  validity.
* `matchesAsWritten_iff`: for all other patterns, and only for them, evaluation
  reports an invalid pattern and matches whole texts as it should.
-/

namespace Criteria

namespace Pattern

open Reader Reader.State Lexical

/-- The text is a pattern by itself, whatever its size. -/
def IsValid (t : Text) : Prop := (parse? t).isSome = true

/-- A closing parenthesis behind the pattern is not seen. -/
def HidesClosing (t : Text) : Prop := IsValid t ∧ IsValid (t ++ [')'])

/-- A parenthesis of the text closes the group that the text is put into. -/
def ClosesGroup (t : Text) : Prop := ∃ a b, t = a ++ ')' :: b ∧ IsValid a ∧ ¬ HidesClosing a

/-- The text closes the group that it is put into, and opens another that is closed instead. -/
def BreaksOut (t : Text) : Prop := ClosesGroup t ∧ IsValid (anchoredText t)

/-! ## Valid patterns -/

theorem parse?_eq (t : Text) : parse? t = (initial.readAll? t).bind finish? := rfl

theorem isValid_iff {t : Text} :
    IsValid t ↔ ∃ s, initial.readAll? t = some s ∧ s.frames = [] := by
  unfold IsValid
  rw [parse?_eq]
  cases read : initial.readAll? t with
  | none => simp
  | some s =>
    cases frames : s.frames <;> simp [finish?, frames]

theorem under_nil (s : State) : s.under [] = s := by
  unfold under
  rw [List.append_nil]

theorem readAll?_closing {s : State} (closed : s.frames = []) (v : Text) :
    s.readAll? (')' :: v) = none := by
  rw [readAll?_step (skip_closing_eq s.flags.spaced v)]
  show (s.closeGroup?.map _).bind _ = none
  unfold closeGroup?
  rw [closed]
  rfl

theorem isValid_iff_of_leads {t : Text} {s : State} (h : Leads initial t s []) :
    IsValid t ↔ s.frames = [] := by
  rw [isValid_iff, h.alone, readAll?_nil]
  simp

theorem isValid_iff_of_hides {t : Text} {s : State} (h : Hides initial t s) :
    IsValid t ↔ s.frames = [] := by
  rw [isValid_iff, h.alone]
  simp

theorem not_isValid_of_refuses {t : Text} (h : Refuses initial t) : ¬ IsValid t := by
  rw [isValid_iff, h.alone]
  simp

/-- Where the parenthesis is seen, a pattern before it ends there. -/
theorem not_isValid_append {t : Text} {s : State} (h : Leads initial t s [])
    (closed : s.frames = []) (v : Text) : ¬ IsValid (t ++ ')' :: v) := by
  intro valid
  obtain ⟨s', read, _⟩ := isValid_iff.mp valid
  have seen := h.added [] v
  rw [under_nil, under_nil, read, List.nil_append, readAll?_closing closed] at seen
  cases seen

theorem not_isValid_of_closes {t : Text} (h : ClosesEarly initial t) : ¬ IsValid t := by
  obtain ⟨a, b, s, rfl, leads, closed⟩ := h
  exact not_isValid_append leads closed b

theorem hidesClosing_of_hides {t : Text} {s : State} (h : Hides initial t s)
    (closed : s.frames = []) : HidesClosing t := by
  refine ⟨(isValid_iff_of_hides h).mpr closed, isValid_iff.mpr ⟨s, ?_, closed⟩⟩
  have line := h.line [] [] (by simp)
  rwa [under_nil, under_nil] at line

/-- A pattern that does not hide the parenthesis is read up to it. -/
theorem leads_of_isValid {t : Text} (valid : IsValid t) (seen : ¬ HidesClosing t) :
    ∃ s, Leads initial t s [] ∧ s.frames = [] := by
  cases run_outcome initial t with
  | @finishes s h => exact ⟨s, h, (isValid_iff_of_leads h).mp valid⟩
  | hides h => exact absurd (hidesClosing_of_hides h ((isValid_iff_of_hides h).mp valid)) seen
  | closes h => exact absurd valid (not_isValid_of_closes h)
  | refuses h => exact absurd valid (not_isValid_of_refuses h)

theorem closesGroup_of_closes {t : Text} (h : ClosesEarly initial t) : ClosesGroup t := by
  obtain ⟨a, b, s, rfl, leads, closed⟩ := h
  refine ⟨a, b, rfl, (isValid_iff_of_leads leads).mpr closed, fun hides => ?_⟩
  exact not_isValid_append leads closed [] hides.2

theorem not_isValid_of_closesGroup {t : Text} (h : ClosesGroup t) : ¬ IsValid t := by
  obtain ⟨a, b, rfl, valid, seen⟩ := h
  obtain ⟨s, leads, closed⟩ := leads_of_isValid valid seen
  exact not_isValid_append leads closed b

theorem parse?_of_leads {t : Text} {s : State} (h : Leads initial t s []) (closed : s.frames = []) :
    parse? t = some s.row.toPiece := by
  rw [parse?_eq, h.alone, readAll?_nil, Option.bind_some, finish?, closed]
  rfl

/-! ## Patterns with the ends of a text around them -/

/-- The group that a pattern is put into, behind the start of a text. -/
def wrapper : Frame := ⟨Row.empty.add (.flat (.anchor .textStart)), .initial, false⟩

theorem readAll?_anchoredText (t : Text) :
    initial.readAll? (anchoredText t) = (initial.under [wrapper]).readAll? (t ++ ")$".toList) := by
  have text : anchoredText t = '^' :: '(' :: '?' :: ':' :: (t ++ ")$".toList) := rfl
  rw [text, readAll?_step rfl]
  show State.readAll? _ _ = _
  rw [readAll?_step rfl]
  rfl

theorem readAll?_dollar (s : State) :
    s.readAll? ['$'] = some (s.addPattern (.anchor (endAnchor s.flags))) := by
  have found : skip s.flags.spaced ['$'] = ['$'] := by
    cases s.flags.spaced <;> rfl
  rw [readAll?_step found]
  exact readAll?_nil _

/-- The ends of `$` close no group. -/
theorem readAll?_frames {w : Text} (h : w <:+ ['$']) (s : State) :
    ∃ s', s.readAll? w = some s' ∧ s'.frames = s.frames := by
  rcases List.suffix_cons_iff.mp h with rfl | nil
  · exact ⟨_, readAll?_dollar s, rfl⟩
  · obtain rfl := List.suffix_nil.mp nil
    exact ⟨s, readAll?_nil s, rfl⟩

theorem not_isValid_anchoredText {t : Text} {s : State}
    (read : (initial.under [wrapper]).readAll? (t ++ ")$".toList) = some s)
    (opened : s.frames ≠ []) : ¬ IsValid (anchoredText t) := by
  rw [isValid_iff, readAll?_anchoredText, read]
  simpa using opened

theorem anchoredText_of_refuses {t : Text} (h : Refuses initial t) :
    ¬ IsValid (anchoredText t) := by
  rcases h.added [wrapper] ['$'] with none | ⟨s, w, suffix, later⟩
  · rw [isValid_iff, readAll?_anchoredText]
    show ¬ ∃ s, (initial.under [wrapper]).readAll? (t ++ ')' :: ['$']) = some s ∧ _
    rw [none]
    simp
  · obtain ⟨s', read, frames⟩ := readAll?_frames suffix (s.under [wrapper])
    refine not_isValid_anchoredText (later.trans read) ?_
    rw [frames]
    exact List.append_ne_nil_of_right_ne_nil _ (List.cons_ne_nil _ _)

theorem anchoredText_of_hides {t : Text} {s : State} (h : Hides initial t s) :
    ¬ IsValid (anchoredText t) := by
  refine not_isValid_anchoredText (h.line [wrapper] ['$'] (by decide)) ?_
  exact List.append_ne_nil_of_right_ne_nil _ (List.cons_ne_nil _ _)

/-- The parenthesis behind a text closes the innermost group that is open there. -/
theorem readAll?_close {s : State} {frame : Frame} {frames : List Frame}
    (opened : s.frames = frame :: frames) :
    ∃ s' : State, s.readAll? (')' :: ['$']) = some (s'.addPattern (.anchor (endAnchor frame.flags))) ∧
      s'.frames = frames ∧ s'.row = frame.row.add ⟨if frame.captures then
        .group s.row.toPiece.pattern else s.row.toPiece.pattern, s.row.toPiece.depth + 1, true⟩ := by
  let pattern := if frame.captures then Pattern.group s.row.toPiece.pattern
    else s.row.toPiece.pattern
  refine ⟨{ s with
    row := frame.row.add ⟨pattern, s.row.toPiece.depth + 1, true⟩
    flags := frame.flags
    frames := frames }, ?_, rfl, rfl⟩
  rw [readAll?_step (skip_closing_eq s.flags.spaced ['$'])]
  show (s.closeGroup?.map _).bind _ = _
  unfold closeGroup?
  rw [opened]
  exact readAll?_dollar _

theorem readAll?_anchoredText_of_leads {t : Text} {s : State} (h : Leads initial t s []) :
    initial.readAll? (anchoredText t) = (s.under [wrapper]).readAll? (')' :: ['$']) :=
  (readAll?_anchoredText t).trans (h.added [wrapper] ['$'])

/-- If the group around a text is closed behind it, the text stands between the two ends. -/
theorem parse?_anchoredText_of_leads {t : Text} {s : State} (h : Leads initial t s [])
    (closed : s.frames = []) :
    ∃ piece, parse? (anchoredText t) = some piece ∧ piece.pattern =
      .sequence (.anchor .textStart) (.sequence s.row.toPiece.pattern (.anchor .textEnd)) := by
  have opened : (s.under [wrapper]).frames = [wrapper] := by
    show s.frames ++ [wrapper] = [wrapper]
    rw [closed, List.nil_append]
  obtain ⟨s', read, frames, row⟩ := readAll?_close opened
  refine ⟨(s'.addPattern (.anchor .textEnd)).row.toPiece, ?_, ?_⟩
  · rw [parse?_eq, readAll?_anchoredText_of_leads h, read, Option.bind_some]
    show (if s'.frames.isEmpty then _ else none) = _
    rw [frames]
    rfl
  · show (s'.row.add (.flat (.anchor .textEnd))).toPiece.pattern = _
    rw [row]
    rfl

theorem not_isValid_anchoredText_of_leads {t : Text} {s : State} (h : Leads initial t s [])
    (opened : s.frames ≠ []) : ¬ IsValid (anchoredText t) := by
  cases frames : s.frames with
  | nil => exact absurd frames opened
  | cons frame outer =>
    have inner : (s.under [wrapper]).frames = frame :: (outer ++ [wrapper]) := by
      show s.frames ++ [wrapper] = _
      rw [frames]
      rfl
    obtain ⟨s', read, left, _⟩ := readAll?_close inner
    rw [isValid_iff, readAll?_anchoredText_of_leads h, read]
    rintro ⟨s'', same, closed⟩
    cases same
    have none : s'.frames = [] := closed
    rw [left] at none
    exact List.append_ne_nil_of_right_ne_nil _ (List.cons_ne_nil _ _) none

/-! ## What the ends around a pattern change -/

/-- With the ends around it a text is a pattern if it is one by itself that does not hide the
parenthesis, or if it breaks out of the group. -/
theorem isValid_anchoredText_iff (t : Text) :
    IsValid (anchoredText t) ↔ (IsValid t ∧ ¬ HidesClosing t) ∨ BreaksOut t := by
  constructor
  · intro valid
    cases run_outcome initial t with
    | @finishes s h =>
      have closed : s.frames = [] := Classical.byContradiction fun opened =>
        not_isValid_anchoredText_of_leads h opened valid
      refine .inl ⟨(isValid_iff_of_leads h).mpr closed, fun hides => ?_⟩
      exact not_isValid_append h closed [] hides.2
    | hides h => exact absurd valid (anchoredText_of_hides h)
    | closes h => exact .inr ⟨closesGroup_of_closes h, valid⟩
    | refuses h => exact absurd valid (anchoredText_of_refuses h)
  · rintro (⟨valid, seen⟩ | ⟨_, valid⟩)
    · obtain ⟨s, leads, closed⟩ := leads_of_isValid valid seen
      obtain ⟨piece, read, _⟩ := parse?_anchoredText_of_leads leads closed
      rw [IsValid, read]
      rfl
    · exact valid

/-- With the ends around it a pattern is found where it matches the whole text. -/
theorem found_anchored_iff (p : Pattern) (t : Text) :
    Found (.sequence (.anchor .textStart) (.sequence p (.anchor .textEnd))) t ↔
      p.MatchesWhole t :=
  found_ends_iff [p]

end Pattern

namespace Filter

open Pattern

/-- On this value the filter reports an invalid pattern exactly if its pattern is none, and
otherwise holds exactly if the pattern matches the whole value. -/
def MatchesAsWritten (f : Filter) (data : Option Text) : Prop :=
  ((f.evaluateOn data).result = .error (.invalidPattern (Text.trim f.controls)) ↔
      ¬ IsValid (Text.trim f.controls)) ∧
    ∀ piece, parse? (Text.trim f.controls) = some piece →
      ((f.evaluateOn data).result = .ok true ↔
        piece.pattern.MatchesWhole (Controls.scalar (data.getD missingLiteral)))

/-- The pattern of the filter keeps to the limits on patterns with the ends around it. -/
def PatternIsSmall (f : Filter) : Prop :=
  ∀ piece, parse? (anchoredText (Text.trim f.controls)) = some piece →
    isWithinLimits piece = true

variable {f : Filter}

theorem evaluateOn_matching (matching : f.comparator = .matching) (data : Option Text) :
    (f.evaluateOn data).result =
      Evaluation.matchesPattern (Controls.scalar (data.getD missingLiteral))
        (Text.trim f.controls) := by
  rw [evaluateOn_result, Evaluation.evaluate_result (by rw [matching]; rfl),
    Evaluation.compare_matching matching]
  rfl

/-- Within the limits a pattern is compiled exactly if it is valid with the ends around it. -/
theorem matchesPattern_of_small (small : f.PatternIsSmall) (actual : Text) :
    Evaluation.matchesPattern actual (Text.trim f.controls) =
      match parse? (anchoredText (Text.trim f.controls)) with
      | none => .error (.invalidPattern (Text.trim f.controls))
      | some piece => .ok (piece.pattern.isFoundIn actual) := by
  unfold Evaluation.matchesPattern anchored? Pattern.read?
  cases read : parse? (anchoredText (Text.trim f.controls)) with
  | none => rfl
  | some piece => rw [Option.filter_some_pos (small piece read)]; rfl

theorem evaluateOn_invalid_iff (matching : f.comparator = .matching) (small : f.PatternIsSmall)
    (data : Option Text) :
    (f.evaluateOn data).result = .error (.invalidPattern (Text.trim f.controls)) ↔
      ¬ IsValid (anchoredText (Text.trim f.controls)) := by
  rw [evaluateOn_matching matching, matchesPattern_of_small small, IsValid]
  cases parse? (anchoredText (Text.trim f.controls)) <;> simp

/-- A filter whose pattern keeps its validity matches whole values. -/
theorem evaluateOn_ok_iff (matching : f.comparator = .matching) (small : f.PatternIsSmall)
    (seen : ¬ HidesClosing (Text.trim f.controls)) {piece : Reader.Piece}
    (read : parse? (Text.trim f.controls) = some piece) (data : Option Text) :
    (f.evaluateOn data).result = .ok true ↔
      piece.pattern.MatchesWhole (Controls.scalar (data.getD missingLiteral)) := by
  have valid : IsValid (Text.trim f.controls) := by
    rw [IsValid, read]
    rfl
  obtain ⟨s, leads, closed⟩ := leads_of_isValid valid seen
  obtain ⟨outer, outerRead, pattern⟩ := parse?_anchoredText_of_leads leads closed
  have inner : s.row.toPiece = piece :=
    Option.some.inj ((parse?_of_leads leads closed).symm.trans read)
  rw [evaluateOn_matching matching, matchesPattern_of_small small, outerRead, ← inner]
  show Except.ok _ = Except.ok true ↔ _
  rw [Except.ok.injEq, isFoundIn_iff, pattern, found_anchored_iff]

/-- Evaluation matches a pattern as it is written, on any value, exactly if the pattern neither
ends in a comment nor breaks out of the group that it is put into. -/
theorem matchesAsWritten_iff (matching : f.comparator = .matching) (small : f.PatternIsSmall)
    (data : Option Text) :
    f.MatchesAsWritten data ↔
      ¬ HidesClosing (Text.trim f.controls) ∧ ¬ BreaksOut (Text.trim f.controls) := by
  unfold MatchesAsWritten
  rw [evaluateOn_invalid_iff matching small, isValid_anchoredText_iff]
  constructor
  · rintro ⟨same, _⟩
    refine ⟨fun hides => ?_, fun breaks => ?_⟩
    · -- a pattern that hides the parenthesis is valid, but reported as invalid
      refine same.mp ?_ hides.1
      rintro (⟨_, seen⟩ | breaks)
      · exact seen hides
      · exact not_isValid_of_closesGroup breaks.1 hides.1
    · -- one that breaks out is invalid, but not reported
      exact same.mpr (not_isValid_of_closesGroup breaks.1) (.inr breaks)
  · rintro ⟨seen, closed⟩
    refine ⟨⟨fun none valid => none (.inl ⟨valid, seen⟩), ?_⟩, fun piece read => ?_⟩
    · rintro invalid (⟨valid, _⟩ | breaks)
      · exact invalid valid
      · exact closed breaks
    · exact evaluateOn_ok_iff matching small seen read data

/-- An alternation stays one within the group. -/
theorem matchesAsWritten_alternation :
    MatchesAsWritten ⟨"x".toList, .matching, "ab|c".toList, []⟩ (some "abc".toList) := by
  refine (matchesAsWritten_iff rfl ?_ (some "abc".toList)).mpr ⟨?_, ?_⟩
  · have all : (parse? (anchoredText "ab|c".toList)).all isWithinLimits = true := by
      decide
    intro piece read
    have same : parse? (anchoredText "ab|c".toList) = some piece := read
    rw [same] at all
    exact all
  · rintro ⟨_, hides⟩
    exact absurd hides (by unfold IsValid; decide)
  · rintro ⟨⟨a, b, split, _⟩, _⟩
    have mem : ')' ∈ "ab|c".toList := by
      show ')' ∈ Text.trim "ab|c".toList
      rw [split]
      simp
    exact absurd mem (by decide)

/-- `a)|(b` is no pattern, but holds on `aX`; `(?x)a # c` matches the whole of `a`, but is
reported as invalid. -/
theorem matchesAsWritten_fails :
    (¬ IsValid (Text.trim "a)|(b".toList) ∧
      (evaluateOn ⟨"x".toList, .matching, "a)|(b".toList, []⟩ (some "aX".toList)).result =
        .ok true) ∧
    ((∃ piece, parse? (Text.trim "(?x)a # c".toList) = some piece ∧
        piece.pattern.MatchesWhole "a".toList) ∧
      (evaluateOn ⟨"x".toList, .matching, "(?x)a # c".toList, []⟩ (some "a".toList)).result =
        .error (.invalidPattern "(?x)a # c".toList)) := by
  refine ⟨⟨by unfold IsValid; decide, ?_⟩, ⟨?_, ?_⟩⟩
  · rw [evaluateOn_matching rfl]
    unfold Evaluation.matchesPattern
    rfl
  · refine ⟨⟨.sequence .empty (.one (.single 'a')), 1, true⟩, by decide, ?_⟩
    exact .sequence (.empty (by decide)) (.one rfl (by decide))
  · rw [evaluateOn_matching rfl]
    unfold Evaluation.matchesPattern
    rfl

end Filter

end Criteria
