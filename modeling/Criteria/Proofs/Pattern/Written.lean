import Criteria.Proofs.Pattern.Run
import Criteria.Proofs.Pattern.Language

/-!
# How patterns are written

The reader takes a written pattern from left to right. Here it is taken apart the other way:
a text writes a pattern if the reader, wherever it meets the text, goes on with the pattern as
one more part. Texts that write patterns are put together as the patterns are.

* `WritesAtom`, `Writes`: a text writes one part; a repetition is told from what follows by a
  question mark, so none may follow it.
* `WritesRow`, `WritesChoice`: parts one behind the other, and rows with bars between them.
* `WritesChoice.inGroup`, `WritesAtom.many` and their like: what is made of parts.
* `WritesChoice.parse?`, `WritesRow.parse?_flagged`: such a text is read as the pattern it
  writes.
-/

namespace Criteria

namespace Reader

open Pattern (inRow inChoice nested)

/-- The characters that do not stand for themselves in a pattern. -/
def reserved : List Char := "()|[?*+\x7b\\.^$".toList

/-- Joined parts, the last one first, are the parts in a row or in a choice. -/
theorem join_pattern (combine : Pattern → Pattern → Pattern) (pieces : List Piece) :
    (join combine pieces.reverse).pattern = nested combine (pieces.map Piece.pattern) := by
  rcases List.eq_nil_or_concat pieces with rfl | ⟨before, last, rfl⟩
  · rfl
  · have fold : (join combine (last :: before.reverse)).pattern =
        before.reverse.foldl (fun p piece => combine piece.pattern p) last.pattern := by
      cases before.reverse <;> rfl
    rw [List.concat_eq_append, List.reverse_concat, fold, List.foldl_reverse]
    clear fold
    induction before with
    | nil => rfl
    | cons piece before ih =>
      rw [List.foldr_cons, ih]
      cases before <;> rfl

namespace State

open Lexical

/-- Under these flags the reader takes the text as one part, whatever follows. -/
def WritesAtom (f : Flags) (u : Text) (p : Pattern) : Prop :=
  ∃ depth, ∀ (s : State) (rest : Text), s.flags = f →
    s.readAll? (u ++ rest) = (s.add ⟨p, depth, true⟩).readAll? rest

/-- Under these flags the reader takes the text as one part, if no question mark follows. -/
def Writes (f : Flags) (u : Text) (p : Pattern) : Prop :=
  ∃ depth, ∀ (s : State) (rest : Text), s.flags = f → rest.head? ≠ some '?' →
    s.readAll? (u ++ rest) = (s.add ⟨p, depth, true⟩).readAll? rest

/-- The reader takes the text as these parts, one behind the other. -/
def WritesRow (f : Flags) (u : Text) (ps : List Pattern) : Prop :=
  ∃ pieces : List Piece, pieces.map Piece.pattern = ps ∧
    ∀ (s : State) (rest : Text), s.flags = f → rest.head? ≠ some '?' →
      s.readAll? (u ++ rest) = (pieces.foldl add s).readAll? rest

/-- The reader takes the text as alternatives of the group that it is in. -/
def WritesChoice (f : Flags) (u : Text) (ps : List Pattern) : Prop :=
  ∃ pieces : List Piece, pieces.map Piece.pattern = ps ∧
    ∀ (s : State) (rest : Text), s.flags = f → s.row.pieces = [] → rest.head? ≠ some '?' →
      ∃ row : Row, row.next.alternatives = pieces.reverse ++ s.row.alternatives ∧
        s.readAll? (u ++ rest) = { s with row := row }.readAll? rest

variable {f : Flags} {u v : Text} {p q : Pattern} {ps qs : List Pattern}

theorem readAll?_next {s s' : State} {c : Char} {rest rest' : Text}
    (close : s.flags.spaced = false) (read : s.step? c rest = some (s', rest')) :
    s.readAll? (c :: rest) = s'.readAll? rest' := by
  have found : skip s.flags.spaced (c :: rest) = c :: rest := by
    rw [close]
    rfl
  rw [readAll?_step found, read]
  rfl

theorem WritesAtom.writes (h : WritesAtom f u p) : Writes f u p :=
  let ⟨depth, reads⟩ := h
  ⟨depth, fun s rest flags _ => reads s rest flags⟩

theorem skipPreference_of_ne {rest : Text} (last : rest.head? ≠ some '?') :
    skipPreference rest = rest := by
  cases rest with
  | nil => rfl
  | cons c rest => exact if_neg fun same => last (congrArg some same)

/-! ## Parts of one character or set -/

theorem readEscape?_shorthand {c : Char} {set : CharSet} (letter : c ∈ ['d', 's', 'w'])
    (named : shorthand? f c = some set) (rest : Text) :
    readEscape? f (c :: rest) = some (.set set, rest) := by
  simp only [List.mem_cons, List.not_mem_nil, or_false] at letter
  have read : readShorthand? f c = some set := by
    rw [readShorthand?, named]
    obtain rfl | rfl | rfl := letter <;> rfl
  have found : readEscape? f (c :: rest) =
      ((((readShorthand? f c).map Escape.set).or ((controlOf? c).map (Escape.char · false))).or
        ((anchorOf? f.unicode c).map Escape.anchor)).map (·, rest) := by
    obtain rfl | rfl | rfl := letter <;> rfl
  rw [found, read]
  rfl

section

variable (close : f.spaced = false)

include close

theorem writes_step {c : Char} (depth : Nat)
    (read : ∀ (s : State) (rest : Text), s.flags = f →
      s.step? c (u ++ rest) = some (s.add ⟨p, depth, true⟩, rest)) : WritesAtom f (c :: u) p :=
  ⟨depth, fun s rest flags => readAll?_next (flags ▸ close) (read s rest flags)⟩

theorem writes_unreserved {c : Char} (free : c ∉ reserved) :
    WritesAtom f [c] (.one (f.fold (.single c))) := by
  refine writes_step close 0 fun s rest flags => ?_
  subst flags
  show s.step? c rest = _
  unfold step?
  split <;> first | rfl | exact absurd (by decide) free

theorem writes_textStart : WritesAtom f ['^'] (.anchor (startAnchor f)) :=
  writes_step close 0 fun s rest flags => by subst flags; rfl

theorem writes_textEnd : WritesAtom f ['$'] (.anchor (endAnchor f)) :=
  writes_step close 0 fun s rest flags => by subst flags; rfl

theorem writes_dot {set : CharSet} (dot : dotSet? f = some set) : WritesAtom f ['.'] (.one set) := by
  refine writes_step close 0 fun s rest flags => ?_
  show (dotSet? s.flags).map _ = _
  rw [flags, dot]
  rfl

theorem writes_escape {escape : Escape}
    (read : ∀ rest, readEscape? f (u ++ rest) = some (escape, rest))
    (adds : ∀ s : State, s.flags = f → s.addEscape? escape = some (s.addPattern p)) :
    WritesAtom f ('\\' :: u) p := by
  refine writes_step close 0 fun s rest flags => ?_
  show (readEscape? s.flags (u ++ rest)).bind _ = _
  rw [flags, read rest]
  show (s.addEscape? escape).bind _ = _
  rw [adds s flags]
  rfl

/-- A set with a letter of its own. -/
theorem writes_shorthand {c : Char} {set : CharSet} (letter : c ∈ ['d', 's', 'w'])
    (named : shorthand? f c = some set) : WritesAtom f ['\\', c] (.one set) :=
  writes_escape close (readEscape?_shorthand letter named) fun _ _ => rfl

/-- A character that stands for itself behind a backslash. -/
theorem writes_escaped {c : Char}
    (read : ∀ rest, readEscape? f (u ++ rest) = some (.char c false, rest)) :
    WritesAtom f ('\\' :: u) (.one (f.fold (.single c))) :=
  writes_escape close read fun _ flags => flags ▸ rfl

/-- A set in brackets. -/
theorem writes_listed {set : CharSet} {depth : Nat}
    (read : ∀ rest, Bracketed.read? f (u ++ rest) = some (⟨set, depth⟩, rest)) :
    WritesAtom f ('[' :: u) (.one set) := by
  refine writes_step close depth fun s rest flags => ?_
  show (Bracketed.read? s.flags (u ++ rest)).map _ = _
  rw [flags, read rest]
  rfl

/-! ## Repetitions -/

theorem WritesAtom.repeated {least : Nat} {extra : Option Nat} {mark : Char}
    (h : WritesAtom f u p)
    (marks : ∀ (s : State) (rest : Text), s.step? mark rest = s.repeatLast? least extra rest) :
    Writes f (u ++ [mark]) (.repeated p least extra) := by
  obtain ⟨depth, reads⟩ := h
  refine ⟨depth + 1, fun s rest flags last => ?_⟩
  rw [List.append_assoc, reads s _ flags]
  refine readAll?_next (flags ▸ close) ((marks _ rest).trans ?_)
  show some (_, skipPreference rest) = _
  rw [skipPreference_of_ne last]
  rfl

theorem WritesAtom.optional (h : WritesAtom f u p) : Writes f (u ++ ['?']) (.repeated p 0 (some 1)) :=
  h.repeated close fun _ _ => rfl

theorem WritesAtom.many (h : WritesAtom f u p) : Writes f (u ++ ['*']) (.repeated p 0 none) :=
  h.repeated close fun _ _ => rfl

theorem WritesAtom.some (h : WritesAtom f u p) : Writes f (u ++ ['+']) (.repeated p 1 none) :=
  h.repeated close fun _ _ => rfl

/-- A question mark behind a repetition makes no difference to what it matches. -/
theorem WritesAtom.someReluctantly (h : WritesAtom f u p) :
    WritesAtom f (u ++ ['+', '?']) (.repeated p 1 none) := by
  obtain ⟨depth, reads⟩ := h
  refine ⟨depth + 1, fun s rest flags => ?_⟩
  rw [List.append_assoc, reads s _ flags]
  exact readAll?_next (flags ▸ close) rfl

theorem WritesAtom.bounded {least : Nat} {extra : Option Nat} (h : WritesAtom f u p)
    (read : ∀ rest, readBounds? false (v ++ rest) = Option.some (least, extra, rest)) :
    Writes f (u ++ '\x7b' :: v) (.repeated p least extra) := by
  obtain ⟨depth, reads⟩ := h
  refine ⟨depth + 1, fun s rest flags last => ?_⟩
  rw [List.append_assoc, reads s _ flags]
  refine readAll?_next (flags ▸ close) ?_
  show (readBounds? s.flags.spaced (v ++ rest)).bind _ = _
  rw [flags, close, read rest]
  show Option.some (_, skipPreference (skip s.flags.spaced rest)) = _
  rw [flags, close]
  show Option.some (_, skipPreference rest) = _
  rw [skipPreference_of_ne last]
  rfl

end

/-! ## Rows -/

theorem foldl_add (pieces : List Piece) (s : State) : pieces.foldl add s =
    { s with row := ⟨pieces.reverse ++ s.row.pieces, s.row.alternatives⟩ } := by
  induction pieces generalizing s with
  | nil => rfl
  | cons piece pieces ih =>
    rw [List.foldl_cons, ih, List.reverse_cons, List.append_assoc]
    rfl

theorem WritesRow.nil : WritesRow f [] [] := ⟨[], rfl, fun _ _ _ _ => rfl⟩

theorem WritesRow.append (first : WritesRow f u ps) (second : WritesRow f v qs)
    (apart : v.head? ≠ some '?') : WritesRow f (u ++ v) (ps ++ qs) := by
  obtain ⟨before, rfl, reads⟩ := first
  obtain ⟨after, rfl, more⟩ := second
  refine ⟨before ++ after, List.map_append, fun s rest flags last => ?_⟩
  have behind : (v ++ rest).head? ≠ some '?' := by
    cases v with
    | nil => exact last
    | cons c v => exact apart
  have same : (before.foldl add s).flags = f := by
    rw [foldl_add]
    exact flags
  rw [List.append_assoc, reads s _ flags behind, more _ rest same last, List.foldl_append]

/-- The text of a pattern may be given as a string. -/
theorem WritesRow.ofString {s : String} (h : WritesRow f u ps) (same : s = String.ofList u) :
    WritesRow f s.toList ps := by
  rwa [same, String.toList_ofList]

theorem Writes.row (h : Writes f u p) : WritesRow f u [p] :=
  let ⟨depth, reads⟩ := h
  ⟨[⟨p, depth, true⟩], rfl, reads⟩

theorem WritesRow.cons (first : Writes f u p) (second : WritesRow f v ps)
    (apart : v.head? ≠ some '?') : WritesRow f (u ++ v) (p :: ps) :=
  first.row.append second apart

/-! ## Choices -/

theorem WritesRow.choice (h : WritesRow f u ps) : WritesChoice f u [inRow ps] := by
  obtain ⟨pieces, rfl, reads⟩ := h
  refine ⟨[join .sequence pieces.reverse], ?_, fun s rest flags fresh last => ?_⟩
  · rw [List.map_singleton, join_pattern]
    rfl
  · refine ⟨⟨pieces.reverse, s.row.alternatives⟩, rfl, ?_⟩
    rw [reads s rest flags last, foldl_add, fresh, List.append_nil]

theorem WritesChoice.bar (close : f.spaced = false) (first : WritesRow f u ps)
    (second : WritesChoice f v qs) : WritesChoice f (u ++ '|' :: v) (inRow ps :: qs) := by
  obtain ⟨pieces, rfl, reads⟩ := first
  obtain ⟨later, rfl, more⟩ := second
  refine ⟨join .sequence pieces.reverse :: later, ?_, fun s rest flags fresh last => ?_⟩
  · rw [List.map_cons, join_pattern]
    rfl
  · -- the bar puts the row among the alternatives, and the next one starts without parts
    obtain ⟨row, alternatives, same⟩ := more
      { s with row := ⟨[], join .sequence pieces.reverse :: s.row.alternatives⟩ } rest flags rfl last
    refine ⟨row, ?_, ?_⟩
    · rw [alternatives, List.reverse_cons, List.append_assoc]
      rfl
    · have bar : ('|' :: v ++ rest).head? ≠ some '?' := by
        show some '|' ≠ _
        decide
      rw [List.append_assoc, reads s _ flags bar, foldl_add, fresh, List.append_nil, ← same]
      exact readAll?_next (flags ▸ close) rfl

/-- Rows with bars between them. -/
theorem WritesChoice.ofList {α : Type} (close : f.spaced = false) (text : α → Text)
    (row : α → List Pattern) {xs : List α} (ne : xs ≠ [])
    (writes : ∀ x ∈ xs, WritesRow f (text x) (row x)) :
    WritesChoice f (['|'].intercalate (xs.map text)) (xs.map fun x => inRow (row x)) := by
  induction xs with
  | nil => exact absurd rfl ne
  | cons x xs ih =>
    obtain ⟨first, later⟩ := List.forall_mem_cons.mp writes
    cases xs with
    | nil =>
      rw [List.map_singleton, List.intercalate_singleton]
      exact first.choice
    | cons y xs =>
      rw [List.map_cons, List.intercalate_cons_of_ne_nil (by simp), List.append_assoc]
      exact .bar close first (ih (List.cons_ne_nil y xs) later)

/-! ## Groups -/

theorem readAll?_group (captures : Bool) {opening : Text} (close : f.spaced = false)
    (h : WritesChoice f u ps)
    (opens : ∀ (s : State) (rest : Text), s.flags = f →
      s.readAll? (opening ++ (u ++ ')' :: rest)) =
        (s.openGroup s.flags captures).readAll? (u ++ ')' :: rest)) :
    WritesAtom f (opening ++ (u ++ [')'])) (if captures then .group (inChoice ps) else inChoice ps) := by
  obtain ⟨pieces, rfl, reads⟩ := h
  refine ⟨(join .either pieces.reverse).depth + 1, fun s rest flags => ?_⟩
  obtain ⟨row, alternatives, same⟩ := reads (s.openGroup s.flags captures) (')' :: rest) flags rfl
    (by show Option.some ')' ≠ _; decide)
  have inner : row.toPiece = join .either pieces.reverse := by
    rw [Row.toPiece, alternatives]
    exact congrArg (join .either) (List.append_nil _)
  have choice : inChoice (pieces.map Piece.pattern) = row.toPiece.pattern := by
    rw [inner, join_pattern]
    rfl
  rw [List.append_assoc, List.append_assoc]
  show s.readAll? (opening ++ (u ++ ')' :: rest)) = _
  rw [opens s rest flags, same, choice, ← inner]
  exact readAll?_next (flags ▸ close) (by cases captures <;> rfl)

theorem WritesChoice.inGroup (close : f.spaced = false) (h : WritesChoice f u ps) :
    WritesAtom f (['(', '?', ':'] ++ (u ++ [')'])) (inChoice ps) := by
  refine readAll?_group false close h fun s rest flags => ?_
  refine readAll?_next (flags ▸ close) ?_
  show s.readOpening? ('?' :: ':' :: (u ++ ')' :: rest)) = some (_, u ++ ')' :: rest)
  rw [readOpening?_eq, flags, close]
  subst flags
  rfl

theorem WritesChoice.captured (close : f.spaced = false) (h : WritesChoice f u ps)
    (plain : u.head? ≠ some '?') : WritesAtom f (['('] ++ (u ++ [')'])) (.group (inChoice ps)) := by
  refine readAll?_group true close h fun s rest flags => ?_
  refine readAll?_next (flags ▸ close) ?_
  show s.readOpening? (u ++ ')' :: rest) = some (_, u ++ ')' :: rest)
  rw [readOpening?_eq, flags, close]
  cases u with
  | nil => rfl
  | cons c u => exact if_neg fun same => plain (congrArg some (of_decide_eq_true same))

/-! ## Whole patterns -/

theorem WritesChoice.parse? (h : WritesChoice .initial u ps) :
    ∃ piece, Pattern.parse? u = some piece ∧ piece.pattern = inChoice ps := by
  obtain ⟨pieces, rfl, reads⟩ := h
  obtain ⟨row, alternatives, same⟩ := reads initial [] rfl rfl (fun none => nomatch none)
  have whole : row.toPiece = join .either pieces.reverse := by
    rw [Row.toPiece, alternatives]
    exact congrArg (join .either) (List.append_nil _)
  rw [List.append_nil, readAll?_nil] at same
  refine ⟨row.toPiece, ?_, ?_⟩
  · show (initial.readAll? u).bind finish? = _
    rw [same]
    rfl
  · rw [whole, join_pattern]
    rfl

/-- The state behind flags at the start of a pattern; what sets them is a part that matches
nothing. -/
def flagged (f : Flags) : State := { initial.add ⟨.empty, 0, false⟩ with flags := f }

/-- Flags at the start of a pattern hold for the rest of it. -/
theorem WritesRow.parse?_flagged {opening : Text} (h : WritesRow f u ps)
    (opens : ∀ rest, initial.readAll? (opening ++ rest) = (flagged f).readAll? rest) :
    ∃ piece, Pattern.parse? (opening ++ u) = some piece ∧
      piece.pattern = inRow (.empty :: ps) := by
  obtain ⟨pieces, rfl, reads⟩ := h
  have same := reads (flagged f) [] rfl (fun none => nomatch none)
  rw [List.append_nil, readAll?_nil, foldl_add] at same
  refine ⟨join .sequence (⟨.empty, 0, false⟩ :: pieces).reverse, ?_, ?_⟩
  · show (initial.readAll? (opening ++ u)).bind finish? = _
    rw [opens, same, List.reverse_cons]
    rfl
  · rw [join_pattern]
    rfl

end State

end Reader

end Criteria
