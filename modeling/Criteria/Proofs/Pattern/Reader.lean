import Criteria.Pattern.Reader
import Criteria.Proofs.Pattern.Bracketed

/-!
# What one part of a pattern is before a closing parenthesis

A pattern is read part by part. This module says what a part depends on.

* `step?_extend`: a part is local, but for `\b` before an open brace.
* `step?_under`: a part does not depend on the groups that were open before, as
  long as it does not close one of them.
-/

namespace Criteria

namespace Reader

namespace State

open Lexical

/-! ## Groups -/

theorem openNamed?_local (s : State) : Local s.openNamed? := by
  have mark : Local (Text.cut? ['>']) := cut?_local (by decide) (by decide)
  have named := mark.bind fun name =>
    Local.ifSome (if isName name ∧ name ∉ s.names then some () else none) fun _ =>
      .pure { s.openGroup s.flags true with names := name :: s.names }
  have same : ∀ t, s.openNamed? t = (Text.cut? ['>'] t).bind fun p =>
      (if isName p.1 ∧ p.1 ∉ s.names then some () else none).bind fun _ =>
        some ({ s.openGroup s.flags true with names := p.1 :: s.names }, p.2) := by
    intro t
    unfold openNamed?
    rcases Text.cut? ['>'] t with _ | ⟨name, rest⟩
    · rfl
    · simp only [Option.bind_some]
      split <;> rfl
  rw [funext same]
  exact named

/-- `readFlags?` with what it reads apart from what it leaves. -/
def flagsOf? (seen : Text) (flags : Flags) (t : Text) : Option ((Flags × Text × Char) × Text) :=
  (readFlags? seen flags t).map fun p => ((p.1, p.2.1, p.2.2.1), p.2.2.2)

theorem flagsOf?_cons (seen : Text) (flags : Flags) (c : Char) (t : Text) :
    flagsOf? seen flags (c :: t) =
      if c = ':' ∨ c = ')' then
        if seen.head? = some '-' then none else some ((flags, seen, c), t)
      else if c ∈ seen then none
      else if c = '-' then flagsOf? (c :: seen) flags t
      else
        match flags.set? c !(seen.contains '-') with
        | some flags => flagsOf? (c :: seen) flags t
        | none => none := by
  unfold flagsOf?
  rw [readFlags?]
  split
  · split <;> rfl
  split
  · rfl
  split
  · rfl
  cases flags.set? c !(seen.contains '-') <;> rfl

theorem flagsOf?_shrinks (seen : Text) (flags : Flags) (u : Text) :
    Within u (flagsOf? seen flags u) := by
  induction u generalizing seen flags with
  | nil => exact .none
  | cons c u ih =>
    refine Within.mono ?_ (List.suffix_cons c u)
    rw [flagsOf?_cons]
    split
    · split
      · exact .none
      · exact .some (List.suffix_refl u)
    split
    · exact .none
    split
    · exact ih _ _
    split
    · exact ih _ _
    · exact .none

theorem flagsOf?_local (seen : Text) (flags : Flags) : Local (flagsOf? seen flags) where
  shrinks := flagsOf?_shrinks seen flags
  extend u := by
    induction u generalizing seen flags with
    | nil =>
      refine .fail rfl fun v => ?_
      rw [List.nil_append, flagsOf?_cons, if_pos (.inr rfl)]
      split
      · exact .none
      · exact .some (List.suffix_refl v)
    | cons c u ih =>
      simp only [List.cons_append, flagsOf?_cons]
      split
      · split
        · exact .fail rfl fun _ => .none
        · exact .pure (flags, seen, c) u
      split
      · exact .fail rfl fun _ => .none
      split
      · exact ih _ _
      split
      · exact ih _ _
      · exact .fail rfl fun _ => .none

/-- The state after flags. -/
def setFlags? (s : State) (flags : Flags) (seen : Text) (mark : Char) : Option State :=
  if mark = ':' then some (s.openGroup flags false)
  else if seen.isEmpty then none
  else some { s.add ⟨.empty, 0, false⟩ with flags := flags }

theorem openFlagged?_eq (s : State) (t : Text) :
    s.openFlagged? t = (flagsOf? [] s.flags t).bind fun p =>
      (s.setFlags? p.1.1 p.1.2.1 p.1.2.2).map fun s => (s, p.2) := by
  unfold openFlagged? flagsOf? setFlags?
  rcases readFlags? [] s.flags t with _ | ⟨flags, seen, mark, rest⟩
  · rfl
  · simp only [Option.map_some, Option.bind_some]
    split
    · rfl
    · split <;> rfl

theorem openFlagged?_local (s : State) : Local s.openFlagged? := by
  rw [funext s.openFlagged?_eq]
  exact (flagsOf?_local [] s.flags).bind fun read => .value (s.setFlags? read.1 read.2.1 read.2.2)

/-- Reads what follows the question mark of a group. -/
def openMarked? (s : State) : Text → Option (State × Text) :=
  whenOpens '=' (fun _ => none) <|
  whenOpens '!' (fun _ => none) <|
  whenOpens '<'
    (whenOpens '=' (fun _ => none) <| whenOpens '!' (fun _ => none) s.openNamed?) <|
  whenOpens 'P' (whenOpens '<' s.openNamed? fun _ => none)
  s.openFlagged?

theorem openMarked?_local (s : State) : Local s.openMarked? := by
  have named := s.openNamed?_local
  exact .whenPasses (by decide) (fun _ => .none) <|
    .whenPasses (by decide) (fun _ => .none) <|
    .whenPasses (by decide)
      (fun _ => .whenPasses (by decide) (fun _ => .none) <|
        .whenPasses (by decide) (fun _ => .none) named) <|
    .whenPasses (by decide) (fun _ => .whenPasses (by decide) (fun _ => named) .none)
    s.openFlagged?_local

/-- No flag is written with a capital P. -/
theorem openFlagged?_capital (s : State) (t : Text) : s.openFlagged? ('P' :: t) = none := rfl

theorem openMarked?_eq (s : State) (t : Text) :
    (match '?' :: t with
      | '?' :: '=' :: _ | '?' :: '!' :: _ | '?' :: '<' :: '=' :: _ | '?' :: '<' :: '!' :: _ => none
      | '?' :: 'P' :: '<' :: rest => s.openNamed? rest
      | '?' :: '<' :: rest => s.openNamed? rest
      | '?' :: rest => s.openFlagged? rest
      | rest => some (s.openGroup s.flags true, rest)) =
      s.openMarked? t := by
  rcases t with _ | ⟨c, t⟩
  · rfl
  by_cases ahead : c = '=' ∨ c = '!'
  · rcases ahead with rfl | rfl
    all_goals rfl
  obtain ⟨equals, exclamation⟩ := not_or.mp ahead
  by_cases angle : c = '<'
  · subst angle
    rcases t with _ | ⟨d, t⟩
    · rfl
    · by_cases behind : d = '=' ∨ d = '!'
      · rcases behind with rfl | rfl
        all_goals rfl
      · simp [openMarked?, whenPasses, not_or.mp behind]
  by_cases capital : c = 'P'
  · subst capital
    rcases t with _ | ⟨d, t⟩
    · rfl
    · by_cases name : d = '<'
      · subst name
        rfl
      · simp [openMarked?, whenPasses, name, openFlagged?_capital]
  · simp [openMarked?, whenPasses, equals, exclamation, angle, capital]

theorem readOpening?_eq (s : State) (t : Text) :
    s.readOpening? t =
      whenOpens '?' s.openMarked? (fun t => some (s.openGroup s.flags true, t))
        (skip s.flags.spaced t) := by
  unfold readOpening?
  cases skip s.flags.spaced t with
  | nil => rfl
  | cons c t =>
    by_cases mark : c = '?'
    · subst mark
      exact openMarked?_eq s t
    · simp [whenPasses, mark]

theorem readOpening?_local (s : State) : Local s.readOpening? := by
  rw [funext s.readOpening?_eq]
  exact Local.afterSkip (.whenPasses (by decide) (fun _ => s.openMarked?_local) (.pure _)) _

/-! ## Repetitions -/

/-- The number that digits stand for, if it is small enough. -/
def countOf? (digits : Text) : Option Nat :=
  let count := Digit.number 10 (digits.filterMap Digit.decimal?)
  if digits.isEmpty ∨ maxCount < count then none else some count

theorem readCount?_eq (spaced : Bool) (t : Text) :
    readCount? spaced t =
      (some (takeAll spaced (fun c => (Digit.decimal? c).isSome) (Text.trimStart t))).bind fun p =>
        (countOf? p.1).bind fun count =>
          (some (takeAll spaced Text.isBlank p.2)).map fun q => (count, q.2) := by
  unfold readCount? countOf?
  simp only [Option.bind_some]
  split <;> rfl

theorem readCount?_local (spaced : Bool) : Local (readCount? spaced) := by
  have digits : Local fun t => some (takeAll spaced (fun c => (Digit.decimal? c).isSome) t) :=
    takeAll_local spaced (by decide)
  have blanks : Local fun t => some (takeAll spaced Text.isBlank t) :=
    takeAll_local spaced (by decide)
  have count := digits.bind fun digits => .ifSome (countOf? digits) fun count =>
    blanks.map fun _ => count
  rw [funext (readCount?_eq spaced)]
  exact trimStart_local.bind fun _ => count

/-- Reads what follows the comma after the least number of copies. -/
def readMost? (spaced : Bool) (least : Nat) : Text → Option ((Nat × Option Nat) × Text) :=
  whenOpens '\x7d' (fun t => some ((least, none), t)) fun t =>
    (readCount? spaced t).bind fun p =>
      whenOpens '\x7d'
        (fun t => if least ≤ p.1 then some ((least, some (p.1 - least)), t) else none)
        (fun _ => none) p.2

theorem readMost?_local (spaced : Bool) (least : Nat) : Local (readMost? spaced least) := by
  have most : ∀ most, Local (whenOpens '\x7d'
      (fun t => if least ≤ most then some ((least, some (most - least)), t) else none)
      fun _ => none) := by
    intro most
    refine .whenPasses (by decide) (fun _ => ?_) .none
    split
    · exact .pure _
    · exact .none
  exact .whenPasses (by decide) (fun _ => .pure _) ((readCount?_local spaced).bind most)

/-- `readBounds?` with what it reads apart from what it leaves. -/
def boundsOf? (spaced : Bool) (t : Text) : Option ((Nat × Option Nat) × Text) :=
  (readCount? spaced (skip spaced t)).bind fun p =>
    whenOpens '\x7d' (fun t => some ((p.1, some 0), t))
      (whenOpens ',' (fun t => readMost? spaced p.1 (skip spaced t)) fun _ => none) p.2

theorem boundsOf?_local (spaced : Bool) : Local (boundsOf? spaced) := by
  have more : ∀ least, Local (whenOpens '\x7d' (fun t => some ((least, some 0), t))
      (whenOpens ',' (fun t => readMost? spaced least (skip spaced t)) fun _ => none)) :=
    fun least => .whenPasses (by decide) (fun _ => .pure (least, some 0))
      (.whenPasses (by decide) (fun _ => (readMost?_local spaced least).afterSkip spaced) .none)
  exact ((readCount?_local spaced).afterSkip spaced).bind more

theorem readMost?_eq (spaced : Bool) (least : Nat) (t : Text) :
    (match t with
      | '\x7d' :: rest => some (least, none, rest)
      | rest => do
          let (most, rest) ← readCount? spaced rest
          match rest with
          | '\x7d' :: rest => if least ≤ most then some (least, some (most - least), rest) else none
          | _ => none) =
      (readMost? spaced least t).map fun p => (p.1.1, p.1.2, p.2) := by
  have counted : ∀ t, (do
        let (most, rest) ← readCount? spaced t
        match rest with
        | '\x7d' :: rest => if least ≤ most then some (least, some (most - least), rest) else none
        | _ => none) =
      ((readCount? spaced t).bind fun p =>
        whenOpens '\x7d'
          (fun t => if least ≤ p.1 then some ((least, some (p.1 - least)), t) else none)
          (fun _ => none) p.2).map fun p => (p.1.1, p.1.2, p.2) := by
    intro t
    rcases readCount? spaced t with _ | ⟨most, rest⟩
    · rfl
    simp only [Option.bind_eq_bind, Option.bind_some]
    rcases rest with _ | ⟨c, rest⟩
    · rfl
    by_cases brace : c = '\x7d'
    · subst brace
      simp only [whenPasses, beq_self_eq_true, if_true]
      split <;> rfl
    · simp [whenPasses, brace]
  rcases t with _ | ⟨c, t⟩
  · exact counted []
  by_cases brace : c = '\x7d'
  · subst brace
    rfl
  · simp only [readMost?, whenPasses, beq_iff_eq, brace, if_false]
    rw [← counted]
    simp [brace]

theorem readBounds?_eq (spaced : Bool) (t : Text) :
    readBounds? spaced t = (boundsOf? spaced t).map fun p => (p.1.1, p.1.2, p.2) := by
  unfold readBounds? boundsOf?
  rcases readCount? spaced (skip spaced t) with _ | ⟨least, t⟩
  · rfl
  simp only [Option.bind_eq_bind, Option.bind_some]
  rcases t with _ | ⟨c, t⟩
  · rfl
  by_cases brace : c = '\x7d'
  · subst brace
    rfl
  by_cases comma : c = ','
  · subst comma
    exact readMost?_eq spaced least (skip spaced t)
  · simp [whenPasses, brace, comma]

theorem skipPreference_eq :
    (fun t => some ((), skipPreference t)) =
      whenOpens '?' (fun t => some ((), t)) fun t => some ((), t) := by
  funext t
  rcases t with _ | ⟨c, t⟩
  · rfl
  · cases mark : c == '?' <;> simp_all [skipPreference, Text.withoutLeading, whenPasses]

theorem skipPreference_local : Local fun t => some ((), skipPreference t) := by
  rw [skipPreference_eq]
  exact .whenPasses (by decide) (fun _ => .pure ()) (.pure ())

theorem repeatLast?_local (s : State) (least : Nat) (extra : Option Nat) :
    Local (s.repeatLast? least extra) := by
  have row := Local.ifSome (s.row.repeatLast? least extra) fun row =>
    skipPreference_local.map fun _ => { s with row := row }
  have same : ∀ t, s.repeatLast? least extra t =
      (s.row.repeatLast? least extra).bind fun row =>
        (some ((), skipPreference t)).map fun p => ({ s with row := row }, p.2) := by
    intro t
    unfold State.repeatLast?
    cases s.row.repeatLast? least extra <;> rfl
  rw [funext same]
  exact row

theorem readBounded?_local (s : State) : Local s.readBounded? := by
  have bounds := (boundsOf?_local s.flags.spaced).bind fun bounds =>
    (s.repeatLast?_local bounds.1 bounds.2).afterSkip s.flags.spaced
  have same : ∀ t, s.readBounded? t = (boundsOf? s.flags.spaced t).bind fun p =>
      s.repeatLast? p.1.1 p.1.2 (skip s.flags.spaced p.2) := by
    intro t
    unfold readBounded?
    rw [readBounds?_eq]
    cases boundsOf? s.flags.spaced t <;> rfl
  rw [funext same]
  exact bounds

/-- Nothing is no bound. -/
theorem readBounded?_nothing (s : State) {t : Text} (nothing : skip s.flags.spaced t = []) :
    s.readBounded? t = none := by
  unfold readBounded? readBounds?
  rw [nothing]
  rfl

/-! ## One part -/

/-- Reads what a backslash opens, outside brackets. -/
def readEscaped? (s : State) (t : Text) : Option (State × Text) :=
  (readEscape? s.flags t).bind fun p => (s.addEscape? p.1).map fun s => (s, p.2)

theorem step?_backslash (s : State) (t : Text) : s.step? '\\' t = s.readEscaped? t := by
  show ((readEscape? s.flags t).bind fun p => (s.addEscape? p.1).bind fun s => some (s, p.2)) = _
  unfold readEscaped?
  rcases readEscape? s.flags t with _ | ⟨escape, rest⟩
  · rfl
  · simp only [Option.bind_some]
    cases s.addEscape? escape <;> rfl

/-- Every part but an escape is local. -/
theorem step?_local (s : State) {c : Char} (other : c ≠ '\\') : Local (s.step? c) := by
  unfold step?
  split
  next => exact s.readOpening?_local
  next => exact .value s.closeGroup?
  next => exact .pure _
  next => exact (Bracketed.read?_local s.flags).map fun part => s.add ⟨.one part.set, part.depth, true⟩
  next => exact s.repeatLast?_local 0 (some 1)
  next => exact s.repeatLast?_local 0 none
  next => exact s.repeatLast?_local 1 none
  next => exact s.readBounded?_local
  next => exact absurd rfl other
  next =>
    cases dotSet? s.flags with
    | none => exact .none
    | some set => exact .pure (s.addPattern (.one set))
  -- what is left are the two anchors and the character that stands for itself
  all_goals exact .pure _

theorem readEscaped?_shrinks (s : State) (u : Text) : Within u (s.readEscaped? u) :=
  (readEscape?_shrinks s.flags u).bind fun escape => (Local.value (s.addEscape? escape)).shrinks

theorem step?_shrinks (s : State) (c : Char) (u : Text) : Within u (s.step? c u) := by
  by_cases backslash : c = '\\'
  · subst backslash
    rw [step?_backslash]
    exact s.readEscaped?_shrinks u
  · exact (s.step?_local backslash).shrinks u

/-- `\b` and an opening brace with nothing behind them. -/
def Undecided (s : State) (c : Char) (u : Text) : Prop :=
  c = '\\' ∧ ∃ body, u = 'b' :: '\x7b' :: body ∧ skip s.flags.spaced body = []

/-- Any other part is local. -/
theorem step?_extend (s : State) {c : Char} {u : Text} (decided : ¬ s.Undecided c u) :
    Extends (s.step? c u) fun v => s.step? c (u ++ ')' :: v) := by
  by_cases backslash : c = '\\'
  · subst backslash
    simp only [step?_backslash]
    have known : ∀ body, u = 'b' :: '\x7b' :: body → skip s.flags.spaced body ≠ [] :=
      fun body h nothing => decided ⟨rfl, body, h, nothing⟩
    exact (readEscape?_extend s.flags known).bind
      (fun escape => (Local.value (s.addEscape? escape)).shrinks)
      fun escape r _ => (Local.value (s.addEscape? escape)).extend r
  · exact (s.step?_local backslash).extend u

/-- Where a part is undecided, it fails alone. With the added text the brace may be left behind,
but then it opens no bounds. -/
theorem step?_undecided (s : State) {c : Char} {u : Text} (undecided : s.Undecided c u) :
    s.step? c u = none ∧
      ∀ v, Within v (s.step? c (u ++ ')' :: v)) ∨
        ∃ s' body, s.step? c (u ++ ')' :: v) = some (s', '\x7b' :: (body ++ ')' :: v)) ∧
          u = 'b' :: '\x7b' :: body ∧ s'.readBounded? body = none := by
  obtain ⟨rfl, body, rfl, nothing⟩ := undecided
  obtain ⟨alone, added⟩ := readEscape?_undecided s.flags nothing
  simp only [step?_backslash, readEscaped?, List.cons_append]
  constructor
  · rw [alone]
    rfl
  · intro v
    rcases added v with within | boundary
    · exact .inl (within.bind fun escape => (Local.value (s.addEscape? escape)).shrinks)
    · refine .inr ⟨_, body, by rw [boundary]; rfl, rfl, ?_⟩
      exact readBounded?_nothing _ nothing

/-! ## Groups that were open before -/

/-- A state with more open groups around all of its own. -/
def under (s : State) (base : List Frame) : State := { s with frames := s.frames ++ base }

/-- The outcome of a part, with more open groups around it. -/
def putUnder (base : List Frame) (p : State × Text) : State × Text := (p.1.under base, p.2)

theorem openNamed?_under (s : State) (base : List Frame) (t : Text) :
    (s.under base).openNamed? t = (s.openNamed? t).map (putUnder base) := by
  unfold openNamed?
  rcases Text.cut? ['>'] t with _ | ⟨name, rest⟩
  · rfl
  · show (if isName name ∧ name ∉ s.names then _ else _) =
      Option.map (putUnder base) (if isName name ∧ name ∉ s.names then _ else _)
    split <;> rfl

theorem setFlags?_under (s : State) (base : List Frame) (flags : Flags) (seen : Text)
    (mark : Char) :
    (s.under base).setFlags? flags seen mark = (s.setFlags? flags seen mark).map (·.under base) := by
  unfold setFlags?
  split
  · rfl
  · split <;> rfl

theorem openFlagged?_under (s : State) (base : List Frame) (t : Text) :
    (s.under base).openFlagged? t = (s.openFlagged? t).map (putUnder base) := by
  rw [openFlagged?_eq, openFlagged?_eq]
  show (flagsOf? [] s.flags t).bind _ = _
  rcases flagsOf? [] s.flags t with _ | ⟨⟨flags, seen, mark⟩, rest⟩
  · rfl
  · simp only [Option.bind_some, setFlags?_under]
    cases s.setFlags? flags seen mark <;> rfl

theorem readOpening?_under (s : State) (base : List Frame) (t : Text) :
    (s.under base).readOpening? t = (s.readOpening? t).map (putUnder base) := by
  have marked : (s.under base).openMarked? = fun t => (s.openMarked? t).map (putUnder base) := by
    funext t
    simp only [openMarked?, map_whenPasses, Option.map_none, ← openNamed?_under,
      ← openFlagged?_under]
  rw [readOpening?_eq, readOpening?_eq, marked, map_whenPasses]
  rfl

theorem repeatLast?_under (s : State) (base : List Frame) (least : Nat) (extra : Option Nat)
    (t : Text) :
    (s.under base).repeatLast? least extra t =
      (s.repeatLast? least extra t).map (putUnder base) := by
  show (s.row.repeatLast? least extra).map _ = ((s.row.repeatLast? least extra).map _).map _
  cases s.row.repeatLast? least extra <;> rfl

theorem readBounded?_under (s : State) (base : List Frame) (t : Text) :
    (s.under base).readBounded? t = (s.readBounded? t).map (putUnder base) := by
  show ((readBounds? s.flags.spaced t).bind fun p =>
    (s.under base).repeatLast? p.1 p.2.1 (skip s.flags.spaced p.2.2)) =
    ((readBounds? s.flags.spaced t).bind fun p =>
      s.repeatLast? p.1 p.2.1 (skip s.flags.spaced p.2.2)).map (putUnder base)
  cases readBounds? s.flags.spaced t with
  | none => rfl
  | some p => exact s.repeatLast?_under base p.1 p.2.1 _

theorem addEscape?_under (s : State) (base : List Frame) (escape : Escape) :
    (s.under base).addEscape? escape = (s.addEscape? escape).map (·.under base) := by
  cases escape with
  | char c isByte =>
    show (charSet? s.flags c isByte).map _ = ((charSet? s.flags c isByte).map _).map _
    cases charSet? s.flags c isByte <;> rfl
  | anchor a => rfl
  | set set => rfl

theorem readEscaped?_under (s : State) (base : List Frame) (t : Text) :
    (s.under base).readEscaped? t = (s.readEscaped? t).map (putUnder base) := by
  unfold readEscaped?
  show (readEscape? s.flags t).bind _ = _
  rcases readEscape? s.flags t with _ | ⟨escape, rest⟩
  · rfl
  · simp only [Option.bind_some, addEscape?_under]
    cases s.addEscape? escape <;> rfl

/-- Reading a part does not depend on the groups around, unless it closes one of them. -/
theorem step?_under (s : State) (base : List Frame) {c : Char} (inside : c = ')' → s.frames ≠ [])
    (t : Text) : (s.under base).step? c t = (s.step? c t).map (putUnder base) := by
  by_cases backslash : c = '\\'
  · subst backslash
    rw [step?_backslash, step?_backslash]
    exact s.readEscaped?_under base t
  unfold step?
  split
  · exact s.readOpening?_under base t
  · show ((s.under base).closeGroup?.map _) = _
    unfold closeGroup?
    cases frames : s.frames with
    | nil => exact absurd frames (inside rfl)
    | cons frame outer => simp [under, frames, putUnder]
  · rfl
  · show (Bracketed.read? s.flags t).map _ = ((Bracketed.read? s.flags t).map _).map _
    cases Bracketed.read? s.flags t <;> rfl
  · exact s.repeatLast?_under base 0 (some 1) t
  · exact s.repeatLast?_under base 0 none t
  · exact s.repeatLast?_under base 1 none t
  · exact s.readBounded?_under base t
  · exact absurd rfl backslash
  · show (dotSet? s.flags).map _ = ((dotSet? s.flags).map _).map _
    cases dotSet? s.flags <;> rfl
  · rfl
  · rfl
  · rfl

end State

end Reader

end Criteria
