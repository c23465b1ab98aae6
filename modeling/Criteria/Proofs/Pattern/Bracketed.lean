import Criteria.Pattern.Bracketed
import Criteria.Proofs.Pattern.Lexical

/-!
# What the readers of bracketed sets do before a closing parenthesis

A bracketed set is read by moves: each takes one item, operator or bracket and
changes the stack of open brackets. `readMove?` reads a move without the stack.
It is local, and so is the whole reader, `Bracketed.read?`.
-/

namespace Criteria

namespace Bracketed

open Lexical

/-! ## Named sets -/

/-- No set has a name with a parenthesis in it. -/
theorem bracketName?_closing {name : Text} (closing : ')' ∈ name) :
    Property.bracketName? (String.ofList name) = none := by
  unfold Property.bracketName?
  split
  all_goals first
    | rfl
    | next h =>
      have list := congrArg String.toList h
      rw [String.toList_ofList] at list
      rw [list] at closing
      revert closing
      decide

/-- Reads the name of a set up to the mark that ends it. -/
def readNamed? (negated : Bool) (t : Text) : Option ((Bool × CharSet) × Text) :=
  (Text.cut? ":]".toList t).bind fun p =>
    (Property.bracketName? (String.ofList p.1)).bind fun s => some ((negated, s), p.2)

/-- `readName?` with what it reads apart from what it leaves. -/
def nameOf? : Text → Option ((Bool × CharSet) × Text) :=
  whenOpens ':' (whenOpens '^' (readNamed? true) (readNamed? false)) fun _ => none

theorem readName?_caret (t : Text) :
    readName? (':' :: '^' :: t) = (readNamed? true t).map fun p => (p.1.1, p.1.2, p.2) := by
  rcases named : Text.cut? [':', ']'] t with _ | ⟨name, rest⟩
  · simp [readName?, readNamed?, named]
  · cases found : Property.bracketName? (String.ofList name) <;>
      simp [readName?, readNamed?, named, found]

theorem readName?_plain {d : Char} (caret : d ≠ '^') (t : Text) :
    readName? (':' :: d :: t) = (readNamed? false (d :: t)).map fun p => (p.1.1, p.1.2, p.2) := by
  rcases named : Text.cut? [':', ']'] (d :: t) with _ | ⟨name, rest⟩
  · simp [readName?, readNamed?, caret, named]
  · cases found : Property.bracketName? (String.ofList name) <;>
      simp [readName?, readNamed?, caret, named, found]

theorem readName?_eq (t : Text) :
    readName? t = (nameOf? t).map fun p => (p.1.1, p.1.2, p.2) := by
  cases t with
  | nil => rfl
  | cons c t =>
    by_cases colon : c = ':'
    · subst colon
      cases t with
      | nil => rfl
      | cons d t =>
        by_cases caret : d = '^'
        · subst caret
          exact readName?_caret t
        · simp only [nameOf?, whenPasses, beq_self_eq_true, if_true, beq_iff_eq, caret, if_false]
          exact readName?_plain caret t
    · simp [readName?, nameOf?, whenPasses, colon]

theorem cut?_bracketMark_local : Local (Text.cut? ":]".toList) :=
  cut?_local (by decide) (by decide)

theorem nameOf?_local : Local nameOf? := by
  have named : ∀ negated, Local (readNamed? negated) := fun negated =>
    cut?_bracketMark_local.bind fun name =>
      .ifSome (Property.bracketName? (String.ofList name)) fun s => .pure (negated, s)
  exact .whenPasses (by decide)
    (fun _ => .whenPasses (by decide) (fun _ => named true) (named false)) .none

/-- Added text makes no name of what is none alone: the parenthesis would be in the name. -/
theorem readNamed?_steady (negated : Bool) : Steady (readNamed? negated) := by
  intro u
  unfold readNamed?
  cases cut?_bracketMark_local.extend u with
  | @agree name r alone same =>
    simp only [alone, same, Option.bind_some]
    cases Property.bracketName? (String.ofList name) with
    | none => exact .inr ⟨rfl, fun _ => rfl⟩
    | some s => exact .inl ⟨(negated, s), r, rfl, fun _ => rfl⟩
  | @comment name alone line _ =>
    -- the mark is found before the parenthesis, which is not skipped
    have short := cut?_eq_some alone
    have long := cut?_eq_some (line [] (by simp))
    rw [← short] at long
    simp at long
  | fail alone within =>
    refine .inr ⟨by rw [alone]; rfl, fun v => ?_⟩
    cases cut : Text.cut? ":]".toList (u ++ ')' :: v) with
    | none => rfl
    | some p =>
      obtain ⟨name, r⟩ := p
      obtain ⟨x, hx⟩ := within v name r cut
      have text := cut?_eq_some cut
      have closing : ')' ∈ name := by
        have front : (u ++ ')' :: x) ++ r = (name ++ ":]".toList) ++ r := by
          simp [hx, text]
        have mem : ')' ∈ name ++ ":]".toList := by
          rw [← List.append_cancel_right front]
          simp
        rcases List.mem_append.mp mem with h | h
        · exact h
        · exact absurd h (by decide)
      simp [bracketName?_closing closing]

theorem nameOf?_steady : Steady nameOf? :=
  .whenPasses (by decide)
    (fun _ => .whenPasses (by decide) (fun _ => readNamed?_steady true) (readNamed?_steady false))
    .none

/-! ## Opening brackets -/

/-- The bracket that hyphens open. -/
def startWith (negated : Bool) (hyphens : Text) : Frame :=
  hyphens.foldl (fun frame c => frame.add ⟨.single c, 0⟩) (Frame.start negated)

/-- Reads a closing bracket that stands for itself. -/
def opened (spaced : Bool) (negated : Bool) (hyphens : Text) : Text → Option (Frame × Text) :=
  whenPasses (fun c => hyphens.isEmpty && c == ']')
    (fun c t => some ((startWith negated hyphens).add ⟨.single c, 0⟩, skip spaced t))
    fun t => some (startWith negated hyphens, t)

/-- Reads a caret. -/
def negation (spaced : Bool) : Text → Bool × Text
  | '^' :: rest => (true, skip spaced rest)
  | t => (false, t)

theorem negation_eq (spaced : Bool) :
    (fun t => some (negation spaced t)) =
      whenOpens '^' (fun t => some (true, skip spaced t)) fun t => some (false, t) := by
  funext t
  cases t with
  | nil => rfl
  | cons c t =>
    by_cases caret : c = '^'
    · subst caret
      rfl
    · simp [negation, whenPasses, caret]

/-- Reads what may follow an opening bracket, even if nothing follows that. -/
def opening? (spaced : Bool) (t : Text) : Option (Frame × Text) :=
  (some (negation spaced (skip spaced t))).bind fun p =>
    (some (takeAll spaced (· == '-') p.2)).bind fun q => opened spaced p.1 q.1 q.2

theorem opening?_local (spaced : Bool) : Local (opening? spaced) := by
  have caret : Local fun t => some (negation spaced t) := by
    rw [negation_eq]
    exact .whenPasses (by decide) (fun _ => (Local.pure true).afterSkip spaced) (.pure false)
  refine (caret.afterSkip spaced).bind (g := fun negated t =>
    (some (takeAll spaced (· == '-') t)).bind fun q => opened spaced negated q.1 q.2)
    fun negated => ?_
  refine (takeAll_local spaced (by decide)).bind fun hyphens => ?_
  exact .whenPasses (by simp) (fun c => (Local.pure _).afterSkip spaced) (.pure _)

/-- What may follow hyphens, if anything does. -/
def readOpened? (spaced : Bool) (negated : Bool) (hyphens : Text) : Text → Option (Frame × Text)
  | [] => none
  | c :: rest =>
      if hyphens.isEmpty && c == ']' then
        match skip spaced rest with
        | [] => none
        | rest => some ((startWith negated hyphens).add ⟨.single c, 0⟩, rest)
      else some (startWith negated hyphens, c :: rest)

theorem readOpening?_eq (spaced : Bool) (t : Text) :
    readOpening? spaced t =
      (some (negation spaced (skip spaced t))).bind fun p =>
        (some (takeAll spaced (· == '-') p.2)).bind fun q => readOpened? spaced p.1 q.1 q.2 :=
  rfl

/-- If nothing follows an opening bracket, there is nothing to go on with. -/
theorem readOpening?_bind {β : Type} {k : Frame → Text → Option β} (stop : ∀ frame, k frame [] = none)
    (spaced : Bool) (t : Text) :
    ((readOpening? spaced t).bind fun p => k p.1 p.2) =
      (opening? spaced t).bind fun p => k p.1 p.2 := by
  rw [readOpening?_eq, opening?]
  simp only [Option.bind_some]
  generalize (negation spaced (skip spaced t)).1 = negated
  generalize takeAll spaced (· == '-') (negation spaced (skip spaced t)).2 = q
  obtain ⟨hyphens, t⟩ := q
  cases t with
  | nil => exact (stop _).symm
  | cons c t =>
    simp only [readOpened?, opened, whenPasses]
    split
    · cases skip spaced t with
      | nil => exact (stop _).symm
      | cons d t => rfl
    · rfl

/-! ## Items and ranges -/

/-- What an escape is in brackets. No position is. -/
def escapeItem? (f : Flags) : Escape → Option Item
  | .char c _ => charItem? f c
  | .set s => some (.set s)
  | .anchor _ => none

theorem readItem?_backslash (f : Flags) (t : Text) :
    readItem? f ('\\' :: t) =
      (readEscape? f t).bind fun p => (escapeItem? f p.1).map fun item => (item, p.2) := by
  simp only [readItem?]
  rcases readEscape? f t with _ | ⟨escape, rest⟩
  · rfl
  · cases escape <;> rfl

theorem readItem?_other (f : Flags) {c : Char} (other : c ≠ '\\') (t : Text) :
    readItem? f (c :: t) = (charItem? f c).map fun item => (item, t) := by
  simp [readItem?]

theorem readItem?_cons_local (f : Flags) (c : Char) : Local fun t => readItem? f (c :: t) := by
  by_cases backslash : c = '\\'
  · subst backslash
    simp only [readItem?_backslash]
    refine ⟨fun u => ?_, fun u => ?_⟩
    · exact (readEscape?_shrinks f u).bind fun escape => (Local.value (escapeItem? f escape)).shrinks
    · by_cases undecided : ∃ body, u = 'b' :: '\x7b' :: body ∧ skip f.spaced body = []
      · -- what is read with the added text is a position at most
        obtain ⟨body, rfl, nil⟩ := undecided
        obtain ⟨alone, added⟩ := readEscape?_undecided f nil
        refine .fail (by rw [alone]; rfl) fun v => ?_
        simp only [List.cons_append]
        rcases added v with within | boundary
        · exact within.bind fun escape => (Local.value (escapeItem? f escape)).shrinks
        · rw [boundary]
          exact .none
      · have decided : ∀ body, u = 'b' :: '\x7b' :: body → skip f.spaced body ≠ [] :=
          fun body h nil => undecided ⟨body, h, nil⟩
        exact (readEscape?_extend f decided).bind
          (fun escape => (Local.value (escapeItem? f escape)).shrinks)
          fun escape r _ => (Local.value (escapeItem? f escape)).extend r
  · simp only [readItem?_other f backslash]
    exact .value (charItem? f c)

theorem readItem?_local (f : Flags) : Local (readItem? f) :=
  .of_cons rfl (readItem?_cons_local f)

/-- Whether a hyphen opens a range. -/
def opensRange (spaced : Bool) : Text → Bool
  | '-' :: rest => !(peek spaced rest == some ']' || peek spaced rest == some '-')
  | _ => false

theorem peek_closing (spaced : Bool) (u v : Text) {c : Char} (firm : Text.isBlank c = false)
    (parenthesis : c ≠ ')') (hash : c ≠ '#') :
    peek spaced (u ++ ')' :: v) = some c ↔ peek spaced u = some c := by
  cases spaced with
  | false =>
    cases u with
    | nil => simp [peek, Ne.symm parenthesis]
    | cons d u => rfl
  | true =>
    have first : Text.trimStart u = [] → u.head? ≠ some c := by
      intro blank h
      have := Text.allBlank_of_trimStart_eq_nil blank c (List.mem_of_head? h)
      rw [firm] at this
      cases this
    simp only [peek, trimStart_closing]
    cases h : Text.trimStart u with
    | nil => simp [Ne.symm parenthesis, first h]
    | cons d w =>
      by_cases comment : d = '#'
      · subst comment
        have head : u.head? ≠ some c := by
          intro hu
          obtain ⟨u', rfl⟩ := List.head?_eq_some_iff.mp hu
          rw [Text.trimStart_cons_firm firm] at h
          cases h
          exact hash rfl
        simp only [List.cons_append, trimStart_closing]
        cases Text.trimStart w with
        | nil => simp [Ne.symm parenthesis, head]
        | cons e w => simp
      · simp

theorem opensRange_closing (spaced : Bool) (u v : Text) :
    opensRange spaced (u ++ ')' :: v) = opensRange spaced u := by
  cases u with
  | nil => rfl
  | cons c u =>
    by_cases hyphen : c = '-'
    · subst hyphen
      have bracket := peek_closing spaced u v (c := ']') (by decide) (by decide) (by decide)
      have other := peek_closing spaced u v (c := '-') (by decide) (by decide) (by decide)
      rw [List.cons_append, Bool.eq_iff_iff]
      simp [opensRange, bracket, other]
    · simp [opensRange, hyphen]

/-- The range between two items. -/
def range? : Item → Item → Option CharSet
  | .char a, .char b => if a ≤ b then some (.ofCodes a.toNat b.toNat) else none
  | _, _ => none

/-- Reads the end of a range after its hyphen. -/
def readLast? (f : Flags) (first : Item) (t : Text) : Option (CharSet × Text) :=
  (readItem? f (skip f.spaced t)).bind fun p => (range? first p.1).map fun s => (s, p.2)

theorem readLast?_local (f : Flags) (first : Item) : Local (readLast? f first) :=
  ((readItem?_local f).afterSkip f.spaced).bind fun last => .value (range? first last)

/-- Reads an item or a range, even if nothing follows it. -/
def readMember? (f : Flags) (t : Text) : Option (CharSet × Text) :=
  (readItem? f t).bind fun p =>
    let rest := skip f.spaced p.2
    if opensRange f.spaced rest then whenOpens '-' (readLast? f p.1) (fun _ => none) rest
    else some (p.1.toSet, rest)

theorem readMember?_cons_local (f : Flags) (c : Char) : Local fun t => readMember? f (c :: t) := by
  refine (readItem?_cons_local f c).bind (g := fun first t =>
    (fun rest => if opensRange f.spaced rest then whenOpens '-' (readLast? f first) (fun _ => none) rest
      else some (first.toSet, rest)) (skip f.spaced t)) fun first => ?_
  refine Local.afterSkip (.ite (opensRange_closing f.spaced) ?_ (.pure first.toSet)) f.spaced
  exact .whenPasses (by decide) (fun _ => readLast?_local f first) .none

/-- If nothing follows an item, there is nothing to go on with. -/
theorem readRange?_bind {β : Type} {k : CharSet → Text → Option β} (stop : ∀ s, k s [] = none)
    (f : Flags) (t : Text) :
    ((readRange? f t).bind fun p => k p.1 p.2) = (readMember? f t).bind fun p => k p.1 p.2 := by
  unfold readRange? readMember?
  rcases readItem? f t with _ | ⟨first, rest⟩
  · rfl
  · simp only [Option.bind_eq_bind, Option.bind_some]
    cases skip f.spaced rest with
    | nil => exact (stop _).symm
    | cons c rest =>
      by_cases hyphen : c = '-'
      · subst hyphen
        -- before a bracket or another hyphen the hyphen opens no range
        by_cases stands : peek f.spaced rest = some ']' ∨ peek f.spaced rest = some '-'
        · have closed : opensRange f.spaced ('-' :: rest) = false := by
            have all : ¬ peek f.spaced rest = some ']' → peek f.spaced rest = some '-' :=
              fun h => stands.resolve_left h
            simpa [opensRange] using all
          simp [stands, closed]
        · have opens : opensRange f.spaced ('-' :: rest) = true := by
            simpa [opensRange] using stands
          simp only [if_neg stands, opens, if_true, whenPasses, beq_self_eq_true, readLast?]
          rcases readItem? f (skip f.spaced rest) with _ | ⟨last, rest⟩
          · rfl
          · cases first <;> cases last <;> simp [range?]
      · have closed : opensRange f.spaced (c :: rest) = false := by
          simp [opensRange, hyphen]
        simp [closed, hyphen]

/-! ## Moves -/

/-- What is read next between brackets. -/
inductive Move where
  | add (part : Part)
  | nest (inner : Frame)
  | close
  | operate (operator : Operator)

/-- Reads what an opening bracket between brackets begins: the name of a set or an inner
bracket. -/
def readInner? (f : Flags) (t : Text) : Option (Move × Text) :=
  match nameOf? t with
  | some (named, rest) =>
      (f.settle? named.1 named.2).bind fun s => some (.add ⟨s, 0⟩, rest)
  | none => (opening? f.spaced t).map fun p => (.nest p.1, p.2)

theorem readInner?_local (f : Flags) : Local (readInner? f) where
  shrinks u := by
    have named := nameOf?_local.shrinks u
    unfold readInner?
    cases found : nameOf? u with
    | none => exact ((opening?_local f.spaced).shrinks u).map (f := Move.nest)
    | some p =>
      obtain ⟨⟨negated, s⟩, rest⟩ := p
      have next : Local fun t => (f.settle? negated s).bind fun s => some (Move.add ⟨s, 0⟩, t) :=
        .ifSome _ fun s => .pure (Move.add ⟨s, 0⟩)
      exact (next.shrinks rest).mono (named _ _ found)
  extend u := by
    unfold readInner?
    -- whether there is a name is settled without what is added
    rcases nameOf?_steady u with ⟨⟨negated, s⟩, r, alone, same⟩ | ⟨alone, added⟩
    · simp only [alone, same]
      exact (Local.ifSome (f.settle? negated s) fun s => .pure (Move.add ⟨s, 0⟩)).extend r
    · simp only [alone, added]
      exact ((opening?_local f.spaced).extend u).map Move.nest

/-- The operators are written with two of their character. -/
def operatorOf? : Char → Option Operator
  | '&' => some .inter
  | '-' => some .diff
  | '~' => some .symmDiff
  | _ => none

/-- Reads an item or a range as a move. -/
def readAdd? (f : Flags) (t : Text) : Option (Move × Text) :=
  (readMember? f t).map fun p => (.add ⟨p.1, 0⟩, p.2)

def readMove? (f : Flags) : Text → Option (Move × Text)
  | [] => none
  | c :: t =>
      if c = '[' then readInner? f t
      else if c = ']' then some (.close, t)
      else
        match operatorOf? c with
        | some operator =>
            whenOpens c (fun t => some (.operate operator, t)) (fun t => readAdd? f (c :: t)) t
        | none => readAdd? f (c :: t)

theorem readMove?_cons_local (f : Flags) (c : Char) : Local fun t => readMove? f (c :: t) := by
  have add : Local fun t => readAdd? f (c :: t) :=
    (readMember?_cons_local f c).map fun s => Move.add ⟨s, 0⟩
  simp only [readMove?]
  split
  · exact readInner?_local f
  split
  · exact .pure Move.close
  split
  · next operator found =>
    have stops : (')' == c) = false := by
      rw [beq_eq_false_iff_ne]
      rintro rfl
      cases found
    exact .whenPasses stops (fun _ => .pure (Move.operate operator)) add
  · exact add

/-- Goes on after a move. -/
def follow? (f : Flags) (frame : Frame) (outer : List Frame) (n : Nat) :
    Move → Text → Option (Part × Text)
  | .add part, t => readFrames? f (frame.add part) outer n t
  | .nest inner, t => readFrames? f inner (frame :: outer) n t
  | .operate operator, t => readFrames? f (frame.operate f operator) outer n t
  | .close, t =>
      match frame.close? f, outer with
      | none, _ => none
      | some part, [] => some (part, t)
      | some part, parent :: outer => readFrames? f (parent.add part) outer n t

theorem readFrames?_nil (f : Flags) (frame : Frame) (outer : List Frame) (n : Nat) :
    readFrames? f frame outer n [] = none := by
  cases n with
  | zero => rfl
  | succ n => simp [readFrames?, skip_nil]

theorem readAdd?_bind (f : Flags) (frame : Frame) (outer : List Frame) (n : Nat) (t : Text) :
    (match readRange? f t with
      | some (s, rest) => readFrames? f (frame.add ⟨s, 0⟩) outer n rest
      | none => none) =
      (readAdd? f t).bind fun p => follow? f frame outer n p.1 p.2 := by
  have same := readRange?_bind (k := fun s t => readFrames? f (frame.add ⟨s, 0⟩) outer n t)
    (fun s => readFrames?_nil f _ outer n) f t
  unfold readAdd?
  rw [Option.bind_map]
  refine Eq.trans ?_ same
  cases readRange? f t <;> rfl

theorem readInner?_bind (f : Flags) (frame : Frame) (outer : List Frame) (n : Nat) (t : Text) :
    (match readName? t with
      | some (negated, s, rest) =>
          match f.settle? negated s with
          | some s => readFrames? f (frame.add ⟨s, 0⟩) outer n rest
          | none => none
      | none =>
          match readOpening? f.spaced t with
          | some (inner, rest) => readFrames? f inner (frame :: outer) n rest
          | none => none) =
      (readInner? f t).bind fun p => follow? f frame outer n p.1 p.2 := by
  unfold readInner?
  rw [readName?_eq]
  rcases nameOf? t with _ | ⟨⟨negated, s⟩, rest⟩
  · have same := readOpening?_bind (k := fun inner t => readFrames? f inner (frame :: outer) n t)
      (fun inner => readFrames?_nil f inner _ n) f.spaced t
    simp only [Option.map_none, Option.bind_map]
    refine Eq.trans ?_ same
    cases readOpening? f.spaced t <;> rfl
  · cases found : f.settle? negated s <;> simp [found, follow?]

/-- A round reads a move and follows it. -/
theorem readFrames?_succ (f : Flags) (frame : Frame) (outer : List Frame) (n : Nat) (t : Text) :
    readFrames? f frame outer (n + 1) t =
      (readMove? f (skip f.spaced t)).bind fun p => follow? f frame outer n p.1 p.2 := by
  rw [readFrames?]
  have add := readAdd?_bind f frame outer n
  cases skip f.spaced t with
  | nil => rfl
  | cons c t =>
    by_cases inner : c = '['
    · subst inner
      exact readInner?_bind f frame outer n t
    by_cases close : c = ']'
    · subst close
      rfl
    by_cases double : c = '&' ∨ c = '-' ∨ c = '~'
    · cases t with
      | nil =>
        rcases double with rfl | rfl | rfl
        all_goals exact add _
      | cons d t =>
        by_cases same : d = c
        · subst same
          rcases double with rfl | rfl | rfl
          all_goals rfl
        · rcases double with rfl | rfl | rfl
          all_goals
            simp [readMove?, operatorOf?, whenPasses, same]
            exact add _
    · simp only [not_or] at double
      have single : operatorOf? c = none := by
        simp [operatorOf?, double]
      simp [readMove?, inner, close, single, double]
      exact add (c :: t)

/-! ## The reader -/

theorem readMove?_local (f : Flags) : Local (readMove? f) := .of_cons rfl (readMove?_cons_local f)

theorem readMove?_shorter {f : Flags} {t r : Text} {move : Move}
    (h : readMove? f t = some (move, r)) : r.length < t.length := by
  cases t with
  | nil => cases h
  | cons c t => exact Nat.lt_succ_of_le ((readMove?_cons_local f c).shrinks t move r h).length_le

theorem readFrames?_local (f : Flags) (n : Nat) (frame : Frame) (outer : List Frame) :
    Local (readFrames? f frame outer n) := by
  induction n generalizing frame outer with
  | zero => exact .none
  | succ n ih =>
    rw [funext (readFrames?_succ f frame outer n)]
    refine ((readMove?_local f).afterSkip f.spaced).bind fun move => ?_
    cases move with
    | add part => exact ih _ _
    | nest inner => exact ih _ _
    | operate operator => exact ih _ _
    | close =>
      unfold follow?
      cases frame.close? f with
      | none => exact .none
      | some part =>
        cases outer with
        | nil => exact .pure part
        | cons parent outer => exact ih _ _

/-- More rounds than there are characters are never used up. -/
theorem readFrames?_enough (f : Flags) {n m : Nat} {t : Text} (hn : t.length < n)
    (hm : t.length < m) (frame : Frame) (outer : List Frame) :
    readFrames? f frame outer n t = readFrames? f frame outer m t := by
  induction n generalizing m t frame outer with
  | zero => omega
  | succ n ih =>
    cases m with
    | zero => omega
    | succ m =>
      rw [readFrames?_succ, readFrames?_succ]
      cases h : readMove? f (skip f.spaced t) with
      | none => rfl
      | some p =>
        obtain ⟨move, r⟩ := p
        have shorter := readMove?_shorter h
        have le := skip_length_le f.spaced t
        have same := fun frame outer => ih (by omega) (by omega : r.length < m) frame outer
        cases move with
        | add part => exact same _ _
        | nest inner => exact same _ _
        | operate operator => exact same _ _
        | close =>
          simp only [Option.bind_some, follow?, same]

theorem read?_local (f : Flags) : Local (read? f) := by
  have frames : ∀ frame, Local fun t => readFrames? f frame [] (t.length + 1) t := fun frame =>
    .of_rounds (fun n => readFrames?_local f n frame []) fun n t enough =>
      readFrames?_enough f enough (Nat.lt_succ_self _) frame []
  have opened := (opening?_local f.spaced).bind frames
  have same : ∀ t, read? f t = (opening? f.spaced t).bind fun p =>
      readFrames? f p.1 [] (p.2.length + 1) p.2 :=
    readOpening?_bind (k := fun frame t => readFrames? f frame [] (t.length + 1) t)
      (fun frame => readFrames?_nil f frame [] _) f.spaced
  rw [funext same]
  exact opened

end Bracketed

end Criteria
