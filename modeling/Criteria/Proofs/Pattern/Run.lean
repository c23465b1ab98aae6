import Criteria.Proofs.Pattern.Reader

/-!
# Runs before a closing parenthesis

A pattern is put into a group as it is written: a closing parenthesis follows it.
A run over a text either comes to the end of the text, or fails. This module says
what the run over the same text does when a parenthesis and more follow.

* It comes to the parenthesis in the same state (`Leads` to the end).
* A comment is open at the end of the text, so the parenthesis is not seen
  (`Hides`).
* The text closes the group itself, at a parenthesis of its own (`ClosesEarly`).
* It fails, or takes the parenthesis as part of something else (`Refuses`).

`run_outcome` says that one of these is the case. The groups that are open before
the text do not matter to it.
-/

namespace Criteria

namespace Reader

namespace State

open Lexical

/-- Reads parts to the end of the text. -/
def readAll? (s : State) (t : Text) : Option State := s.run? (t.length + 1) t

theorem run?_enough {n m : Nat} {t : Text} (hn : t.length < n) (hm : t.length < m) (s : State) :
    s.run? n t = s.run? m t := by
  induction n generalizing m t s with
  | zero => omega
  | succ n ih =>
    cases m with
    | zero => omega
    | succ m =>
      have fits := skip_length_le s.flags.spaced t
      unfold run?
      cases h : skip s.flags.spaced t with
      | nil => rfl
      | cons c rest =>
        cases read : s.step? c rest with
        | none => simp only [read]
        | some p =>
          obtain ⟨s', r⟩ := p
          have shorter := (s.step?_shrinks c rest s' r read).length_le
          rw [h, List.length_cons] at fits
          simp only [read]
          exact ih (by omega) (by omega) s'

/-- The run from the next character that counts. -/
theorem readAll?_eq (s : State) (t : Text) :
    s.readAll? t =
      match skip s.flags.spaced t with
      | [] => some s
      | c :: rest => (s.step? c rest).bind fun p => p.1.readAll? p.2 := by
  have fits := skip_length_le s.flags.spaced t
  unfold readAll?
  rw [run?]
  cases h : skip s.flags.spaced t with
  | nil => rfl
  | cons c rest =>
    simp only
    cases read : s.step? c rest with
    | none => rfl
    | some p =>
      obtain ⟨s', r⟩ := p
      have shorter := (s.step?_shrinks c rest s' r read).length_le
      rw [h, List.length_cons] at fits
      exact run?_enough (by omega) (Nat.lt_succ_self _) s'

theorem readAll?_end {s : State} {t : Text} (h : skip s.flags.spaced t = []) :
    s.readAll? t = some s := by
  rw [readAll?_eq, h]

theorem readAll?_step {s : State} {t rest : Text} {c : Char}
    (h : skip s.flags.spaced t = c :: rest) :
    s.readAll? t = (s.step? c rest).bind fun p => p.1.readAll? p.2 := by
  rw [readAll?_eq, h]

theorem readAll?_nil (s : State) : s.readAll? [] = some s := readAll?_end (skip_nil _)

theorem readAll?_brace (s : State) (body : Text) :
    s.readAll? ('\x7b' :: body) = (s.readBounded? body).bind fun p => p.1.readAll? p.2 := by
  have found : skip s.flags.spaced ('\x7b' :: body) = '\x7b' :: body := by
    cases s.flags.spaced <;> rfl
  exact readAll?_step found

theorem skip_closing_eq (spaced : Bool) (v : Text) : skip spaced (')' :: v) = ')' :: v := by
  cases spaced <;> rfl

/-- The run goes from one text to an end of it, whatever follows behind a closing
parenthesis. -/
structure Leads (s : State) (u : Text) (s' : State) (r : Text) : Prop where
  alone : s.readAll? u = s'.readAll? r
  added : ∀ base v, (s.under base).readAll? (u ++ ')' :: v) = (s'.under base).readAll? (r ++ ')' :: v)

theorem Leads.trans {s₁ s₂ s₃ : State} {u₁ u₂ u₃ : Text} (h : Leads s₁ u₁ s₂ u₂)
    (h' : Leads s₂ u₂ s₃ u₃) : Leads s₁ u₁ s₃ u₃ :=
  ⟨h.alone.trans h'.alone, fun base v => (h.added base v).trans (h'.added base v)⟩

/-- The run comes to the end, and a comment is open there. -/
structure Hides (s : State) (u : Text) (s' : State) : Prop where
  alone : s.readAll? u = some s'
  line : ∀ base v, '\n' ∉ v → (s.under base).readAll? (u ++ ')' :: v) = some (s'.under base)

/-- A parenthesis of the text closes a group that was open before. -/
def ClosesEarly (s : State) (u : Text) : Prop :=
  ∃ a b s', u = a ++ ')' :: b ∧ Leads s a s' [] ∧ s'.frames = []

/-- The run fails for want of text, or of sense. What it does with more text takes the
parenthesis along. -/
structure Refuses (s : State) (u : Text) : Prop where
  alone : s.readAll? u = none
  added : ∀ base v, (s.under base).readAll? (u ++ ')' :: v) = none ∨
    ∃ (s' : State) (w : Text), w <:+ v ∧ (s.under base).readAll? (u ++ ')' :: v) = (s'.under base).readAll? w

inductive Outcome (s : State) (u : Text) : Prop
  | finishes {s' : State} : Leads s u s' [] → Outcome s u
  | hides {s' : State} : Hides s u s' → Outcome s u
  | closes : ClosesEarly s u → Outcome s u
  | refuses : Refuses s u → Outcome s u

/-! ## One part -/

section

variable {s s' : State} {u r : Text} {c : Char}

theorem leads_end (same : ∀ v, skip s.flags.spaced (u ++ ')' :: v) = skip s.flags.spaced u ++ ')' :: v)
    (nothing : skip s.flags.spaced u = []) : Leads s u s [] where
  alone := (readAll?_end nothing).trans (readAll?_nil s).symm
  added base v := by
    rw [readAll?_eq, readAll?_eq]
    show (match skip s.flags.spaced (u ++ ')' :: v) with | [] => _ | c :: rest => _) =
      (match skip s.flags.spaced ([] ++ ')' :: v) with | [] => _ | c :: rest => _)
    rw [same v, nothing, List.nil_append, skip_closing_eq]

/-- The run with added text, if something counts before it. -/
theorem readAll?_added {rest : Text} (found : skip s.flags.spaced u = c :: rest)
    (inside : c = ')' → s.frames ≠ []) (base : List Frame) (v : Text) :
    (s.under base).readAll? (u ++ ')' :: v) =
      (s.step? c (rest ++ ')' :: v)).bind fun p => (p.1.under base).readAll? p.2 := by
  have later : skip (s.under base).flags.spaced (u ++ ')' :: v) = c :: (rest ++ ')' :: v) := by
    show skip s.flags.spaced (u ++ ')' :: v) = _
    rw [skip_append (by rw [found]; exact List.cons_ne_nil _ _), found]
    rfl
  rw [readAll?_step later, step?_under s base inside, Option.bind_map]
  rfl

/-- A part that is read the same with added text. -/
theorem leads_step {rest : Text} (found : skip s.flags.spaced u = c :: rest)
    (inside : c = ')' → s.frames ≠ []) (read : s.step? c rest = some (s', r))
    (same : ∀ v, s.step? c (rest ++ ')' :: v) = some (s', r ++ ')' :: v)) : Leads s u s' r where
  alone := by
    rw [readAll?_step found, read]
    rfl
  added base v := by
    rw [readAll?_added found inside, same v]
    rfl

/-- A part that leaves the parenthesis and what follows is read the same without them, if the
run then comes to an end. -/
theorem leads_of_closing {v rest : Text} (found : skip s.flags.spaced (u ++ ')' :: v) = c :: rest)
    (inside : c = ')' → s.frames ≠ []) (read : s.step? c rest = some (s', r ++ ')' :: v))
    (alive : s'.readAll? r ≠ none) : Leads s u s' r := by
  have within : ¬ ∃ w, c :: rest = ')' :: w ∧ w <:+ v := by
    rintro ⟨w, h, suffix⟩
    cases h
    have := (s.step?_shrinks _ _ _ _ read).trans suffix
    exact not_closing_suffix r v this
  rcases skip_closing s.flags.spaced u with same | ⟨_, _, suffix⟩
  · rw [same v] at found
    cases hu : skip s.flags.spaced u with
    | nil =>
      rw [hu] at found
      exact absurd ⟨v, found.symm, List.suffix_refl v⟩ within
    | cons d rest' =>
      rw [hu, List.cons_append] at found
      obtain ⟨rfl, rfl⟩ := List.cons.inj found
      by_cases undecided : s.Undecided d rest'
      · rcases (step?_undecided s undecided).2 v with within | ⟨s'', body, brace, _, unbounded⟩
        · exact absurd (within _ _ read) (not_closing_suffix r v)
        · -- the brace is left behind, and the run does not come to an end
          rw [brace] at read
          obtain ⟨rfl, left⟩ := Prod.mk.inj (Option.some.inj read)
          have cut : '\x7b' :: body = r :=
            List.append_cancel_right (show '\x7b' :: body ++ ')' :: v = r ++ ')' :: v from left)
          rw [← cut, readAll?_brace, unbounded] at alive
          exact absurd rfl alive
      · obtain ⟨alone, same⟩ := (step?_extend s undecided).of_closing read
        exact leads_step hu inside alone same
  · have long := (s.step?_shrinks _ _ _ _ read).trans (List.suffix_cons c rest)
    rw [← found] at long
    exact absurd (long.trans (suffix v)) (not_closing_suffix r v)

/-- A part whose outcome takes the parenthesis along refuses. -/
theorem refuses_step {rest : Text} (found : skip s.flags.spaced u = c :: rest)
    (inside : c = ')' → s.frames ≠ []) (alone : s.step? c rest = none)
    (added : ∀ v, Within v (s.step? c (rest ++ ')' :: v))) : Refuses s u where
  alone := by
    rw [readAll?_step found, alone]
    rfl
  added base v := by
    rw [readAll?_added found inside]
    cases read : s.step? c (rest ++ ')' :: v) with
    | none => exact .inl rfl
    | some p => exact .inr ⟨p.1, p.2, added v _ _ read, rfl⟩

/-- So does a part that is undecided: a brace that it leaves behind opens bounds, if anything. -/
theorem refuses_undecided {rest : Text} (found : skip s.flags.spaced u = c :: rest)
    (undecided : s.Undecided c rest) : Refuses s u where
  alone := by
    rw [readAll?_step found, (step?_undecided s undecided).1]
    rfl
  added base v := by
    have inside : c = ')' → s.frames ≠ [] := by
      rintro rfl
      cases undecided.1
    rw [readAll?_added found inside]
    rcases (step?_undecided s undecided).2 v with within | ⟨s', body, brace, _, unbounded⟩
    · cases read : s.step? c (rest ++ ')' :: v) with
      | none => exact .inl rfl
      | some p => exact .inr ⟨p.1, p.2, within _ _ read, rfl⟩
    · have within := (s'.readBounded?_local.extend body).within unbounded v
      rw [brace]
      show (s'.under base).readAll? _ = none ∨ ∃ s'' w, w <:+ v ∧ (s'.under base).readAll? _ = _
      rw [readAll?_brace, readBounded?_under]
      cases read : s'.readBounded? (body ++ ')' :: v) with
      | none => exact .inl rfl
      | some p => exact .inr ⟨p.1, p.2, within _ _ read, rfl⟩

end

/-! ## The run -/

/-- A parenthesis with no group open closes one that was open before. -/
theorem closesEarly_here {s : State} {u rest : Text} (found : skip s.flags.spaced u = ')' :: rest)
    (closed : s.frames = []) : ClosesEarly s u := by
  obtain ⟨pre, hpre⟩ := skip_suffix s.flags.spaced u
  rw [found] at hpre
  rcases skip_closing s.flags.spaced pre with same | ⟨_, _, suffix⟩
  · have here := same rest
    rw [hpre, found] at here
    have nothing : skip s.flags.spaced pre = [] :=
      (List.append_cancel_right (show [] ++ ')' :: rest = _ from here)).symm
    exact ⟨pre, rest, s, hpre.symm, leads_end same nothing, closed⟩
  · have long := suffix rest
    rw [hpre, found] at long
    exact absurd long (not_closing_suffix [] rest)

/-- The outcome of a run is known from any state that it leads to. -/
theorem Leads.outcome {s s' : State} {u r : Text} {c : Char} {rest : Text}
    (h : Leads s u s' r) (found : skip s.flags.spaced u = c :: rest)
    (inside : c = ')' → s.frames ≠ []) (read : s.step? c rest = some (s', r))
    (later : Outcome s' r) : Outcome s u := by
  cases later with
  | finishes h' => exact .finishes (h.trans h')
  | hides h' =>
    exact .hides ⟨h.alone.trans h'.alone, fun base v free => (h.added base v).trans (h'.line base v free)⟩
  | refuses h' =>
    refine .refuses ⟨h.alone.trans h'.alone, fun base v => ?_⟩
    rw [h.added base v]
    exact h'.added base v
  | closes h' =>
    obtain ⟨a, b, s'', rfl, h', closed⟩ := h'
    -- what was read before leads there without the parenthesis, too
    obtain ⟨mid, hmid⟩ := s.step?_shrinks c rest _ _ read
    obtain ⟨pre, hpre⟩ := skip_suffix s.flags.spaced u
    have text : u = (pre ++ c :: (mid ++ a)) ++ ')' :: b := by
      rw [← hpre, found, ← hmid]
      simp
    have alive : s'.readAll? a ≠ none := by
      rw [h'.alone, readAll?_nil]
      exact Option.some_ne_none s''
    have before := leads_of_closing (text ▸ found) inside read alive
    exact .closes ⟨_, b, s'', text, before.trans h', closed⟩

theorem run_outcome (s : State) (u : Text) : Outcome s u := by
  generalize hn : u.length = n
  -- each part takes a character, so what is left after it is shorter
  induction n using Nat.strongRecOn generalizing s u with
  | ind n ih =>
    rcases skip_closing s.flags.spaced u with same | ⟨nothing, line, _⟩
    · cases found : skip s.flags.spaced u with
      | nil => exact .finishes (leads_end same found)
      | cons c rest =>
        -- the one part that depends on the groups around the text is the parenthesis of the last
        by_cases closing : c = ')' ∧ s.frames = []
        · obtain ⟨rfl, closed⟩ := closing
          exact .closes (closesEarly_here found closed)
        · have inside : c = ')' → s.frames ≠ [] := fun hc hf => closing ⟨hc, hf⟩
          by_cases undecided : s.Undecided c rest
          · exact .refuses (refuses_undecided found undecided)
          · have shorter : rest.length < n := by
              have := skip_length_le s.flags.spaced u
              rw [found, List.length_cons] at this
              omega
            cases step?_extend s undecided with
            | @agree s' r read same =>
              have next := (s.step?_shrinks c rest s' r read).length_le
              exact (leads_step found inside read same).outcome found inside read
                (ih _ (by omega) s' r rfl)
            | @comment s' read line _ =>
              refine .hides (show Hides s u s' from ⟨?_, fun base v free => ?_⟩)
              · rw [readAll?_step found, read]
                exact readAll?_nil s'
              · rw [readAll?_added found inside, line v free]
                exact readAll?_nil _
            | fail read within => exact .refuses (refuses_step found inside read within)
    · refine .hides (show Hides s u s from ⟨readAll?_end nothing, fun base v free => ?_⟩)
      exact readAll?_end (line v free)

end State

end Reader

end Criteria
