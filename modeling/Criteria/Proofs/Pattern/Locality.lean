import Criteria.Text

/-!
# Reading before a closing parenthesis

A reader takes a part off the front of a text. When the text goes on with a
closing parenthesis and more, a reader can do one of three things.

* It reads the same part and leaves the rest with what was added.
* Its text ends in a comment that is open. The comment takes what was added, up
  to the end of the line.
* It failed for want of text. Then what it reads now, if anything, takes the
  added parenthesis with it.

`Extends` says this of one text, `Local` of a reader. Both are kept when readers
are put together, so that each reader below needs one line for each of its
branches.
-/

namespace Criteria

variable {α β : Type}

/-- What is left after reading, if anything is read, is an end of the text. -/
def Within (v : Text) (z : Option (α × Text)) : Prop := ∀ a r, z = some (a, r) → r <:+ v

/-- `Extends x y`: the outcome `x` of reading a text foretells the outcome `y v` of reading the
text with a closing parenthesis and `v` added. -/
inductive Extends (x : Option (α × Text)) (y : Text → Option (α × Text)) : Prop
  /-- The same part is read. -/
  | agree {a : α} {r : Text} :
      x = some (a, r) → (∀ v, y v = some (a, r ++ ')' :: v)) → Extends x y
  /-- A comment is open at the end of the text. -/
  | comment {a : α} :
      x = some (a, []) → (∀ v, '\n' ∉ v → y v = some (a, [])) → (∀ v, Within v (y v)) → Extends x y
  /-- Nothing is read without what is added. -/
  | fail : x = none → (∀ v, Within v (y v)) → Extends x y

/-- A reader whose outcome on any text foretells what it does before a closing parenthesis. -/
structure Local (f : Text → Option (α × Text)) : Prop where
  shrinks : ∀ u, Within u (f u)
  extend : ∀ u, Extends (f u) fun v => f (u ++ ')' :: v)

theorem not_closing_suffix (r v : Text) : ¬ r ++ ')' :: v <:+ v := by
  intro h
  have := h.length_le
  simp at this
  omega

namespace Within

theorem none {v : Text} : Within v (none : Option (α × Text)) :=
  fun _ _ h => nomatch h

theorem some {v r : Text} {a : α} (h : r <:+ v) : Within v (some (a, r)) := by
  intro b w e
  cases e
  exact h

theorem mono {v w : Text} {z : Option (α × Text)} (h : Within v z) (le : v <:+ w) : Within w z :=
  fun a r e => (h a r e).trans le

theorem bind {v : Text} {z : Option (α × Text)} {g : α → Text → Option (β × Text)}
    (h : Within v z) (shrinks : ∀ a u, Within u (g a u)) :
    Within v (z.bind fun p => g p.1 p.2) := by
  cases z with
  | none => exact Within.none
  | some p =>
    obtain ⟨a, r⟩ := p
    exact (shrinks a r).mono (h a r rfl)

theorem map {v : Text} {z : Option (α × Text)} {f : α → β} (h : Within v z) :
    Within v (z.map fun p => (f p.1, p.2)) := by
  cases z with
  | none => exact Within.none
  | some p => exact Within.some (h p.1 p.2 rfl)

end Within

namespace Extends

variable {x : Option (α × Text)} {y : Text → Option (α × Text)}

theorem within (h : Extends x y) : x = none → ∀ v, Within v (y v) := by
  intro alone
  cases h with
  | agree h _ => rw [alone] at h; cases h
  | comment h _ _ => rw [alone] at h; cases h
  | fail _ h => exact h

/-- What is read leaving the added text is read without it. -/
theorem of_closing (h : Extends x y) {a : α} {r v : Text} (hy : y v = some (a, r ++ ')' :: v)) :
    x = some (a, r) ∧ ∀ v, y v = some (a, r ++ ')' :: v) := by
  cases h with
  | @agree b s hx same =>
    have e := same v
    rw [hy] at e
    obtain ⟨rfl, hr⟩ := Prod.mk.inj (Option.some.inj e)
    obtain rfl := List.append_cancel_right hr
    exact ⟨hx, same⟩
  | comment _ _ within => exact absurd (within v _ _ hy) (not_closing_suffix r v)
  | fail _ within => exact absurd (within v _ _ hy) (not_closing_suffix r v)

theorem pure (a : α) (r : Text) : Extends (some (a, r)) fun v => some (a, r ++ ')' :: v) :=
  .agree rfl fun _ => rfl

/-- One reader after another, where the second is followed up on what the first leaves. -/
theorem bind {g : α → Text → Option (β × Text)} (h : Extends x y)
    (shrinks : ∀ a u, Within u (g a u))
    (next : ∀ a r, x = some (a, r) → Extends (g a r) fun v => g a (r ++ ')' :: v)) :
    Extends (x.bind fun p => g p.1 p.2) fun v => (y v).bind fun p => g p.1 p.2 := by
  cases h with
  | @agree a r hx same =>
    rw [hx]
    simp only [same]
    exact next a r hx
  | @comment a hx line within =>
    rw [hx]
    show Extends (g a []) _
    -- with the comment open nothing is left, so the second reader ends where the first does
    cases hg : g a [] with
    | none => exact .fail rfl fun v => (within v).bind shrinks
    | some p =>
      obtain ⟨b, r⟩ := p
      obtain rfl := List.suffix_nil.mp (shrinks a [] b r hg)
      refine .comment rfl (fun v hv => ?_) fun v => (within v).bind shrinks
      rw [line v hv]
      exact hg
  | fail hx within =>
    rw [hx]
    exact .fail rfl fun v => (within v).bind shrinks

theorem map (h : Extends x y) (f : α → β) :
    Extends (x.map fun p => (f p.1, p.2)) fun v => (y v).map fun p => (f p.1, p.2) := by
  have asBind : ∀ z : Option (α × Text),
      (z.map fun p => (f p.1, p.2)) = z.bind fun p => some (f p.1, p.2) := by
    intro z
    cases z <;> rfl
  simp only [asBind]
  exact h.bind (g := fun a r => some (f a, r)) (fun _ u => .some (List.suffix_refl u))
    fun a r _ => .pure (f a) r

end Extends

namespace Local

variable {f : Text → Option (α × Text)}

theorem pure (a : α) : Local fun u => some (a, u) :=
  ⟨fun u => .some (List.suffix_refl u), fun u => .pure a u⟩

theorem none : Local fun _ => (none : Option (α × Text)) :=
  ⟨fun _ => .none, fun _ => .fail rfl fun _ => .none⟩

/-- A value that may be missing, with nothing read. -/
theorem value (o : Option α) : Local fun u => o.map fun a => (a, u) := by
  cases o with
  | none => exact none
  | some a => exact pure a

/-- A reader that needs a value that may be missing. -/
theorem ifSome (o : Option β) {g : β → Text → Option (α × Text)} (hg : ∀ b, Local (g b)) :
    Local fun u => o.bind fun b => g b u := by
  cases o with
  | none => exact none
  | some b => exact hg b

theorem bind {g : α → Text → Option (β × Text)} (hf : Local f) (hg : ∀ a, Local (g a)) :
    Local fun u => (f u).bind fun p => g p.1 p.2 where
  shrinks u := (hf.shrinks u).bind fun a => (hg a).shrinks
  extend u := (hf.extend u).bind (fun a => (hg a).shrinks) fun a r _ => (hg a).extend r

theorem map (hf : Local f) (g : α → β) : Local fun u => (f u).map fun p => (g p.1, p.2) where
  shrinks u := (hf.shrinks u).map
  extend u := (hf.extend u).map g

/-- A choice that does not depend on what is added. -/
theorem ite {p : Text → Bool} {f g : Text → Option (α × Text)}
    (same : ∀ u v, p (u ++ ')' :: v) = p u) (hf : Local f) (hg : Local g) :
    Local fun u => if p u then f u else g u where
  shrinks u := by
    split
    · exact hf.shrinks u
    · exact hg.shrinks u
  extend u := by
    simp only [same]
    split
    · exact hf.extend u
    · exact hg.extend u

/-- A reader that takes the first character, whatever it is. -/
theorem of_cons (nil : f [] = Option.none) (cons : ∀ c, Local fun u => f (c :: u)) : Local f where
  shrinks u := by
    cases u with
    | nil => rw [nil]; exact .none
    | cons c u => exact ((cons c).shrinks u).mono (List.suffix_cons c u)
  extend u := by
    cases u with
    | nil => exact .fail nil fun v => (cons ')').shrinks v
    | cons c u => exact (cons c).extend u

end Local

/-- A reader that looks at the first character, and takes it only if it passes the test. The
closing parenthesis does not. -/
def whenPasses (test : Char → Bool) (g : Char → Text → β) (h : Text → β) : Text → β
  | [] => h []
  | c :: u => if test c then g c u else h (c :: u)

theorem map_whenPasses {γ : Type} (test : Char → Bool) (g : Char → Text → Option β)
    (h : Text → Option β) (k : β → γ) (t : Text) :
    (whenPasses test g h t).map k =
      whenPasses test (fun c t => (g c t).map k) (fun t => (h t).map k) t := by
  cases t with
  | nil => rfl
  | cons c t =>
    simp only [whenPasses]
    split <;> rfl

theorem Local.whenPasses {test : Char → Bool} {g : Char → Text → Option (α × Text)}
    {h : Text → Option (α × Text)} (stops : test ')' = false) (hg : ∀ c, Local (g c))
    (hh : Local h) : Local (whenPasses test g h) where
  shrinks u := by
    cases u with
    | nil => exact hh.shrinks []
    | cons c u =>
      simp only [Criteria.whenPasses]
      split
      · exact ((hg c).shrinks u).mono (List.suffix_cons c u)
      · exact hh.shrinks (c :: u)
  extend u := by
    cases u with
    | nil =>
      simp only [Criteria.whenPasses, List.nil_append, stops]
      exact hh.extend []
    | cons c u =>
      simp only [Criteria.whenPasses, List.cons_append]
      split
      · exact (hg c).extend u
      · exact hh.extend (c :: u)

/-- A reader that what is added does not concern: where nothing is read alone, nothing is read
at all. -/
def Steady (f : Text → Option (α × Text)) : Prop :=
  ∀ u, (∃ a r, f u = some (a, r) ∧ ∀ v, f (u ++ ')' :: v) = some (a, r ++ ')' :: v)) ∨
    f u = none ∧ ∀ v, f (u ++ ')' :: v) = none

namespace Steady

theorem none : Steady fun _ => (none : Option (α × Text)) := fun _ => .inr ⟨rfl, fun _ => rfl⟩

theorem whenPasses {test : Char → Bool} {g : Char → Text → Option (α × Text)}
    {h : Text → Option (α × Text)} (stops : test ')' = false) (hg : ∀ c, Steady (g c))
    (hh : Steady h) : Steady (whenPasses test g h) := by
  intro u
  cases u with
  | nil =>
    simp only [Criteria.whenPasses, List.nil_append, stops]
    exact hh []
  | cons c u =>
    simp only [Criteria.whenPasses, List.cons_append]
    split
    · exact hg c u
    · exact hh (c :: u)

end Steady

/-- A reader that goes on after the mark, if the text opens with it. -/
abbrev whenOpens (mark : Char) (g h : Text → β) : Text → β := whenPasses (· == mark) (fun _ => g) h

/-- If something is read alone, the outcome before a lone parenthesis tells the two cases apart
where that is so. -/
theorem Extends.tell {x : Option (α × Text)} {y : Text → Option (α × Text)} (h : Extends x y)
    {a : α} {r : Text} (hx : x = some (a, r)) :
    (y [] = some (a, r ++ [')']) ∧ ∀ v, y v = some (a, r ++ ')' :: v)) ∨
      (y [] ≠ some (a, r ++ [')']) ∧ r = [] ∧ (∀ v, '\n' ∉ v → y v = some (a, [])) ∧
        ∀ v, Within v (y v)) := by
  cases h with
  | agree hx' same =>
    cases hx'.symm.trans hx
    exact .inl ⟨same [], same⟩
  | comment hx' line within =>
    cases hx'.symm.trans hx
    refine .inr ⟨?_, rfl, line, within⟩
    rw [line [] (by simp)]
    simp
  | fail hx' _ => cases hx'.symm.trans hx

/-- A reader with a bound on its rounds that is never used up. -/
theorem Local.of_rounds {f : Text → Option (α × Text)} {F : Nat → Text → Option (α × Text)}
    (rounds : ∀ n, Local (F n)) (enough : ∀ n u, u.length < n → F n u = f u) : Local f where
  shrinks u := by
    rw [← enough (u.length + 1) u (Nat.lt_succ_self _)]
    exact (rounds _).shrinks u
  extend u := by
    -- whatever `v` is, some number of rounds is enough for all three texts
    have same : ∀ v, ∃ n, F n u = f u ∧ F n (u ++ [')']) = f (u ++ [')']) ∧
        F n (u ++ ')' :: v) = f (u ++ ')' :: v) := by
      intro v
      refine ⟨(u ++ ')' :: v).length + 1, enough _ _ ?_, enough _ _ ?_, enough _ _ ?_⟩
      all_goals simp only [List.length_append, List.length_cons, List.length_nil]; omega
    cases alone : f u with
    | none =>
      refine .fail rfl fun v => ?_
      obtain ⟨n, hu, _, hv⟩ := same v
      exact hv ▸ ((rounds n).extend u).within (hu.trans alone) v
    | some p =>
      obtain ⟨a, r⟩ := p
      by_cases closed : f (u ++ [')']) = some (a, r ++ [')'])
      · refine .agree rfl fun v => ?_
        obtain ⟨n, hu, hc, hv⟩ := same v
        rcases ((rounds n).extend u).tell (hu.trans alone) with ⟨_, all⟩ | ⟨ne, _⟩
        · exact hv ▸ all v
        · exact absurd (hc.trans closed) ne
      · have comment : ∀ v, r = [] ∧ ('\n' ∉ v → f (u ++ ')' :: v) = some (a, [])) ∧
            Within v (f (u ++ ')' :: v)) := by
          intro v
          obtain ⟨n, hu, hc, hv⟩ := same v
          rcases ((rounds n).extend u).tell (hu.trans alone) with ⟨eq, _⟩ | ⟨_, nil, line, within⟩
          · exact absurd (hc.symm.trans eq) closed
          · exact ⟨nil, fun free => hv ▸ line v free, hv ▸ within v⟩
        obtain rfl := (comment []).1
        exact .comment rfl (fun v => (comment v).2.1) fun v => (comment v).2.2

end Criteria
