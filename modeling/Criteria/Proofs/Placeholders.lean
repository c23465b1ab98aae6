import Criteria.Variables
import Criteria.Proofs.Edges

/-!
# Placeholders in a text

* `readPlaceholder?_eq_some_iff`: a text opens with a placeholder if it opens with
  a written name that has a character and no brace.
* `resolve_append`: what is resolved in a text does not depend on what is behind it,
  unless a placeholder reaches across.
* `resolve_blanks_around`: blanks around a text stay around what it resolves to.
* `resolve_eq_self`: a text that mentions no defined name resolves to itself.
-/

namespace Criteria

namespace Variables

open Text

/-- A name that a placeholder can hold. -/
structure IsName (name : Text) : Prop where
  ne_nil : name ≠ []
  chars : ∀ c ∈ name, isNameChar c = true

instance (name : Text) : Decidable (IsName name) :=
  decidable_of_iff (name ≠ [] ∧ name.all isNameChar = true)
    ⟨fun ⟨ne, chars⟩ => ⟨ne, List.all_eq_true.mp chars⟩,
      fun named => ⟨named.ne_nil, List.all_eq_true.mpr named.chars⟩⟩

/-- A placeholder of the name stands in the text. -/
def Mentions (t name : Text) : Prop := IsName name ∧ placeholder name <:+: t

theorem Mentions.mono {s t name : Text} (h : Mentions s name) (part : s <:+: t) : Mentions t name :=
  ⟨h.1, h.2.trans part⟩

/-! ## Reading a placeholder -/

theorem IsName.takeWhile_eq {name : Text} (h : IsName name) (rest : Text) :
    (name ++ '\x7d' :: rest).takeWhile isNameChar = name := by
  rw [List.takeWhile_append_of_pos h.chars, List.takeWhile_cons_of_neg (by decide), List.append_nil]

theorem IsName.dropWhile_eq {name : Text} (h : IsName name) (rest : Text) :
    (name ++ '\x7d' :: rest).dropWhile isNameChar = '\x7d' :: rest := by
  rw [List.dropWhile_append_of_pos h.chars, List.dropWhile_cons_of_neg (by decide)]

theorem readName?_eq_some_iff {t name rest : Text} :
    readName? t = some (name, rest) ↔ t = name ++ '\x7d' :: rest ∧ IsName name := by
  unfold readName?
  constructor
  · intro h
    split at h
    next c after dropped =>
      split at h
      next closed =>
        cases h
        have whole := List.takeWhile_append_dropWhile (p := isNameChar) (l := t)
        rw [dropped, closed.1] at whole
        have chars : ∀ d ∈ t.takeWhile isNameChar, isNameChar d = true :=
          List.all_eq_true.mp List.all_takeWhile
        exact ⟨whole.symm, closed.2, chars⟩
      next => cases h
    next => cases h
  · rintro ⟨rfl, named⟩
    rw [named.dropWhile_eq, named.takeWhile_eq]
    exact if_pos ⟨rfl, named.ne_nil⟩

theorem readPlaceholder?_eq_some_iff {t name rest : Text} :
    readPlaceholder? t = some (name, rest) ↔ t = placeholder name ++ rest ∧ IsName name := by
  constructor
  · intro h
    unfold readPlaceholder? at h
    split at h
    next c d after =>
      split at h
      next opened =>
        obtain ⟨split, named⟩ := readName?_eq_some_iff.mp h
        rw [opened.1, opened.2, split]
        exact ⟨by simp [placeholder], named⟩
      next => cases h
    next => cases h
  · rintro ⟨rfl, named⟩
    have name : readName? (name ++ '\x7d' :: rest) = some (name, rest) :=
      readName?_eq_some_iff.mpr ⟨rfl, named⟩
    rw [← name]
    simp [placeholder, readPlaceholder?]

theorem readPlaceholder?_other {c : Char} (h : c ≠ '$') (t : Text) :
    readPlaceholder? (c :: t) = none := by
  cases read : readPlaceholder? (c :: t) with
  | none => rfl
  | some found =>
    obtain ⟨split, _⟩ := readPlaceholder?_eq_some_iff.mp read
    cases split
    exact absurd rfl h

/-! ## Resolving step by step -/

variable {vars : Variables} {t name rest : Text}

theorem resolve_nil : vars.resolve [] = [] := by
  rw [resolve]
  rfl

theorem resolve_placeholder (h : readPlaceholder? t = some (name, rest)) :
    vars.resolve t = vars.substitute name ++ vars.resolve rest := by
  rw [resolve]
  split
  next found =>
    rw [h] at found
    cases found
    rfl
  next none =>
    rw [h] at none
    cases none

theorem resolve_cons {c : Char} (h : readPlaceholder? (c :: t) = none) :
    vars.resolve (c :: t) = c :: vars.resolve t := by
  rw [resolve]
  split
  next found =>
    rw [h] at found
    cases found
  next => rfl

/-! ## Texts around a text -/

theorem resolve_blanks_append {b : Text} (hb : AllBlank b) (t : Text) :
    vars.resolve (b ++ t) = b ++ vars.resolve t := by
  induction b with
  | nil => rfl
  | cons c b ih =>
    have other : c ≠ '$' := by
      intro dollar
      have blank := hb c List.mem_cons_self
      rw [dollar] at blank
      exact absurd blank (by decide)
    rw [List.cons_append, resolve_cons (readPlaceholder?_other other _), ih hb.tail, List.cons_append]

/-- A placeholder of a text stands in it before whatever follows the text. -/
theorem readPlaceholder?_append_some (h : readPlaceholder? t = some (name, rest)) (e : Text) :
    readPlaceholder? (t ++ e) = some (name, rest ++ e) := by
  obtain ⟨split, named⟩ := readPlaceholder?_eq_some_iff.mp h
  exact readPlaceholder?_eq_some_iff.mpr ⟨by rw [split, List.append_assoc], named⟩

/-- Text without a closing brace closes no placeholder. -/
theorem readPlaceholder?_append_none {e : Text} (h : readPlaceholder? t = none)
    (unclosed : '\x7d' ∉ e) : readPlaceholder? (t ++ e) = none := by
  cases read : readPlaceholder? (t ++ e) with
  | none => rfl
  | some found =>
    obtain ⟨name, rest⟩ := found
    obtain ⟨split, named⟩ := readPlaceholder?_eq_some_iff.mp read
    have opened : ∃ after, t = placeholder name ++ after := by
      cases List.append_eq_append_iff.mp split with
      | inr inside =>
        obtain ⟨after, ht, _⟩ := inside
        exact ⟨after, ht⟩
      | inl across =>
        obtain ⟨tail, hp, he⟩ := across
        -- the closing brace would be in what follows the text
        cases List.eq_nil_or_concat tail with
        | inl nothing => exact ⟨[], by rw [hp, nothing, List.append_nil, List.append_nil]⟩
        | inr some =>
          obtain ⟨front, last, rfl⟩ := some
          have closing := congrArg List.getLast? hp
          simp only [placeholder, List.concat_eq_append, ← List.append_assoc,
            List.getLast?_concat, Option.some.injEq] at closing
          rw [he, ← closing] at unclosed
          exact absurd (by simp) unclosed
    obtain ⟨after, ht⟩ := opened
    rw [readPlaceholder?_eq_some_iff.mpr ⟨ht, named⟩] at h
    cases h

/-- A text is resolved on its own if no placeholder that opens in it is closed behind it. -/
theorem resolve_append {e : Text} (apart : ∀ u, u <:+ t → u ≠ [] → readPlaceholder? u = none →
    readPlaceholder? (u ++ e) = none) : vars.resolve (t ++ e) = vars.resolve t ++ vars.resolve e := by
  induction t using resolve.induct with
  | case1 t name rest read ih =>
    obtain ⟨split, _⟩ := readPlaceholder?_eq_some_iff.mp read
    have later : rest <:+ t := ⟨placeholder name, split.symm⟩
    rw [resolve_placeholder read, resolve_placeholder (readPlaceholder?_append_some read e),
      ih fun u suffix => apart u (suffix.trans later), List.append_assoc]
  | case2 => rw [resolve_nil, List.nil_append, List.nil_append]
  | case3 c t read ih =>
    have none : readPlaceholder? (c :: (t ++ e)) = none :=
      apart (c :: t) (List.suffix_refl _) (List.cons_ne_nil c t) read
    rw [resolve_cons read, List.cons_append, resolve_cons none,
      ih fun u suffix => apart u (suffix.trans (List.suffix_cons c t)), List.cons_append]

theorem resolve_append_unclosed {e : Text} (unclosed : '\x7d' ∉ e) (t : Text) :
    vars.resolve (t ++ e) = vars.resolve t ++ vars.resolve e :=
  resolve_append fun _ _ _ read => readPlaceholder?_append_none read unclosed

/-- Blanks around a text stay around what it resolves to. -/
theorem resolve_blanks_around {b e : Text} (hb : AllBlank b) (he : AllBlank e) (t : Text) :
    vars.resolve (b ++ t ++ e) = b ++ vars.resolve t ++ e := by
  have unclosed : '\x7d' ∉ e := fun mem => absurd (he _ mem) (by decide)
  have alone : vars.resolve (e ++ []) = e ++ vars.resolve [] := resolve_blanks_append he []
  rw [List.append_nil, resolve_nil, List.append_nil] at alone
  rw [resolve_append_unclosed unclosed, resolve_blanks_append hb, alone]

theorem mem_resolve_of_trim {c : Char} (h : c ∈ vars.resolve (trim t)) : c ∈ vars.resolve t := by
  obtain ⟨b, e, hb, he, split, _⟩ := trim_split t
  rw [split, resolve_blanks_around hb he]
  exact List.mem_append_left e (List.mem_append_right b h)

/-- A text that mentions no defined name resolves to itself. -/
theorem resolve_eq_self (undefined : ∀ name, Mentions t name → vars.get? (trim name) = none) :
    vars.resolve t = t := by
  induction t using resolve.induct with
  | case1 t name rest read ih =>
    obtain ⟨split, named⟩ := readPlaceholder?_eq_some_iff.mp read
    have mentioned : Mentions t name := ⟨named, [], rest, by rw [split, List.nil_append]⟩
    have later : rest <:+: t := ⟨placeholder name, [], by rw [split, List.append_nil]⟩
    rw [resolve_placeholder read, substitute, undefined name mentioned,
      ih fun other mention => undefined other (mention.mono later), split]
    rfl
  | case2 => exact resolve_nil
  | case3 c t read ih =>
    have later : t <:+: c :: t := List.infix_cons (List.infix_refl t)
    rw [resolve_cons read, ih fun other mention => undefined other (mention.mono later)]

end Variables

end Criteria
