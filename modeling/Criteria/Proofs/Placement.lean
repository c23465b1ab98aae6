import Criteria.Proofs.Grammar

/-!
# A comparator behind a subject

A subject, a comparator in one of its spellings and controls are put together,
with blanks between them. This module says when the text splits into these parts
again. Nothing may be found at an earlier place, and the spelling may not go on
into the controls; the catalog leaves few ways for either.

* `alias_before_gap`, `alias_after_gap`: the spellings that hold a whole spelling
  of another comparator before or after one of their gaps.
* `Stands.readOperator?_eq`: behind the subject just the spelling is read.
* `Stands.not_straddles`: no spelling has a gap between the subject and the
  comparator, unless `not` comes before `in`.
* `Stands.parse_eq`: a filter is parsed from its parts in any spelling.
-/

namespace Criteria

namespace Sentence

open Text Spelling

/-! ## What can go wrong -/

/-- The text ends in `not`, in any letter case, with a blank, and something else, before it. -/
def EndsInNot (s : Text) : Prop :=
  ∃ p b w, s = p ++ (b ++ w) ∧ p ≠ [] ∧ b ≠ [] ∧ AllBlank b ∧ lower w = "not".toList

/-- The text is `any`, in any letter case, or `any` with a blank after it opens it. -/
def OpensWithAny (k : Text) : Prop :=
  ∃ w rest, k = w ++ rest ∧ lower w = "any".toList ∧ (rest = [] ∨ OpensBlank rest)

theorem opensWithAny_of_read {k y r : Text} (h : read? "any".toList k = some (y, r))
    (ended : atWordEnd r = true) : OpensWithAny k := by
  obtain ⟨rfl, lower⟩ := (read?_word (by decide)).mp h
  refine ⟨y, r, rfl, lower, ?_⟩
  cases r with
  | nil => exact .inl rfl
  | cons c r => exact .inr ⟨c, r, rfl, ended⟩

theorem endsInNot_of_read {s p u : Text} (split : s = p ++ u) (hp : p ≠ []) (opens : OpensBlank u)
    (h : read? "not".toList (trimStart u) = some (trimStart u, [])) : EndsInNot s := by
  refine ⟨p, leadingBlanks u, trimStart u, ?_, hp, leadingBlanks_ne_nil_iff.mpr opens,
    leadingBlanks_allBlank u, ((read?_word (by decide)).mp h).2⟩
  rw [leadingBlanks_append_trimStart, split]

/-! ## The catalog -/

/-- The places where a spelling has a gap, as the parts before and after it. -/
def gaps : Text → List (Text × Text)
  | [] => []
  | l :: a => (if l = ' ' then [([], a)] else []) ++ (gaps a).map fun p => (l :: p.1, p.2)

theorem mem_gaps (a₁ a₂ : Text) : (a₁, a₂) ∈ gaps (a₁ ++ ' ' :: a₂) := by
  induction a₁ with
  | nil => exact List.mem_append_left _ (by simp)
  | cons l a₁ ih => exact List.mem_append_right _ (List.mem_map.mpr ⟨(a₁, a₂), ih, rfl⟩)

/-- A spelling is the first part of a longer one for three comparators only. -/
theorem alias_before_gap : ∀ a ∈ spellings, ∀ p ∈ gaps a, ∀ c ∈ Comparator.all, p.1 ∈ c.aliases →
    c = .matching ∧ p.2 = "any".toList ∨
      (c = .is ∨ c = .isNot) ∧ p.2.head?.any fun l => l ≠ ' ' && !sameLetter l '[' := by
  decide

/-- A spelling opens with the last part of a longer one, or the other way round, for two
comparators only. -/
theorem alias_after_gap : ∀ a ∈ spellings, ∀ p ∈ gaps a, ∀ c ∈ Comparator.all,
    ∀ b ∈ c.aliases, (p.2.isPrefixOf b || b.isPrefixOf p.2) = true →
      p.1 = "not".toList ∧ c = .isIn ∨ p.1 = "is".toList ∧ c = .notIn := by decide

/-! ## The place behind the subject -/

/-- The blanks `e` and the controls `k` close the comparator `c`: the controls do not touch
it, do not open with `any` behind `match`, and are in brackets behind `is` and `is not`. -/
structure Closes (c : Comparator) (e k : Text) : Prop where
  apart : e ≠ [] ∨ k = []
  firm : FirmStart k
  any : c = .matching → ¬ OpensWithAny k
  bracketed : c = .is ∨ c = .isNot → k.head? = some '['

/-- A word at the end of a text is read there. -/
theorem readAs?_last {b w a : Text} (mem : a ∈ spellings) (hb : AllBlank b) (ne : b ≠ [])
    (h : Spelt a w) : readAs? (b ++ w) a = some (b ++ w, []) := by
  have stands : Stands a b w [] [] :=
    ⟨mem_spellings_iff.mp mem, hb, h, fun _ none => (nomatch none), fun _ => ⟨ne, .inr rfl⟩⟩
  have read := stands.readAs?_eq_of_firmStart fun _ none => nomatch none
  rwa [List.append_nil, List.append_nil] at read

namespace Stands

variable {a b x e k : Text} {c : Comparator}

/-- No longer spelling goes on from the comparator into the controls. -/
theorem eq_of_prefix (h : Stands a b x e k) (own : a ∈ c.aliases) (closed : Closes c e k)
    {a' b' x' e' r' : Text} (split : b ++ x ++ e ++ k = b' ++ x' ++ e' ++ r')
    (h' : Stands a' b' x' e' r') (longer : a <+: a') : a' = a := by
  obtain ⟨d, rfl⟩ := longer
  have mem' := h'.mem_spellings
  have read' := h'.read?_eq
  rw [← split, read?_append, h.read?_eq, Option.bind_some, Option.map_eq_some_iff] at read'
  obtain ⟨⟨y, r⟩, hd, heq⟩ := read'
  cases heq
  cases d with
  | nil => exact List.append_nil a
  | cons l d =>
    exfalso
    cases e with
    | nil =>
      rw [closed.apart.resolve_left fun ne => ne rfl] at hd
      exact List.cons_ne_nil l d (read?_nil_text hd)
    | cons blank e =>
      -- the spelling goes on behind a blank, so with a space
      obtain ⟨_, _, hcons, ⟨rfl, _⟩ | ⟨hl, same⟩⟩ := read?_head hd
      · obtain ⟨_, y, after, _⟩ := read?_space_eq_some.mp hd
        rw [trimStart_blanks_append h.after_blank, trimStart_of_firmStart closed.firm] at after
        have word : isWord (a ++ ' ' :: d) = true :=
          spellings_spaced_isWord _ mem' (List.mem_append_right a List.mem_cons_self)
        have ended := ((fits_word_iff word).mp h'.fits).2
        rcases alias_before_gap _ mem' _ (mem_gaps a d) c (Comparator.mem_all c) own with
          ⟨hc, rfl⟩ | ⟨hc, first⟩
        · exact closed.any hc (opensWithAny_of_read after ended)
        · -- no spelling holds the bracket that the controls open with
          have head := closed.bracketed hc
          cases d with
          | nil => cases first
          | cons m d =>
            simp only [List.head?_cons, Option.any_some, Bool.and_eq_true, decide_eq_true_eq,
              Bool.not_eq_true'] at first
            obtain ⟨_, _, rfl, ⟨hm, _⟩ | ⟨_, same⟩⟩ := read?_head after
            · exact first.1 hm
            · cases head
              rw [first.2] at same
              cases same
      · cases hcons
        have blankL := h.after_blank _ List.mem_cons_self
        have firmL := spellings_plain _ mem' l (List.mem_append_right a List.mem_cons_self) hl
        rw [sameLetter_firm firmL same] at blankL
        cases blankL

/-- Behind the subject the spelling is read, and the controls are left. -/
theorem readOperator?_eq (h : Stands a b x e k) (own : a ∈ c.aliases) (closed : Closes c e k) :
    readOperator? (b ++ x ++ e ++ k) = some (b ++ x ++ e, k) := by
  refine readOperator?_eq_some_iff.mpr ⟨rfl, closed.firm, a, b, x, e, rfl, h, ?_⟩
  intro a' b' x' e' r' split h' other
  have read' := h'.read?_eq
  rw [← split] at read'
  have mem := h.mem_spellings
  have mem' := h'.mem_spellings
  rcases read?_nested (spellings_plain a mem) (spellings_plain a' mem') (longS_not_mem_spelling mem)
    (longS_not_mem_spelling mem') h.read?_eq read' with longer | shorter
  · exact absurd (h.eq_of_prefix own closed split h' longer) other
  · exact read?_longer shorter other h.read?_eq read'

/-- A spelling in which no long s was read is looked up as its comparator. -/
theorem find?_eq (h : Stands a b x e k) (own : a ∈ c.aliases) (hs : longS ∉ x) :
    Comparator.find? (b ++ x ++ e) = some c := by
  have mem := h.mem_spellings
  rw [Comparator.find?_canonical, h.written.canonicalSpelling_eq (spellings_plain a mem) h.before_blank
    h.after_blank hs, Comparator.intercalate_words_spelling a mem]
  exact Comparator.find?_alias c (Comparator.mem_all c) a own

/-! ## Places inside the subject -/

/-- Where nothing is found in the end of a subject, the comparator behind it adds nothing,
unless `in` follows `not`. -/
theorem not_straddles (h : Stands a b x e k) (own : a ∈ c.aliases) {u : Text}
    (none : readOperator? u = none) (notIn : ¬ (c = .isIn ∧ OpensBlank u ∧
      read? "not".toList (trimStart u) = some (trimStart u, []))) :
    ∀ a' ∈ spellings, ∀ a₁ a₂, ¬ Straddles u (b ++ x ++ e ++ k) a' a₁ a₂ := by
  rintro _ mem' a₁ a₂ ⟨rfl, opens, before, y, r, after, _⟩
  have mem := h.mem_spellings
  have plain : Plain a₂ := (spellings_plain _ mem').of_append.tail
  have noLongS : longS ∉ a₂ := fun hs => longS_not_mem_spelling mem'
    (List.mem_append_right a₁ (List.mem_cons_of_mem ' ' hs))
  have nested : (a₂.isPrefixOf a || a.isPrefixOf a₂) = true := by
    rw [Bool.or_eq_true, List.isPrefixOf_iff_prefix, List.isPrefixOf_iff_prefix]
    exact read?_nested plain (spellings_plain a mem) noLongS (longS_not_mem_spelling mem) after
      h.read?_eq
  rcases alias_after_gap _ mem' _ (mem_gaps a₁ a₂) c (Comparator.mem_all c) a own nested with
    ⟨rfl, hc⟩ | ⟨rfl, _⟩
  · exact notIn ⟨hc, opens, before⟩
  · -- `is` would be found at the end of the subject by itself
    have found := readAs?_last (by decide) (leadingBlanks_allBlank u)
      (leadingBlanks_ne_nil_iff.mpr opens) (read?_sound before).2
    rw [leadingBlanks_append_trimStart] at found
    have := readOperator?_eq_none_iff.mp none "is".toList (by decide)
    rw [found] at this
    cases this

/-- The text splits into its parts again. -/
theorem split?_eq (h : Stands a b x e k) (own : a ∈ c.aliases) (closed : Closes c e k)
    (hb : b ≠ []) {s : Text} (hs : s ≠ []) (firm : FirmEnd s) (apart : split? s = none)
    (notIn : c = .isIn → ¬ EndsInNot s) :
    split? (s ++ (b ++ x ++ e ++ k)) = some ⟨s, b ++ x ++ e, k⟩ := by
  have opens : OpensBlank (b ++ x ++ e ++ k) :=
    leadingBlanks_ne_nil_iff.mp (h.leadingBlanks_eq.symm ▸ hb)
  refine split?_eq_some_iff.mpr ⟨hs, _, rfl, h.readOperator?_eq own closed, fun p u hpu hp hu => ?_⟩
  -- nothing is found at an earlier place, neither in the subject nor across its end
  have nothing := split?_eq_none_iff.mp apart p u hpu hp
  have firmU : FirmEnd u := FirmEnd.of_append (hpu ▸ firm)
  have seam := h.not_straddles own nothing fun ⟨hc, opensU, read⟩ =>
    notIn hc (endsInNot_of_read hpu hp opensU read)
  rw [readOperator?_append firmU hu opens seam, nothing]
  rfl

/-- A filter is parsed from its subject, its comparator in any spelling, and its controls. -/
theorem parse_eq {f : Filter} (h : Stands a b x e f.controls) (own : a ∈ f.comparator.aliases)
    (hs : longS ∉ x) (hb : b ≠ []) (he : e ≠ [] ∨ f.controls = []) (wellFormed : f.WellFormed)
    (apart : split? f.subject = none) (notIn : ¬ (f.comparator = .isIn ∧ EndsInNot f.subject))
    (any : ¬ (f.comparator = .matching ∧ OpensWithAny f.controls)) :
    (Filter.parse (f.subject ++ (b ++ x ++ e ++ f.controls))).result = .ok f := by
  have bracketed : f.comparator = .is ∨ f.comparator = .isNot → f.controls.head? = some '[' := by
    rintro (hc | hc)
    · exact wellFormed.controls_bracketed (by rw [hc]; rfl) (by rw [hc]; decide)
    · exact wellFormed.controls_bracketed (by rw [hc]; rfl) (by rw [hc]; decide)
  have closed : Closes f.comparator e f.controls :=
    ⟨he, wellFormed.controls_firmStart, fun hc opens => any ⟨hc, opens⟩, bracketed⟩
  have split := h.split?_eq own closed hb wellFormed.subject_ne wellFormed.subject_firmEnd apart
    fun hc ends => notIn ⟨hc, ends⟩
  exact Filter.parse_ok_iff.mpr ⟨_, _, split, h.find?_eq own hs, wellFormed.make_eq⟩

end Stands

end Sentence

end Criteria
