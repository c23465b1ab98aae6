import Criteria.Proofs.Dependence

/-!
# Substitution in one pass

Values are put for placeholders while a text is read once from the left. This
module says that a placeholder is replaced in its place, whatever stands around it:
no other placeholder reaches into it, and its value is not read again.

* `readPlaceholder?_append_placeholder`: no placeholder that opens in a text is
  closed by a placeholder behind the text.
* `resolve_append_placeholder`: the text before a placeholder, the placeholder, and
  the text behind it are resolved each on its own.
* `resolve_splice`: so a placeholder becomes the value of its name as it is, and a
  text without placeholders stays as it is.
-/

namespace Criteria

namespace Variables

open Text

variable {vars : Variables} {u name : Text}

theorem readPlaceholder?_append_placeholder (filled : u ≠ []) (read : readPlaceholder? u = none)
    (b : Text) : readPlaceholder? (u ++ (placeholder name ++ b)) = none := by
  cases across : readPlaceholder? (u ++ (placeholder name ++ b)) with
  | none => rfl
  | some found =>
    obtain ⟨other, rest⟩ := found
    obtain ⟨split, named⟩ := readPlaceholder?_eq_some_iff.mp across
    -- the placeholder behind the text lies in what is left, so the one found lies in the text
    obtain ⟨between, rfl⟩ := named.not_overlaps filled split.symm
    rw [← List.append_assoc (placeholder other)] at split
    have inside := readPlaceholder?_eq_some_iff.mpr ⟨List.append_cancel_right split, named⟩
    cases read.symm.trans inside

theorem resolve_append_placeholder (named : IsName name) (a b : Text) :
    vars.resolve (a ++ placeholder name ++ b) =
      vars.resolve a ++ vars.substitute name ++ vars.resolve b := by
  have read : readPlaceholder? (placeholder name ++ b) = some (name, b) :=
    readPlaceholder?_eq_some_iff.mpr ⟨rfl, named⟩
  calc
    vars.resolve (a ++ placeholder name ++ b)
        = vars.resolve (a ++ (placeholder name ++ b)) := by rw [List.append_assoc]
    _ = vars.resolve a ++ vars.resolve (placeholder name ++ b) :=
        resolve_append fun _ _ filled read => readPlaceholder?_append_placeholder filled read b
    _ = vars.resolve a ++ (vars.substitute name ++ vars.resolve b) := by
        rw [resolve_placeholder read]
    _ = vars.resolve a ++ vars.substitute name ++ vars.resolve b := (List.append_assoc _ _ _).symm

/-- A placeholder between any two texts becomes the value of its name, or stays as it is written
if the name has no value, and the two texts are resolved as they are without it. A text in which
no placeholder stands is not changed. -/
theorem resolve_splice (vars : Variables) :
    (∀ a b name : Text, IsName name →
      vars.resolve (a ++ placeholder name ++ b) =
        vars.resolve a ++ (vars.get? (trim name)).getD (placeholder name) ++ vars.resolve b) ∧
    ∀ t, (∀ name, ¬ Mentions t name) → vars.resolve t = t := by
  constructor
  · intro a b name named
    exact resolve_append_placeholder named a b
  · intro t free
    exact resolve_eq_self fun name mentioned => absurd mentioned (free name)

/-- Before the placeholder another one is left open, its value is a placeholder with a dollar sign
behind it, and that sign comes to stand before braces. -/
theorem resolve_splice_seams :
    let vars := ofPairs [("n".toList, "$\x7bm\x7d$".toList), ("m".toList, "1".toList)]
    let a := "$\x7bm$".toList
    let b := "\x7bm\x7d".toList
    IsName " n ".toList ∧ (∀ name, ¬ Mentions a name) ∧ (∀ name, ¬ Mentions b name) ∧
      vars.resolve (a ++ placeholder " n ".toList ++ b) =
        "$\x7bm$".toList ++ "$\x7bm\x7d$".toList ++ "\x7bm\x7d".toList := by
  intro vars a b
  have named : IsName " n ".toList := by decide
  have freeA : ∀ name, ¬ Mentions a name := by
    intro name mentioned
    have closed : '\x7d' ∈ a := mentioned.2.subset (by simp [placeholder])
    exact absurd closed (by decide)
  have freeB : ∀ name, ¬ Mentions b name := by
    intro name mentioned
    have opened : '$' ∈ b := mentioned.2.subset (by simp [placeholder])
    exact absurd opened (by decide)
  refine ⟨named, freeA, freeB, ?_⟩
  rw [(resolve_splice vars).1 a b " n ".toList named, (resolve_splice vars).2 a freeA,
    (resolve_splice vars).2 b freeB]
  rfl

end Variables

end Criteria
