import Criteria.Proofs.Dependence

/-!
# Variables over a session

Variables are stored and cleared in any order, and one name can be asked for in
four ways: for its value, whether it is defined, whether its placeholder is, and
what its placeholder resolves to. Each way frees the name of what stands around it
by rules of its own. This module says that the four tell the same at any time.

* `Step`, `run`: what is done to variables, and what it comes to.
* `LastStored`: the value that was stored last under a name, said of the steps.
* `get?_apply_iff`, `get?_run_iff`: what one step and all steps do to a value.
* `views_eq`: the four answers about a name follow from its value.
* `views_agree`: so they agree after every session.
-/

namespace Criteria

namespace Variables

open Text

/-- What is done to variables in a session. -/
inductive Step where
  | set (name value : Text)
  | including (name value : Text)
  | clear
deriving DecidableEq, Repr

namespace Step

def apply (vars : Variables) : Step → Variables
  | set name value => vars.set name value
  | including name value => vars.including name value
  | clear => empty

/-- The name and the value that a step stores. -/
def pair? : Step → Option (Text × Text)
  | set name value => some (name, value)
  | including name value => some (name, value)
  | clear => none

/-- The step stores a value under another name. -/
def Keeps (step : Step) (name : Text) : Prop := ∃ pair, step.pair? = some pair ∧ pair.1 ≠ name

end Step

/-- The variables after the steps of a session. -/
def run (vars : Variables) (steps : List Step) : Variables := steps.foldl Step.apply vars

/-- `LastStored steps name value`: a step stores the value under the name, and the steps after it
store under other names only. -/
def LastStored (steps : List Step) (name value : Text) : Prop :=
  ∃ before step after, steps = before ++ step :: after ∧ step.pair? = some (name, value) ∧
    ∀ later ∈ after, later.Keeps name

variable {vars other : Variables} {name value : Text} {step : Step} {steps : List Step}

/-! ## The value of a name -/

theorem Step.apply_of_pair {pair : Text × Text} (h : step.pair? = some pair) :
    step.apply vars = vars.set pair.1 pair.2 := by
  cases step with
  | set => cases h; rfl
  | including => cases h; rfl
  | clear => cases h

theorem Step.Keeps.get?_apply (h : step.Keeps name) : (step.apply vars).get? name = vars.get? name := by
  obtain ⟨pair, stores, unlike⟩ := h
  rw [apply_of_pair stores, get?_set, if_neg unlike.symm]

/-- After one step a name has the value that the step stores under it, or the value that it had
before, if the step stores under another name. -/
theorem get?_apply_iff :
    (step.apply vars).get? name = some value ↔
      step.pair? = some (name, value) ∨ step.Keeps name ∧ vars.get? name = some value := by
  cases stores : step.pair? with
  | none =>
    have found : (step.apply vars).get? name = none := by
      cases step with
      | clear => rfl
      | set => cases stores
      | including => cases stores
    simp [found, Step.Keeps, stores]
  | some pair =>
    obtain ⟨stored, text⟩ := pair
    rw [Step.apply_of_pair stores, get?_set]
    cases Decidable.em (name = stored) with
    | inl same => simp [Step.Keeps, stores, same]
    | inr unlike => simp [Step.Keeps, stores, unlike, Ne.symm unlike]

theorem lastStored_cons_iff :
    LastStored (step :: steps) name value ↔
      LastStored steps name value ∨
        step.pair? = some (name, value) ∧ ∀ later ∈ steps, later.Keeps name := by
  constructor
  · intro ⟨before, stored, after, split, stores, kept⟩
    cases before with
    | nil =>
      cases split
      exact .inr ⟨stores, kept⟩
    | cons first before =>
      cases split
      exact .inl ⟨before, stored, after, rfl, stores, kept⟩
  · intro h
    cases h with
    | inl last =>
      obtain ⟨before, stored, after, rfl, stores, kept⟩ := last
      exact ⟨step :: before, stored, after, rfl, stores, kept⟩
    | inr first => exact ⟨[], step, steps, rfl, first.1, first.2⟩

/-- After all steps a name has the value that was stored last under it, or its first value, if
the steps store under other names only. -/
theorem get?_run_iff :
    (run vars steps).get? name = some value ↔
      LastStored steps name value ∨
        (∀ step ∈ steps, step.Keeps name) ∧ vars.get? name = some value := by
  induction steps generalizing vars with
  | nil =>
    constructor
    · exact fun found => .inr ⟨fun _ mem => (nomatch mem), found⟩
    · intro h
      cases h with
      | inl last =>
        obtain ⟨before, _, _, split, _⟩ := last
        cases List.append_eq_nil_iff.mp split.symm with
        | intro _ none => cases none
      | inr first => exact first.2
  | cons step steps ih =>
    have first : run vars (step :: steps) = run (step.apply vars) steps := rfl
    rw [first, ih, get?_apply_iff, lastStored_cons_iff]
    simp only [List.forall_mem_cons]
    grind

/-- Variables that give a name the same value go on to do so. -/
theorem get?_run_congr (agree : vars.get? name = other.get? name) :
    (run vars steps).get? name = (run other steps).get? name := by
  refine Option.ext fun value => ?_
  rw [get?_run_iff, get?_run_iff, agree]

theorem run_append (before after : List Step) :
    run vars (before ++ after) = run (run vars before) after :=
  List.foldl_append

/-- A step that stores under another name might as well be left out. -/
theorem get?_run_skip {before after : List Step} (h : step.Keeps name) :
    (run vars (before ++ after)).get? name = (run vars (before ++ step :: after)).get? name := by
  rw [run_append, run_append]
  exact (get?_run_congr h.get?_apply).symm

/-- Steps that store pairs come to what collecting the pairs does. -/
theorem ofPairs_eq_run {pairs : List (Text × Text)} (stores : steps.map Step.pair? = pairs.map some) :
    ofPairs pairs = run empty steps := by
  rw [ofPairs, run]
  generalize empty = vars
  induction steps generalizing vars pairs with
  | nil => rw [List.map_eq_nil_iff.mp stores.symm]; rfl
  | cons step steps ih =>
    obtain ⟨pair, pairs, rfl, first, later⟩ := List.map_eq_cons_iff.mp stores.symm
    rw [List.foldl_cons, List.foldl_cons, Step.apply_of_pair first.symm, ih later.symm]

/-! ## The four answers -/

theorem IsName.not_mem (named : IsName name) : '\x7b' ∉ name := by
  intro mem
  have char := named.chars _ mem
  cases char

/-- A name without braces is bare. -/
theorem IsName.bareName_eq (named : IsName name) : bareName name = trim name := by
  unfold bareName
  cases trimmed : trim name with
  | nil => rfl
  | cons c rest =>
    cases rest with
    | nil => rfl
    | cons d rest =>
      have inName : d ∈ name := mem_of_mem_trim (trimmed ▸ List.mem_cons_of_mem c List.mem_cons_self)
      have other : d ≠ '\x7b' := fun brace => named.not_mem (brace ▸ inName)
      exact if_neg fun opened => other opened.2.1

theorem trim_placeholder (name : Text) : trim (placeholder name) = placeholder name :=
  trim_enclosed (by decide) (by decide) ('\x7b' :: name)

/-- A placeholder is the placeholder of what stands in it. -/
theorem bareName_placeholder (name : Text) : bareName (placeholder name) = name := by
  unfold bareName
  rw [trim_placeholder]
  simp [placeholder]

/-- What variables answer about one name, in each of the four ways. -/
structure Views where
  value : Option Text
  /-- Whether the bare name is defined. -/
  bare : Bool
  /-- Whether the placeholder of the name is defined. -/
  wrapped : Bool
  /-- What the placeholder of the name resolves to. -/
  resolved : Text
deriving DecidableEq, Repr

def views (vars : Variables) (name : Text) : Views where
  value := vars.get? (trim name)
  bare := vars.isDefined name
  wrapped := vars.isDefined (placeholder name)
  resolved := vars.resolve (placeholder name)

theorem IsName.views_eq {v : Option Text} (named : IsName name) (h : vars.get? (trim name) = v) :
    vars.views name = ⟨v, v.isSome, v.isSome, v.getD (placeholder name)⟩ := by
  have read : readPlaceholder? (placeholder name) = some (name, []) :=
    readPlaceholder?_eq_some_iff.mpr ⟨(List.append_nil _).symm, named⟩
  rw [views, isDefined, isDefined, named.bareName_eq, trim_trim, bareName_placeholder,
    resolve_placeholder read, resolve_nil, List.append_nil, substitute, h]

/-- After every session the four answers about a name come from the value that was stored last
under it: that value, whether there is one, and the value in place of the placeholder. A step that
stores under another name changes none of them, and collecting pairs gives the answers that storing
them in order gives. -/
theorem views_agree (steps : List Step) {name : Text} (named : IsName name) :
    (∃ v : Option Text, (∀ value, v = some value ↔ LastStored steps (trim name) value) ∧
      (run empty steps).views name = ⟨v, v.isSome, v.isSome, v.getD (placeholder name)⟩) ∧
    (∀ before step after, steps = before ++ step :: after → step.Keeps (trim name) →
      (run empty (before ++ after)).views name = (run empty steps).views name) ∧
    ∀ pairs, steps.map Step.pair? = pairs.map some →
      (ofPairs pairs).views name = (run empty steps).views name := by
  refine ⟨⟨_, fun value => ?_, named.views_eq rfl⟩, ?_, ?_⟩
  · rw [get?_run_iff]
    constructor
    · intro found
      cases found with
      | inl last => exact last
      | inr first => cases first.2
    · exact .inl
  · intro before step after split kept
    rw [named.views_eq (get?_run_skip kept), split, named.views_eq rfl]
  · intro pairs stores
    rw [ofPairs_eq_run stores]

/-- A value from before the clearing, one that is replaced, and one under another name. -/
theorem views_agree_cleared :
    let name := " n ".toList
    let steps : List Step := [.set "n".toList "old".toList, .clear, .set "n".toList "1".toList,
      .including "n".toList "$\x7bm\x7d".toList, .set " n ".toList "2".toList]
    IsName name ∧ LastStored steps (trim name) "$\x7bm\x7d".toList ∧
      (run empty steps).views name = ⟨some "$\x7bm\x7d".toList, true, true, "$\x7bm\x7d".toList⟩ := by
  intro name steps
  have named : IsName name := by decide
  have last : LastStored steps (trim name) "$\x7bm\x7d".toList := by
    refine ⟨steps.take 3, .including "n".toList "$\x7bm\x7d".toList, steps.drop 4, rfl, rfl, ?_⟩
    intro later mem
    rw [List.mem_singleton.mp mem]
    exact ⟨_, rfl, by decide⟩
  obtain ⟨⟨v, stored, views⟩, _⟩ := views_agree steps named
  rw [(stored _).mpr last] at views
  exact ⟨named, last, views⟩

end Variables

end Criteria
