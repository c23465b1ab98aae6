import Criteria.Proofs.ModeAgreement

/-!
# What an evaluation in a context depends on

A context is asked to resolve the subject, the controls and the control values, and
whether the subject is defined. So the answer of a filter, with all its events,
depends on the values of the names in the placeholders of its subject and its
controls, and on the name of the subject where the comparator asks for it.

* `Captures`: the names that resolving a text looks up.
* `captures_iff_mentions`: these are the names of all placeholders in the text, as
  no two placeholders overlap; so a stretch of a text looks up no other names.
* `resolve_congr`: what a text resolves to depends on these names only.
* `Alike`: two contexts answer alike what a filter asks.
* `evaluateIn_congr`: variables that agree on the names of a filter give the same
  result and the same events; and controls that are not read do not count.
-/

namespace Criteria

open Text

namespace Variables

/-- Resolving a text looks up the name: it stands in a placeholder that is met from the left. -/
inductive Captures : Text → Text → Prop
  | here {t name rest : Text} : readPlaceholder? t = some (name, rest) → Captures t name
  | behind {t name other rest : Text} :
      readPlaceholder? t = some (other, rest) → Captures rest name → Captures t name
  | later {c : Char} {t name : Text} :
      readPlaceholder? (c :: t) = none → Captures t name → Captures (c :: t) name

variable {vars other : Variables} {t name : Text}

/-! ## Names in placeholders -/

theorem Captures.mentions (h : Captures t name) : Mentions t name := by
  induction h with
  | here read =>
    obtain ⟨split, named⟩ := readPlaceholder?_eq_some_iff.mp read
    exact ⟨named, [], _, split.symm⟩
  | behind read _ ih =>
    obtain ⟨split, _⟩ := readPlaceholder?_eq_some_iff.mp read
    exact ih.mono ⟨placeholder _, [], by rw [split, List.append_nil]⟩
  | later _ _ ih => exact ih.mono (List.infix_cons (List.infix_refl _))

/-- No placeholder opens behind the dollar sign of another one. -/
theorem IsName.suffix_apart {named tail rest b : Text} (h : IsName named)
    (behind : tail <:+ '\x7b' :: (named ++ ['\x7d'])) (filled : tail ≠ []) :
    tail ++ rest ≠ placeholder name ++ b := by
  intro opens
  -- a brace would open there, but neither the name nor the closing brace is one
  have plain : '\x7b' ∉ named ++ ['\x7d'] := by
    intro mem
    cases List.mem_append.mp mem with
    | inl inName => exact absurd (h.chars _ inName) (by decide)
    | inr closing => exact absurd closing (by decide)
  obtain ⟨c, tail, rfl⟩ := List.exists_cons_of_ne_nil filled
  have dollar : c = '$' := (List.cons.inj opens).1
  have inner : c :: tail <:+ named ++ ['\x7d'] := by
    cases List.suffix_cons_iff.mp behind with
    | inl all =>
      rw [dollar] at all
      cases all
    | inr inner => exact inner
  cases tail with
  | nil =>
    obtain ⟨front, ends⟩ := inner
    have last := congrArg List.getLast? ends
    rw [List.getLast?_concat, List.getLast?_concat, dollar] at last
    cases last
  | cons d tail =>
    have brace : d = '\x7b' := (List.cons.inj (List.cons.inj opens).2).1
    rw [brace] at inner
    exact plain (inner.subset (List.mem_cons_of_mem c List.mem_cons_self))

/-- A placeholder that stands behind the start of another one stands behind its end. -/
theorem IsName.not_overlaps {named a rest b : Text} (h : IsName named) (behind : a ≠ [])
    (split : placeholder named ++ rest = a ++ (placeholder name ++ b)) :
    ∃ between, rest = between ++ (placeholder name ++ b) := by
  cases List.append_eq_append_iff.mp split with
  | inl after =>
    obtain ⟨between, _, later⟩ := after
    exact ⟨between, later⟩
  | inr inside =>
    obtain ⟨tail, whole, opens⟩ := inside
    by_cases none : tail = []
    · exact ⟨[], by rw [opens, none]; rfl⟩
    · obtain ⟨first, a, rfl⟩ := List.exists_cons_of_ne_nil behind
      have suffix : tail <:+ '\x7b' :: (named ++ ['\x7d']) := ⟨a, (List.cons.inj whole).2.symm⟩
      exact absurd opens.symm (h.suffix_apart suffix none)

/-- Resolving meets every placeholder that stands in the text. -/
theorem captures_iff_mentions : Captures t name ↔ Mentions t name := by
  refine ⟨Captures.mentions, ?_⟩
  -- along the steps of resolving; a placeholder in the text is read here or lies in the rest
  induction t using resolve.induct with
  | case1 t first rest read ih =>
    rintro ⟨named, a, b, split⟩
    obtain ⟨opens, firstNamed⟩ := readPlaceholder?_eq_some_iff.mp read
    rw [List.append_assoc] at split
    cases a with
    | nil =>
      have again := readPlaceholder?_eq_some_iff.mpr ⟨split.symm, named⟩
      exact .here again
    | cons c a =>
      obtain ⟨between, later⟩ :=
        firstNamed.not_overlaps (List.cons_ne_nil c a) (opens.symm.trans split.symm)
      exact .behind read (ih ⟨named, between, b, by rw [later, List.append_assoc]⟩)
  | case2 =>
    rintro ⟨_, part⟩
    exact absurd (List.infix_nil.mp part) (List.cons_ne_nil _ _)
  | case3 c t read ih =>
    rintro ⟨named, part⟩
    cases List.infix_cons_iff.mp part with
    | inl opens =>
      obtain ⟨rest, split⟩ := opens
      rw [readPlaceholder?_eq_some_iff.mpr ⟨split.symm, named⟩] at read
      cases read
    | inr later => exact .later read (ih ⟨named, later⟩)

/-- A name that is looked up has only characters of the text. -/
theorem Captures.mem_of_mem_trim {c : Char} (h : Captures t name) (mem : c ∈ trim name) : c ∈ t := by
  have inPlaceholder : c ∈ placeholder name :=
    List.mem_append_left _ (List.mem_cons_of_mem _ (List.mem_cons_of_mem _ (Text.mem_of_mem_trim mem)))
  exact h.mentions.2.subset inPlaceholder

/-- A stretch of a text looks up names of the text only. -/
theorem Captures.mono {s : Text} (h : Captures s name) (part : s <:+: t) : Captures t name :=
  captures_iff_mentions.mpr (h.mentions.mono part)

/-! ## Variables that agree on names -/

theorem get?_set (vars : Variables) (name value wanted : Text) :
    (vars.set name value).get? wanted = if wanted = name then some value else vars.get? wanted := by
  by_cases same : wanted = name
  · rw [if_pos same, same]
    exact List.lookup_cons_self
  · rw [if_neg same]
    show List.lookup wanted ((name, value) :: vars.entries) = _
    rw [List.lookup_cons, beq_eq_false_iff_ne.mpr same]
    rfl

/-- What a text resolves to depends on the values of the names in its placeholders. -/
theorem resolve_congr
    (agree : ∀ name, Captures t name → vars.get? (trim name) = other.get? (trim name)) :
    vars.resolve t = other.resolve t := by
  induction t using resolve.induct with
  | case1 t name rest read ih =>
    rw [resolve_placeholder read, resolve_placeholder read, substitute, substitute,
      agree name (.here read), ih fun _ mention => agree _ (.behind read mention)]
  | case2 => rw [resolve_nil, resolve_nil]
  | case3 c t read ih =>
    rw [resolve_cons read, resolve_cons read, ih fun _ mention => agree _ (.later read mention)]

theorem isDefined_congr (agree : vars.get? (trim (bareName t)) = other.get? (trim (bareName t))) :
    vars.isDefined t = other.isDefined t := by
  rw [isDefined, isDefined, agree]

end Variables

namespace Evaluation

/-- Two contexts answer alike what the evaluation of a filter asks. -/
structure Alike (f : Filter) (names other : Context) : Prop where
  subject : names.resolve f.subject = other.resolve f.subject
  controls : names.resolve f.controls = other.resolve f.controls
  values : ∀ v ∈ f.values, names.resolve v = other.resolve v
  bounds : ∀ v ∈ f.values, names.resolve (trim v) = other.resolve (trim v)
  asked : f.comparator = .isDefined ∨ f.comparator = .isUndefined →
    names.isDefined f.subject = other.isDefined f.subject

variable {f : Filter} {names other : Context} {actual expected : Text} {c : Comparator}

theorem readBound_congr {v : Text} (h : names.resolve (trim v) = other.resolve (trim v)) :
    readBound c (.context names) v = readBound c (.context other) v := by
  rw [readBound, readBound, Mode.resolve, Mode.resolve, h]

theorem compareRange_congr {values : List Text}
    (h : ∀ v ∈ values, names.resolve (trim v) = other.resolve (trim v)) :
    compareRange c (.context names) actual values = compareRange c (.context other) actual values := by
  have bounds : ∀ v ∈ values, readBound c (.context names) v = readBound c (.context other) v :=
    fun v mem => readBound_congr (h v mem)
  rcases values with _ | ⟨low, _ | ⟨high, _ | ⟨more, rest⟩⟩⟩
  · rfl
  · rfl
  · simp only [compareRange, Mode.number?, bounds low (by simp), bounds high (by simp)]
  · rfl

/-- Whether the value of the subject is a number is not asked of the context. -/
theorem compareNumbers_congr (c : Comparator) (test : Ordering → Bool) :
    compareNumbers c (.context names) test actual expected =
      compareNumbers c (.context other) test actual expected := by
  rw [compareNumbers, compareNumbers, Mode.number?, Mode.number?]

theorem isMember_congr (h : ∀ v ∈ f.values, names.resolve v = other.resolve v) :
    isMember f (.context names) actual = isMember f (.context other) actual := by
  rw [isMember, isMember, Bool.eq_iff_iff, List.any_eq_true, List.any_eq_true]
  constructor
  · rintro ⟨v, mem, same⟩
    exact ⟨v, mem, by rw [Mode.resolve, ← h v mem]; exact same⟩
  · rintro ⟨v, mem, same⟩
    exact ⟨v, mem, by rw [Mode.resolve, h v mem]; exact same⟩

theorem occurs_congr (h : ∀ v ∈ f.values, names.resolve v = other.resolve v) :
    (f.values.all fun v => occursIn (names.resolve v) actual) =
      f.values.all fun v => occursIn (other.resolve v) actual := by
  rw [Bool.eq_iff_iff, List.all_eq_true, List.all_eq_true]
  exact forall₂_congr fun v mem => by rw [h v mem]

/-- In contexts that answer alike, the comparison and its events are the same. -/
theorem compare_congr (alike : Alike f names other) :
    compare f (.context names) actual expected = compare f (.context other) actual expected := by
  have member : isMember f (.context names) actual = isMember f (.context other) actual :=
    isMember_congr alike.values
  have asked := alike.asked
  unfold compare
  generalize f.comparator = c at asked ⊢
  cases c with
  | greater => exact congrArg (Traced.map Except.ok) (compareNumbers_congr _ _)
  | greaterOrEqual => exact congrArg (Traced.map Except.ok) (compareNumbers_congr _ _)
  | lesser => exact congrArg (Traced.map Except.ok) (compareNumbers_congr _ _)
  | lesserOrEqual => exact congrArg (Traced.map Except.ok) (compareNumbers_congr _ _)
  | hasLengthOf => exact congrArg (Traced.map Except.ok) (compareNumbers_congr _ _)
  | between => exact congrArg (Traced.map Except.ok) (compareRange_congr alike.bounds)
  | is => simp only [member, Mode.isLiteral]
  | isIn => simp only [member, Mode.isLiteral]
  | isNot => simp only [member, Mode.isLiteral]
  | notIn => simp only [member, Mode.isLiteral]
  | contain => exact congrArg (fun holds => Traced.quiet (Except.ok holds)) (occurs_congr alike.values)
  | matching =>
    show Traced.quiet (matchesPattern actual (trim (names.resolve f.controls))) = _
    rw [alike.controls]
    rfl
  | isDefined =>
    show Traced.quiet (Except.ok (names.isDefined f.subject)) = _
    rw [asked (.inl rfl)]
    rfl
  | isUndefined =>
    show Traced.quiet (Except.ok !(names.isDefined f.subject)) = _
    rw [asked (.inr rfl)]
    rfl
  | _ => rfl

theorem evaluate_congr (alike : Alike f names other) :
    evaluate f (.context names) actual = evaluate f (.context other) actual := by
  have expected : Mode.expected (.context names) f.controls = Mode.expected (.context other) f.controls :=
    congrArg Traced.quiet alike.controls
  rw [evaluate, evaluate, if_pos (context_allows names _), if_pos (context_allows other _), expected]
  simp only [compare_congr alike, Mode.name]

/-- A comparator that does not read the controls comes to the same with any controls. -/
theorem compare_unread {g : Filter} {mode : Mode} (subject : g.subject = f.subject)
    (comparator : g.comparator = f.comparator) (unread : f.comparator.arity = .none)
    (expected' : Text) :
    (compare g mode actual expected').result = (compare f mode actual expected).result := by
  unfold compare
  rw [comparator, subject]
  cases c : f.comparator with
  | any => rfl
  | isEmpty => rfl
  | isNotEmpty => rfl
  | isDefined => rfl
  | isUndefined => rfl
  | _ => rw [c] at unread; cases unread

end Evaluation

namespace Filter

open Evaluation

variable {f : Filter} {vars other : Variables}

/-- Two sets of variables give the same values to the names that a filter looks up. -/
structure AgreeOn (f : Filter) (vars other : Variables) : Prop where
  subject : ∀ name, Variables.Captures f.subject name → vars.get? (trim name) = other.get? (trim name)
  controls : ∀ name, Variables.Captures f.controls name →
    vars.get? (trim name) = other.get? (trim name)
  /-- A comparator that asks whether the subject is defined reads it as a name. -/
  asked : f.comparator = .isDefined ∨ f.comparator = .isUndefined →
    vars.get? (trim (Variables.bareName f.subject)) =
      other.get? (trim (Variables.bareName f.subject))

/-- Every stretch of the controls resolves to the same text. -/
theorem AgreeOn.resolve_eq (agree : f.AgreeOn vars other) {t : Text} (part : t <:+: f.controls) :
    vars.resolve t = other.resolve t :=
  Variables.resolve_congr fun name captured => agree.controls name (captured.mono part)

theorem AgreeOn.alike (agree : f.AgreeOn vars other) (obtained : f.Obtained) :
    Alike f vars other where
  subject := Variables.resolve_congr agree.subject
  controls := agree.resolve_eq (List.infix_refl _)
  values _ mem := agree.resolve_eq (obtained.value_isInfix mem)
  bounds v mem := agree.resolve_eq ((trim_isInfix v).trans (obtained.value_isInfix mem))
  asked nameless := Variables.isDefined_congr (agree.asked nameless)

/-- Contexts that answer alike give the same result and the same events. -/
theorem evaluateIn_alike {names other : Context} (alike : Alike f names other) :
    f.evaluateIn names = f.evaluateIn other := by
  rw [evaluateIn, evaluateIn, alike.subject, evaluate_congr alike]

/-- Controls that are not read do not change the result. -/
theorem evaluateIn_unread {g : Filter} (subject : g.subject = f.subject)
    (comparator : g.comparator = f.comparator) (unread : f.comparator.arity = .none)
    (names : Context) : (g.evaluateIn names).result = (f.evaluateIn names).result := by
  rw [evaluateIn_result, evaluateIn_result, evaluate_compares (context_allows names _),
    evaluate_compares (context_allows names _), subject]
  exact congrArg (fun answer => answer.toOption.getD false)
    (compare_unread subject comparator unread _)

/-- A filter gives the same result, with the same events, for variables that agree on the names
it looks up; and a filter whose comparator reads no controls gives the same result as every
filter that differs in its controls only. -/
theorem evaluateIn_congr (obtained : f.Obtained) (agree : f.AgreeOn vars other) :
    f.evaluateIn vars = f.evaluateIn other ∧
      (f.comparator.arity = .none → ∀ g : Filter, g.subject = f.subject →
        g.comparator = f.comparator →
          (g.evaluateIn vars).result = (f.evaluateIn vars).result ∧
          (g.evaluateIn other).result = (f.evaluateIn vars).result) := by
  have same : f.evaluateIn vars = f.evaluateIn other := evaluateIn_alike (agree.alike obtained)
  refine ⟨same, fun unread g subject comparator => ?_⟩
  rw [evaluateIn_unread subject comparator unread, evaluateIn_unread subject comparator unread, same]
  exact ⟨rfl, rfl⟩

/-- Two sets of variables that differ in a name which the filter does not look up. -/
theorem evaluateIn_congr_elsewhere :
    let f : Filter := ⟨"$\x7bn\x7d".toList, .isDefined, "[$\x7b n \x7d|8]".toList, []⟩
    let g : Filter := ⟨f.subject, f.comparator, [], []⟩
    let vars := Variables.ofPairs [("z".toList, "1".toList), ("n".toList, "7".toList)]
    let other := Variables.ofPairs [("n".toList, "7".toList), ("z".toList, "2".toList)]
    f.Obtained ∧ f.AgreeOn vars other ∧ f.comparator.arity = .none ∧
      f.evaluateIn vars = f.evaluateIn other ∧
        (g.evaluateIn other).result = (f.evaluateIn vars).result := by
  intro f g vars other
  have obtained : f.Obtained := .made (s := f.subject) (c := f.comparator) (k := f.controls) rfl
  have apart : ∀ name, name ≠ ['z'] → vars.get? name = other.get? name := by
    intro name unlike
    simp [vars, other, Variables.ofPairs, Variables.get?_set, unlike]
  -- the letter of that name stands neither in the subject nor in the controls
  have unlike {t name : Text} (plain : 'z' ∉ t) (captured : Variables.Captures t name) :
      trim name ≠ ['z'] :=
    fun same => plain (captured.mem_of_mem_trim (by rw [same]; decide))
  have agree : f.AgreeOn vars other :=
    { subject := fun name captured => apart _ (unlike (by decide) captured)
      controls := fun name captured => apart _ (unlike (by decide) captured)
      asked := fun _ => apart _ (by decide) }
  have congr := evaluateIn_congr obtained agree
  exact ⟨obtained, agree, rfl, congr.1, (congr.2 rfl g rfl rfl).2⟩

end Filter

end Criteria
