import Criteria.Proofs.Folds

/-!
# Comparators and their negations

Five comparators have a negation. A comparator and its negation take the same
controls, and one of them holds exactly if the other does not. The exception is
membership of an empty literal: it is a member of every list, and whether it is also
not a member depends on the entries.

* `readList_of_isEmptyList`: a text that counts as the list without entries is read
  as that list. So the rule for this list never decides: `compare_notMember_values`.
* `make_with`: comparators that take controls alike make filters that differ in
  nothing else.
* `compare_opposite`, `compare_synonym`: what the comparison says for a comparator and
  for its negation, and for another word for it.
* `negation_laws`: what this says of the filters made from a subject and controls.
-/

namespace Criteria

open Text

namespace Controls

/-- Whatever blanks there are in and around the brackets, a text that counts as the list
without entries is read as that list. -/
theorem readList_of_isEmptyList {k : Text} (empty : isEmptyList k = true) :
    (readList k).result = .ok [] := by
  rw [isEmptyList, beq_iff_eq, squeeze] at empty
  obtain ⟨b, rest, rfl, before, _, rest_eq⟩ := List.filter_eq_cons_iff.mp empty
  obtain ⟨inner, e, rfl, between, _, after⟩ := List.filter_eq_cons_iff.mp rest_eq
  have blank {t : Text} (h : ∀ c ∈ t, ¬ (!isBlank c) = true) : AllBlank t :=
    fun c mem => by simpa using h c mem
  have behind : AllBlank e := blank (List.filter_eq_nil_iff.mp after)
  have enclosed : b ++ '[' :: (inner ++ ']' :: e) = b ++ '[' :: (inner ++ [']']) ++ e := by simp
  have found : interior? (b ++ '[' :: (inner ++ ']' :: e)) = some inner :=
    enclosed ▸ interior?_padded (blank before) behind inner
  refine readList_ok_iff.mpr ⟨inner, found, ?_⟩
  rw [entries, trim_eq_nil_iff.mpr (blank between)]
  rfl

end Controls

namespace Evaluation

/-- The comparators that have a negation, each with it. -/
def opposites : List (Comparator × Comparator) :=
  [(.equal, .notEqual), (.is, .isNot), (.isIn, .notIn), (.isEmpty, .isNotEmpty),
    (.isDefined, .isUndefined)]

/-- The negations of membership. -/
def nonMembership : List Comparator := [.isNot, .notIn]

/-- The comparators that have another word for them, each with it. -/
def synonyms : List (Comparator × Comparator) := [(.is, .isIn), (.isNot, .notIn)]

variable {f : Filter} {d : Comparator} {mode : Mode} {actual expected : Text}

theorem isMember_literal (f : Filter) (actual : Text) :
    isMember f .literal actual = decide (actual ∈ f.values) :=
  isMember_of_unchanged fun _ _ => rfl

/-- Where the list without entries has none, an empty literal needs no rule of its own to be
no member of it. -/
theorem compare_notMember_values (negation : f.comparator ∈ nonMembership)
    (entries : Controls.isEmptyList f.controls = true → f.values = []) :
    (compare f mode actual expected).result = .ok !(isMember f mode actual) := by
  have which : f.comparator = .isNot ∨ f.comparator = .notIn := by simpa [nonMembership] using negation
  rw [compare_notMember which]
  cases empty : Controls.isEmptyList f.controls with
  | false => rw [Bool.and_false, Bool.false_or]
  | true =>
    have none : isMember f mode actual = false := by
      rw [isMember, entries empty]
      rfl
    rw [none, Bool.not_false, Bool.or_true]

/-- A comparator and its negation answer the opposite, but for membership of an empty literal. -/
theorem compare_opposite (opposite : (f.comparator, d) ∈ opposites)
    (allowed : mode.allows f.comparator = true)
    (entries : d ∈ nonMembership → Controls.isEmptyList f.controls = true → f.values = [])
    (counts : f.comparator ∈ membership → (mode.isLiteral && actual.isEmpty) = false) :
    ∃ holds, (compare f mode actual expected).result = .ok holds ∧
      (compare { f with comparator := d } mode actual expected).result = .ok !holds := by
  obtain ⟨s, c, k, vs⟩ := f
  have member (which : c = .is ∨ c = .isIn) (negation : d ∈ nonMembership) :
      ∃ holds, (compare ⟨s, c, k, vs⟩ mode actual expected).result = .ok holds ∧
        (compare ⟨s, d, k, vs⟩ mode actual expected).result = .ok !holds := by
    refine ⟨_, ?_, compare_notMember_values negation (entries negation)⟩
    rw [compare_member which, counts (by simpa [membership] using which), Bool.false_or]
    rfl
  simp only [opposites, List.mem_cons, Prod.mk.injEq, List.not_mem_nil, or_false] at opposite
  obtain ⟨rfl, rfl⟩ | ⟨rfl, rfl⟩ | ⟨rfl, rfl⟩ | ⟨rfl, rfl⟩ | ⟨rfl, rfl⟩ := opposite
  case inl => exact ⟨_, rfl, rfl⟩
  case inr.inl => exact member (.inl rfl) (by decide)
  case inr.inr.inl => exact member (.inr rfl) (by decide)
  case inr.inr.inr.inl => exact ⟨_, rfl, rfl⟩
  case inr.inr.inr.inr =>
    cases mode with
    | context names => exact ⟨_, rfl, rfl⟩
    | literal => cases allowed

theorem compare_synonym (synonym : (f.comparator, d) ∈ synonyms) :
    compare f mode actual expected = compare { f with comparator := d } mode actual expected := by
  obtain ⟨s, c, k, vs⟩ := f
  simp only [synonyms, List.mem_cons, Prod.mk.injEq, List.not_mem_nil, or_false] at synonym
  obtain ⟨rfl, rfl⟩ | ⟨rfl, rfl⟩ := synonym
  case inl => rfl
  case inr => rfl

end Evaluation

namespace Filter

open Controls Evaluation

variable {s k : Text} {c d : Comparator} {f g : Filter}

/-! ## Filters that differ in the comparator -/

/-- Two comparators that take their controls alike. -/
structure Alike (c d : Comparator) : Prop where
  arity : c.arity = d.arity
  first : c ≠ .contain
  second : d ≠ .contain

instance (c d : Comparator) : Decidable (Alike c d) :=
  decidable_of_iff (c.arity = d.arity ∧ c ≠ .contain ∧ d ≠ .contain)
    ⟨fun h => ⟨h.1, h.2.1, h.2.2⟩, fun h => ⟨h.arity, h.first, h.second⟩⟩

theorem Alike.valuesFor_eq (alike : Alike c d) (k : Text) : valuesFor c k = valuesFor d k := by
  unfold valuesFor
  rw [alike.arity]
  cases d.arity with
  | list =>
    dsimp only
    rw [if_neg fun both => alike.first both.1, if_neg fun both => alike.second both.1]
  | _ => rfl

/-- Comparators that take their controls alike make filters that differ in nothing else. -/
theorem Alike.make_with (alike : Alike c d) (made : (make s c k).result = .ok f) :
    (make s d k).result = .ok { f with comparator := d } := by
  obtain ⟨subject, vs, values, rfl⟩ := make_ok_iff.mp made
  rw [alike.valuesFor_eq] at values
  exact make_eq_ok subject values

/-! ## A comparator and its negation -/

/-- A filter with a comparator and a filter with its negation, made from one subject and the
same controls. -/
structure Opposed (s k : Text) (c d : Comparator) (f g : Filter) : Prop where
  opposite : (c, d) ∈ opposites
  made : (make s c k).result = .ok f
  negation : (make s d k).result = .ok g

theorem Opposed.eq (opposed : Opposed s k c d f g) :
    f.comparator = c ∧ g = { f with comparator := d } := by
  have alike : ∀ pair ∈ opposites, Alike pair.1 pair.2 := by decide
  have made := (alike _ opposed.opposite).make_with opposed.made
  rw [opposed.negation] at made
  obtain ⟨_, _, _, rfl⟩ := make_ok_iff.mp opposed.made
  exact ⟨rfl, Except.ok.inj made⟩

theorem values_of_isEmptyList (made : (make s d k).result = .ok g) (negation : d ∈ nonMembership)
    (empty : isEmptyList g.controls = true) : g.values = [] := by
  have catalog : ∀ d ∈ nonMembership, d.arity = .list ∧ d ≠ .contain := by decide
  obtain ⟨_, vs, values, rfl⟩ := make_ok_iff.mp made
  rw [valuesFor_list (catalog d negation).1 (.inl (catalog d negation).2),
    readList_of_isEmptyList empty] at values
  exact (Except.ok.inj values).symm

theorem Opposed.evaluate {mode : Mode} {actual : Text} (opposed : Opposed s k c d f g)
    (allowed : mode.allows c = true)
    (counts : c ∈ membership → (mode.isLiteral && actual.isEmpty) = false) :
    ∃ holds, (Evaluation.evaluate f mode actual).result = .ok holds ∧
      (Evaluation.evaluate g mode actual).result = .ok !holds := by
  have catalog : ∀ pair ∈ opposites, pair.1.mode = pair.2.mode := by decide
  obtain ⟨rfl, rfl⟩ := opposed.eq
  have allowedToo : mode.allows d = true := by
    rw [← allowed, Mode.allows, Mode.allows, catalog _ opposed.opposite]
  rw [evaluate_compares allowed, evaluate_compares allowedToo]
  exact compare_opposite opposed.opposite allowed
    (values_of_isEmptyList (g := { f with comparator := d }) opposed.negation) counts

theorem Opposed.evaluateIn (opposed : Opposed s k c d f g) (names : Context) :
    (g.evaluateIn names).result = !(f.evaluateIn names).result := by
  have answers : ∃ holds,
      (Evaluation.evaluate f (.context names) (names.resolve f.subject)).result = .ok holds ∧
        (Evaluation.evaluate g (.context names) (names.resolve f.subject)).result = .ok !holds :=
    opposed.evaluate (context_allows names c) fun _ => rfl
  obtain ⟨holds, answer, negated⟩ := answers
  have subject : g.subject = f.subject := by rw [opposed.eq.2]
  rw [evaluateIn_result, evaluateIn_result, subject, answer, negated]
  rfl

theorem Opposed.evaluateOn (opposed : Opposed s k c d f g) (anywhere : c.mode = .any)
    {data : Option Text} (counts : c ∈ membership → literalValue data ≠ []) :
    ∃ holds, (f.evaluateOn data).result = .ok holds ∧ (g.evaluateOn data).result = .ok !holds := by
  rw [evaluateOn_result, evaluateOn_result]
  refine opposed.evaluate (allows_of_anywhere anywhere) fun member => ?_
  exact List.isEmpty_eq_false_iff.mpr (counts member)

/-- Literals that are not members are those that are no entries, the empty one included. -/
theorem evaluateOn_notMember (negation : d ∈ nonMembership) (made : (make s d k).result = .ok g)
    (data : Option Text) :
    (g.evaluateOn data).result = .ok (decide (literalValue data ∉ g.values)) := by
  have catalog : ∀ d ∈ nonMembership, d.mode = .any := by decide
  have comparator : g.comparator = d := by
    obtain ⟨_, _, _, rfl⟩ := make_ok_iff.mp made
    rfl
  rw [evaluateOn_result, evaluate_result (comparator ▸ catalog d negation),
    compare_notMember_values (comparator ▸ negation) (values_of_isEmptyList made negation),
    isMember_literal, decide_not]
  rfl

theorem evaluateOn_member_empty (member : f.comparator ∈ membership) {data : Option Text}
    (empty : literalValue data = []) : (f.evaluateOn data).result = .ok true := by
  have catalog : ∀ c ∈ membership, c.mode = .any := by decide
  have which : f.comparator = .is ∨ f.comparator = .isIn := by simpa [membership] using member
  rw [evaluateOn_result, evaluate_result (catalog _ member), compare_member which, ← literalValue,
    empty]
  rfl

/-! ## Two words for one comparator -/

theorem evaluate_synonym (synonym : (f.comparator, d) ∈ synonyms) (mode : Mode) (actual : Text) :
    (Evaluation.evaluate f mode actual).result =
      (Evaluation.evaluate { f with comparator := d } mode actual).result := by
  have catalog : ∀ pair ∈ synonyms, pair.1.mode = .any ∧ pair.2.mode = .any := by decide
  obtain ⟨anywhere, anywhereToo⟩ := catalog _ synonym
  rw [evaluate_result anywhere, evaluate_result anywhereToo, compare_synonym synonym]

/-- Another word for a comparator takes the same controls and gives the same answers. -/
theorem answer_synonym (i : Input) (subject : trim s ≠ []) (synonym : (c, d) ∈ synonyms) :
    i.answer s c k = i.answer s d k := by
  have alike : ∀ pair ∈ synonyms, Alike pair.1 pair.2 := by decide
  have values := (alike _ synonym).valuesFor_eq (trim k)
  cases i with
  | literal data =>
    simp only [Input.answer, answerOn, make_of_subject subject, values]
    cases (valuesFor d (trim k)).result with
    | error e => rfl
    | ok vs =>
      simp only [Except.map, Except.bind, evaluateOn_result]
      exact evaluate_synonym synonym .literal _
  | context names =>
    simp only [Input.answer, answerIn, make_of_subject subject, values]
    cases (valuesFor d (trim k)).result with
    | error e => rfl
    | ok vs =>
      simp only [Except.map, evaluateIn_result]
      rw [evaluate_synonym synonym]

/-! ## The laws of negation -/

/-- What holds of comparators and their negations in the filters made from a subject and
controls. -/
structure NegationLaws (s k : Text) : Prop where
  /-- In a context exactly one of a comparator and its negation holds. -/
  inContext : ∀ c d f g, Opposed s k c d f g → ∀ names : Context,
    (g.evaluateIn names).result = !(f.evaluateIn names).result
  /-- So it is on a literal for the comparators that a literal can answer, but for membership of
  an empty one. -/
  onLiteral : ∀ c d f g, Opposed s k c d f g → c.mode = .any → ∀ data : Option Text,
    (c ∈ membership → literalValue data ≠ []) →
      ∃ holds, (f.evaluateOn data).result = .ok holds ∧ (g.evaluateOn data).result = .ok !holds
  /-- An empty literal is a member of every list, and it is also not a member of every list
  without an empty entry. -/
  onEmpty : ∀ c d f g, Opposed s k c d f g → c ∈ membership → ∀ data : Option Text,
    literalValue data = [] →
      (f.evaluateOn data).result = .ok true ∧
        (g.evaluateOn data).result = .ok (decide ([] ∉ g.values))
  /-- A literal is not a member if it is no entry, -/
  notMember : ∀ d ∈ nonMembership, ∀ g, (make s d k).result = .ok g → ∀ data : Option Text,
    (g.evaluateOn data).result = .ok (decide (literalValue data ∉ g.values))
  /-- also of the list without entries, which would not need a rule of its own. -/
  emptyList : ∀ d ∈ nonMembership, ∀ g, (make s d k).result = .ok g →
    isEmptyList g.controls = true → g.values = []
  /-- There are two words for membership and two for its negation. -/
  reworded : ∀ pair ∈ synonyms, ∀ i : Input, i.answer s pair.1 k = i.answer s pair.2 k

/-- A comparator and its negation are opposites on all that they are asked, but for membership of
an empty literal. -/
theorem negation_laws (subject : trim s ≠ []) (k : Text) : NegationLaws s k where
  inContext _ _ _ _ opposed := opposed.evaluateIn
  onLiteral _ _ _ _ opposed anywhere _ := opposed.evaluateOn anywhere
  onEmpty c d f g opposed member data empty := by
    have negations : ∀ pair ∈ opposites, pair.1 ∈ membership → pair.2 ∈ nonMembership := by decide
    have negation := negations _ opposed.opposite member
    have none := evaluateOn_notMember negation opposed.negation data
    rw [empty] at none
    exact ⟨evaluateOn_member_empty (opposed.eq.1 ▸ member) empty, none⟩
  notMember _ negation _ made data := evaluateOn_notMember negation made data
  emptyList _ negation _ made := values_of_isEmptyList made negation
  reworded _ synonym i := answer_synonym i subject synonym

/-- An empty literal and a list with an empty entry, which it is a member of, and a value that is
no entry. -/
theorem negation_laws_empty_entry :
    let s := "name".toList
    let k := "[a|\"\"]".toList
    let f : Filter := ⟨s, .is, k, ["a".toList, []]⟩
    let g : Filter := ⟨s, .isNot, k, ["a".toList, []]⟩
    trim s ≠ [] ∧ Opposed s k .is .isNot f g ∧
      ((f.evaluateOn (some " ".toList)).result = .ok true ∧
        (g.evaluateOn (some " ".toList)).result = .ok false) ∧
      (g.evaluateOn (some "b".toList)).result = .ok true := by
  intro s k f g
  have subject : trim s ≠ [] := by decide
  have opposed : Opposed s k .is .isNot f g := ⟨by decide, rfl, rfl⟩
  have laws := negation_laws subject k
  have empty := laws.onEmpty _ _ _ _ opposed (by decide) (some " ".toList) (by decide)
  have other := laws.notMember .isNot (by decide) g opposed.negation (some "b".toList)
  exact ⟨subject, opposed, empty, other⟩

end Filter

end Criteria
