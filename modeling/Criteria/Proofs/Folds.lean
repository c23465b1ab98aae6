import Criteria.Proofs.ModeAgreement

/-!
# Lists as folds over their entries

The entries of a list are read when a filter is made or when it is evaluated, and
a text without brackets may be read as the list of this text. Whichever way they
are read, a comparator is asked of each entry apart, and the answers are taken
together.

* `entryHolds`: what a comparator says of one entry.
* `compare_every`, `compare_member_some`, `compare_edge_some`: a comparison with a
  list is `all` or `any` of that.
* `Enumerates`: the answers for lists are a fold of the answers for tokens. Whatever
  enumerates tells apart neither the order nor the repetition of tokens.
* `answer_every`, `answer_some`, `answer_bare`: all comparators that take a list do, in a
  context and on a literal.
* `list_laws`: what this says of the filters of a list of tokens.
-/

namespace Criteria

open Text

namespace Evaluation

/-- The comparators that hold of a list if they hold of every entry. -/
def everyEntry : List Comparator := [.contain, .isNot, .notIn]

/-- The comparators of membership. -/
def membership : List Comparator := [.is, .isIn]

/-- The comparators that test an end of a text take a list by its entries on a literal only; in
a context they take the controls as they stand. -/
def edges (mode : Mode) : List Comparator := if mode.isLiteral then edging else []

/-- The comparators that hold of a list if they hold of some entry. -/
def someEntry (mode : Mode) : List Comparator := membership ++ edges mode

/-- What a comparator says of one entry of a list. An empty literal is a member of every list. -/
def entryHolds (mode : Mode) (actual : Text) (c : Comparator) (entry : Text) : Bool :=
  match c with
  | .is | .isIn => (mode.isLiteral && actual.isEmpty) || mode.resolve entry == actual
  | .isNot | .notIn => !(mode.resolve entry == actual)
  | .contain => occursIn (mode.resolve entry) actual
  | .startsWith => entry.isPrefixOf actual
  | .endsWith => entry.isSuffixOf actual
  | _ => false

variable {f : Filter} {mode : Mode} {actual expected : Text} {vs : List Text}

theorem mem_edges {c : Comparator} (h : c ∈ edges mode) : mode = .literal ∧ c ∈ edging := by
  unfold edges at h
  cases mode with
  | literal => exact ⟨rfl, h⟩
  | context names => cases h

theorem or_any {l : List Text} (ne : l ≠ []) (b : Bool) (p : Text → Bool) :
    (b || l.any p) = l.any fun x => b || p x := by
  cases b with
  | false => rfl
  | true =>
    obtain ⟨x, l, rfl⟩ := List.exists_cons_of_ne_nil ne
    rfl

/-! ## The comparison with a list -/

theorem compare_every (every : f.comparator ∈ everyEntry)
    (filled : Controls.isEmptyList f.controls = false) :
    (compare f mode actual expected).result =
      .ok (f.values.all (entryHolds mode actual f.comparator)) := by
  have which : f.comparator = .contain ∨ f.comparator = .isNot ∨ f.comparator = .notIn := by
    simpa [everyEntry] using every
  cases which with
  | inl contain =>
    rw [compare_contain contain, contain]
    rfl
  | inr other =>
    rw [compare_notMember other, filled, Bool.and_false, Bool.false_or, isMember,
      List.not_any_eq_all_not]
    cases other with
    | inl isNot => rw [isNot]; rfl
    | inr notIn => rw [notIn]; rfl

theorem compare_member_some (member : f.comparator ∈ membership) (ne : f.values ≠ []) :
    (compare f mode actual expected).result =
      .ok (f.values.any (entryHolds mode actual f.comparator)) := by
  have which : f.comparator = .is ∨ f.comparator = .isIn := by simpa [membership] using member
  rw [compare_member which, isMember, or_any ne]
  cases which with
  | inl is => rw [is]; rfl
  | inr isIn => rw [isIn]; rfl

/-- Testing an end of a text is testing the expected text for what is said of an entry. -/
theorem compare_edge (edge : f.comparator ∈ edging) :
    compare f mode actual expected =
      testText f mode expected (entryHolds mode actual f.comparator) := by
  have which : f.comparator = .startsWith ∨ f.comparator = .endsWith := by
    simpa [edging] using edge
  unfold compare
  cases which with
  | inl startsWith => rw [startsWith]; rfl
  | inr endsWith => rw [endsWith]; rfl

/-- A text without brackets is tested itself. -/
theorem compare_edge_single (edge : f.comparator ∈ edging)
    (unbracketed : Controls.isBracketed f.controls = false) :
    (compare f mode actual expected).result =
      .ok (entryHolds mode actual f.comparator expected) := by
  rw [compare_edge edge, testText_plain (.inr unbracketed)]
  rfl

theorem testText_list (read : (Controls.readList f.controls).result = .ok vs)
    (test : Text → Bool) : (testText f .literal expected test).result = .ok (vs.any test) := by
  obtain ⟨inner, found, _⟩ := Controls.readList_ok_iff.mp read
  have bracketed : Controls.isBracketed f.controls = true := Option.isSome_of_eq_some found
  unfold testText
  rw [if_pos (by rw [bracketed]; rfl), Traced.map_result, read]
  rfl

theorem compare_edge_some (edge : f.comparator ∈ edging)
    (read : (Controls.readList f.controls).result = .ok vs) :
    (compare f .literal actual expected).result =
      .ok (vs.any (entryHolds .literal actual f.comparator)) := by
  rw [compare_edge edge, testText_list read]

end Evaluation

namespace Filter

open Controls Evaluation

/-! ## What a filter is evaluated on -/

/-- What a filter is evaluated on: a literal value, which may be missing, or a context. -/
inductive Input where
  | literal (data : Option Text)
  | context (names : Context)

namespace Input

def mode : Input → Mode
  | literal _ => .literal
  | context names => .context names

/-- The answer of a filter that is made from its parts. -/
def answer (s : Text) (c : Comparator) : Input → Text → Except FilterError Bool
  | literal data, k => answerOn s c k data
  | context names, k => answerIn s c k names

/-- The text of the subject. -/
def actual (s : Text) : Input → Text
  | literal data => scalar (data.getD missingLiteral)
  | context names => names.resolve (trim s)

/-- The text to compare with. -/
def expected (k : Text) : Input → Text
  | literal _ => scalar k
  | context names => names.resolve (trim k)

variable {s k : Text} {c : Comparator} {vs : List Text} {i : Input} {holds : Bool}

theorem answer_eq (subject : trim s ≠ []) (values : (valuesFor c (trim k)).result = .ok vs)
    (anywhere : c.mode = .any)
    (compared : (Evaluation.compare ⟨trim s, c, trim k, vs⟩ i.mode (i.actual s)
      (i.expected k)).result = .ok holds) : i.answer s c k = .ok holds := by
  cases i with
  | literal data => exact (answerOn_eq subject values anywhere data).trans compared
  | context names =>
    rw [answer, answerIn_eq subject values anywhere names]
    exact congrArg (fun result => Except.ok (result.toOption.getD false)) compared

end Input

/-! ## Folds -/

/-- A text that can be an entry of a list: it is not blank and holds no separator. -/
structure IsToken (t : Text) : Prop where
  filled : trim t ≠ []
  apart : '|' ∉ t

instance (t : Text) : Decidable (IsToken t) :=
  decidable_of_iff (trim t ≠ [] ∧ '|' ∉ t) ⟨fun h => ⟨h.1, h.2⟩, fun h => ⟨h.filled, h.apart⟩⟩

/-- A way to take the answers for the entries of a list together. -/
structure IsFold (fold : List Text → (Text → Bool) → Bool) : Prop where
  singleton : ∀ t holds, fold [t] holds = holds t
  unordered : ∀ us ts holds, (∀ t, t ∈ us ↔ t ∈ ts) → fold us holds = fold ts holds

theorem all_isFold : IsFold List.all where
  singleton _ _ := Bool.and_true _
  unordered us ts holds same := by
    rw [Bool.eq_iff_iff, List.all_eq_true, List.all_eq_true]
    exact forall_congr' fun t => imp_congr_left (same t)

theorem any_isFold : IsFold List.any where
  singleton _ _ := Bool.or_false _
  unordered us ts holds same := by
    rw [Bool.eq_iff_iff, List.any_eq_true, List.any_eq_true]
    exact exists_congr fun t => and_congr_left fun _ => same t

/-- The answer for a list is the fold of the answers for the lists of one token of it. -/
def Folds (ask : Text → Except FilterError Bool) (fold : List Text → (Text → Bool) → Bool)
    (ts : List Text) : Prop :=
  ∃ holds, (∀ t ∈ ts, ask (listed [t]) = .ok (holds t)) ∧ ask (listed ts) = .ok (fold ts holds)

/-- The answers for all lists are the folds of one answer for each token. -/
def Enumerates (ask : Text → Except FilterError Bool)
    (fold : List Text → (Text → Bool) → Bool) : Prop :=
  ∃ holds, ∀ ts, ts ≠ [] → (∀ t ∈ ts, IsToken t) → ask (listed ts) = .ok (fold ts holds)

namespace Enumerates

variable {ask : Text → Except FilterError Bool} {fold : List Text → (Text → Bool) → Bool}
  {ts us : List Text}

theorem folds (enumerates : Enumerates ask fold) (isFold : IsFold fold) (ne : ts ≠ [])
    (tokens : ∀ t ∈ ts, IsToken t) : Folds ask fold ts := by
  obtain ⟨holds, answers⟩ := enumerates
  refine ⟨holds, fun t mem => ?_, answers ts ne tokens⟩
  have token : ∀ u ∈ [t], IsToken u := List.forall_mem_singleton.mpr (tokens t mem)
  rw [answers [t] (List.cons_ne_nil t []) token, isFold.singleton]

theorem unordered (enumerates : Enumerates ask fold) (isFold : IsFold fold) (ne : ts ≠ [])
    (tokens : ∀ t ∈ ts, IsToken t) (same : ∀ t, t ∈ us ↔ t ∈ ts) :
    ask (listed us) = ask (listed ts) := by
  obtain ⟨holds, answers⟩ := enumerates
  obtain ⟨t, mem⟩ := List.exists_mem_of_ne_nil ts ne
  have others : us ≠ [] := List.ne_nil_of_mem ((same t).mpr mem)
  rw [answers us others fun u mem => tokens u ((same u).mp mem), answers ts ne tokens,
    isFold.unordered us ts holds same]

end Enumerates

/-! ## The comparators that take a list -/

theorem readList_tokens {ts : List Text} (tokens : ∀ t ∈ ts, IsToken t) :
    (readList (trim (listed ts))).result = .ok (ts.map scalar) := by
  rw [trim_listed]
  exact readList_listed (fun t mem => (tokens t mem).filled) fun t mem => (tokens t mem).apart

theorem valuesFor_tokens {c : Comparator} {ts : List Text} (list : c.arity = .list)
    (tokens : ∀ t ∈ ts, IsToken t) :
    (valuesFor c (trim (listed ts))).result = .ok (ts.map scalar) := by
  have bracketed : isBracketed (trim (listed ts)) = true := by
    rw [trim_listed]
    exact isBracketed_listed ts
  rw [valuesFor_list list (.inr bracketed), readList_tokens tokens]

theorem edging_mode : ∀ c ∈ edging, c.mode = .any ∧ c.arity = .scalar := by decide

theorem valuesFor_edge {c : Comparator} (edge : c ∈ edging) (k : Text) :
    (valuesFor c k).result = .ok [] :=
  valuesFor_unread (.inr (edging_mode c edge).2) k

variable {s t : Text} {c : Comparator} {ts : List Text}

theorem answer_every (i : Input) (subject : trim s ≠ []) (every : c ∈ everyEntry) (ne : ts ≠ [])
    (tokens : ∀ t ∈ ts, IsToken t) :
    i.answer s c (listed ts) = .ok (ts.all (entryHolds i.mode (i.actual s) c ∘ scalar)) := by
  have catalog : ∀ c ∈ everyEntry, c.mode = .any ∧ c.arity = .list := by decide
  have filled : isEmptyList (trim (listed ts)) = false := by
    rw [trim_listed]
    exact isEmptyList_listed ne fun t mem => (tokens t mem).filled
  rw [← List.all_map]
  exact Input.answer_eq subject (valuesFor_tokens (catalog c every).2 tokens) (catalog c every).1
    (compare_every every filled)

theorem answer_some (i : Input) (subject : trim s ≠ []) (some : c ∈ someEntry i.mode) (ne : ts ≠ [])
    (tokens : ∀ t ∈ ts, IsToken t) :
    i.answer s c (listed ts) = .ok (ts.any (entryHolds i.mode (i.actual s) c ∘ scalar)) := by
  rw [← List.any_map]
  cases List.mem_append.mp some with
  | inl member =>
    have catalog : ∀ c ∈ membership, c.mode = .any ∧ c.arity = .list := by decide
    have entries : ts.map scalar ≠ [] := by simpa using ne
    exact Input.answer_eq subject (valuesFor_tokens (catalog c member).2 tokens)
      (catalog c member).1 (compare_member_some member entries)
  | inr edge =>
    -- the filter holds no values: its controls are read again when it is evaluated
    obtain ⟨literal, edge⟩ := mem_edges edge
    refine Input.answer_eq subject (valuesFor_edge edge _) (edging_mode c edge).1 ?_
    rw [literal]
    exact compare_edge_some edge (readList_tokens tokens)

/-- Containment takes a text without brackets for the list of this text, and so do on a literal
the tests of an end. -/
theorem answer_bare (i : Input) (subject : trim s ≠ []) (token : IsToken t)
    (bare : isBracketed t = false) (textual : c ∈ .contain :: edges i.mode) :
    i.answer s c t = i.answer s c (listed [t]) := by
  have tokens : ∀ u ∈ [t], IsToken u := List.forall_mem_singleton.mpr token
  have unbracketed : isBracketed (trim t) = false := (isBracketed_trim t).trans bare
  cases List.mem_cons.mp textual with
  | inl contain =>
    have every : c ∈ everyEntry := by
      rw [contain]
      decide
    have single : (valuesFor c (trim t)).result = .ok [scalar t] := by
      rw [contain, valuesFor_single unbracketed, ← scalar_trim t]
      rfl
    rw [answer_every i subject every (List.cons_ne_nil t []) tokens]
    refine Input.answer_eq subject single (by rw [contain]; rfl) ?_
    rw [compare_contain contain, contain]
    rfl
  | inr edge =>
    have some : c ∈ someEntry i.mode := List.mem_append_right membership edge
    rw [answer_some i subject some (List.cons_ne_nil t []) tokens, any_isFold.singleton]
    cases i with
    | context names => cases edge
    | literal data =>
      exact Input.answer_eq subject (valuesFor_edge edge _) (edging_mode c edge).1
        (compare_edge_single edge unbracketed)

/-! ## The laws of lists -/

/-- What holds of the filters whose controls are a list of tokens, on every literal value and in
every context. -/
structure ListLaws (s : Text) (ts : List Text) : Prop where
  every : ∀ i : Input, ∀ c ∈ everyEntry, Folds (i.answer s c) List.all ts
  some : ∀ i : Input, ∀ c ∈ someEntry i.mode, Folds (i.answer s c) List.any ts
  /-- Neither the order of the tokens nor their repetition is seen. -/
  unordered : ∀ us, (∀ t, t ∈ us ↔ t ∈ ts) → ∀ i : Input, ∀ c ∈ everyEntry ++ someEntry i.mode,
    i.answer s c (listed us) = i.answer s c (listed ts)
  /-- A token that is no list itself may stand without brackets. -/
  bare : ∀ t ∈ ts, isBracketed t = false → ∀ i : Input, ∀ c ∈ .contain :: edges i.mode,
    i.answer s c t = i.answer s c (listed [t])

/-- Every comparator that takes a list answers by its entries. -/
theorem list_laws (subject : trim s ≠ []) (ne : ts ≠ []) (tokens : ∀ t ∈ ts, IsToken t) :
    ListLaws s ts := by
  have every (i : Input) {c : Comparator} (mem : c ∈ everyEntry) :
      Enumerates (i.answer s c) List.all := ⟨_, fun _ => answer_every i subject mem⟩
  have some (i : Input) {c : Comparator} (mem : c ∈ someEntry i.mode) :
      Enumerates (i.answer s c) List.any := ⟨_, fun _ => answer_some i subject mem⟩
  refine ⟨fun i c mem => (every i mem).folds all_isFold ne tokens,
    fun i c mem => (some i mem).folds any_isFold ne tokens, fun us same i c mem => ?_,
    fun t mem bare i c textual => answer_bare i subject (tokens t mem) bare textual⟩
  cases List.mem_append.mp mem with
  | inl mem => exact (every i mem).unordered all_isFold ne tokens same
  | inr mem => exact (some i mem).unordered any_isFold ne tokens same

/-- A token with a blank behind it and one in quotes, and the same tokens in another order and one
of them twice. -/
theorem list_laws_repeated :
    let s := "name".toList
    let ts := ["a ".toList, "\"b\"".toList]
    let us := ["\"b\"".toList, "a ".toList, "\"b\"".toList]
    let i := Input.literal (some "ab".toList)
    trim s ≠ [] ∧ ts ≠ [] ∧ (∀ t ∈ ts, IsToken t) ∧ ListLaws s ts ∧
      i.answer s .contain (listed us) = i.answer s .contain (listed ts) ∧
      i.answer s .startsWith "a ".toList = i.answer s .startsWith "[a ]".toList := by
  intro s ts us i
  have subject : trim s ≠ [] := by decide
  have tokens : ∀ t ∈ ts, IsToken t := by decide
  have laws := list_laws subject (List.cons_ne_nil _ _) tokens
  have same (t : Text) : t ∈ us ↔ t ∈ ts := by
    simp only [us, ts, List.mem_cons]
    grind
  exact ⟨subject, List.cons_ne_nil _ _, tokens, laws,
    laws.unordered us same i .contain (by decide),
    laws.bare "a ".toList (by decide) (by decide) i .startsWith (by decide)⟩

end Filter

end Criteria
