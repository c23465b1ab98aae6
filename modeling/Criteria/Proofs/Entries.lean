import Criteria.Proofs.Values

/-!
# The entries of a control text

Entries are cut out of a control text and freed of what stands around them. Each
of them is a stretch of the text, and a text put together from values without a
separator comes apart into these values again.

* `split_append`, `split_of_not_mem`: where a text comes apart.
* `trimStart_append_cons`, `trimEnd_append_cons`: a firm character inside a text
  keeps the blanks on its two sides apart.
* `entries_joined`: tokens with separators between them are the entries of what
  they are joined to, but for the blanks at its two ends and for empty tokens.
* `kept`, `map_entries_joined`: so the tokens that count are all but the empty ones, and
  but for blank ones at the two ends.
* `values_joined`, `readList_listed`: tokens that are not blank are read as values
  one by one.
* `readRange_pair_eq`: a pair of tokens is read as a range if neither of them is blank.
* `valuesFor_isInfix`: the control values of a comparator are stretches of its
  controls.
-/

namespace Criteria

namespace Text

/-! ## Trimming around a character -/

theorem trimStart_append_cons {c : Char} (hc : isBlank c = false) (a b : Text) :
    trimStart (a ++ c :: b) = trimStart a ++ c :: b := by
  by_cases blank : trimStart a = []
  · rw [trimStart_blanks_append (allBlank_of_trimStart_eq_nil blank), trimStart_cons_firm hc, blank]
    rfl
  · exact trimStart_append blank (c :: b)

theorem trimEnd_append_cons {c : Char} (hc : isBlank c = false) (a b : Text) :
    trimEnd (a ++ c :: b) = a ++ c :: trimEnd b := by
  obtain ⟨e, he, split, firm⟩ := trimEnd_split b
  have finish : FirmEnd (a ++ c :: trimEnd b) := by
    refine FirmEnd.append_of_ne_nil ?_ (List.cons_ne_nil _ _)
    by_cases none : trimEnd b = []
    · rw [none]
      intro d hd
      cases hd
      exact hc
    · exact FirmEnd.append_of_ne_nil (s := [c]) firm none
  have whole : a ++ c :: b = (a ++ c :: trimEnd b) ++ e := by
    rw [List.append_assoc, List.cons_append, ← split]
  rw [whole, trimEnd_append_blanks finish he]

theorem trim_trimStart (t : Text) : trim (trimStart t) = trim t := by
  rw [trim, trim, trimStart_of_firmStart (trimStart_firmStart t)]

theorem trim_trimEnd (t : Text) : trim (trimEnd t) = trim t := by
  obtain ⟨e, he, split, _⟩ := trimEnd_split t
  have trimmed := trim_append_blanks (t := trimEnd t) he
  rw [← split] at trimmed
  exact trimmed.symm

theorem mem_of_mem_trimStart {c : Char} {t : Text} (h : c ∈ trimStart t) : c ∈ t :=
  (List.dropWhile_sublist _).subset h

theorem mem_of_mem_trimEnd {c : Char} {t : Text} (h : c ∈ trimEnd t) : c ∈ t := by
  obtain ⟨e, _, split, _⟩ := trimEnd_split t
  rw [split]
  exact List.mem_append_left e h

/-! ## Coming apart -/

theorem split_of_not_mem {separator : Char} {t : Text} (h : separator ∉ t) :
    split separator t = [t] := by
  induction t with
  | nil => rfl
  | cons c t ih =>
    have other : c ≠ separator := fun same => h (same ▸ List.mem_cons_self)
    obtain ⟨field, more, rest, whole⟩ := split_cons separator c t
    rw [ih (List.not_mem_of_not_mem_cons h)] at rest
    cases rest
    rw [whole, if_neg other]

/-- The first separator ends the first field. -/
theorem split_append {separator : Char} {a : Text} (h : separator ∉ a) (t : Text) :
    split separator (a ++ separator :: t) = a :: split separator t := by
  induction a with
  | nil =>
    obtain ⟨field, more, rest, whole⟩ := split_cons separator separator t
    rw [List.nil_append, whole, if_pos rfl, rest]
  | cons c a ih =>
    have other : c ≠ separator := fun same => h (same ▸ List.mem_cons_self)
    obtain ⟨field, more, rest, whole⟩ := split_cons separator c (a ++ separator :: t)
    rw [ih (List.not_mem_of_not_mem_cons h)] at rest
    cases rest
    rw [List.cons_append, whole, if_neg other]

/-! ## Stretches of a text -/

theorem trim_isInfix (t : Text) : trim t <:+: t := by
  obtain ⟨b, e, _, _, split, _⟩ := trim_split t
  exact ⟨b, e, split.symm⟩

theorem inside?_isInfix {opening closing : Char} {t inner : Text}
    (h : inside? opening closing t = some inner) : inner <:+: t := by
  rw [inside?_eq_some h]
  exact ⟨[opening], [closing], rfl⟩

theorem unwrap_isInfix (mark : Char) (t : Text) : unwrap mark t <:+: t := by
  rw [unwrap]
  cases inner : inside? mark mark t with
  | none => exact List.infix_refl t
  | some u => exact inside?_isInfix inner

/-- The first field opens the text, and the others are stretches of it. -/
theorem split_stretches (separator : Char) (t : Text) : ∃ field more,
    split separator t = field :: more ∧ field <+: t ∧ ∀ other ∈ more, other <:+: t := by
  induction t with
  | nil => exact ⟨[], [], rfl, List.nil_prefix, fun _ h => nomatch h⟩
  | cons c t ih =>
    obtain ⟨field, more, whole, opens, stretches⟩ := ih
    obtain ⟨_, _, rest, split⟩ := split_cons separator c t
    rw [whole] at rest
    cases rest
    rw [split]
    -- behind a separator the first field of the rest becomes one of the others
    by_cases same : c = separator
    · refine ⟨[], field :: more, if_pos same, List.nil_prefix, fun other mem => ?_⟩
      cases List.mem_cons.mp mem with
      | inl first => exact first ▸ List.infix_cons opens.isInfix
      | inr later => exact List.infix_cons (stretches other later)
    · exact ⟨c :: field, more, if_neg same, List.cons_prefix_cons.mpr ⟨rfl, opens⟩,
        fun other mem => List.infix_cons (stretches other mem)⟩

theorem split_isInfix {separator : Char} {t field : Text} (h : field ∈ split separator t) :
    field <:+: t := by
  obtain ⟨first, more, whole, opens, stretches⟩ := split_stretches separator t
  rw [whole] at h
  cases List.mem_cons.mp h with
  | inl same => exact same ▸ opens.isInfix
  | inr later => exact stretches field later

end Text

namespace Controls

open Text

theorem scalar_isInfix (t : Text) : scalar t <:+: t :=
  (unwrap_isInfix '"' (trim t)).trans (trim_isInfix t)

theorem scalar_trim (t : Text) : scalar (trim t) = scalar t := by
  rw [scalar, trim_trim, scalar]

theorem scalar_trimStart (t : Text) : scalar (trimStart t) = scalar t := by
  rw [← scalar_trim, trim_trimStart, scalar_trim]

theorem scalar_trimEnd (t : Text) : scalar (trimEnd t) = scalar t := by
  rw [← scalar_trim, trim_trimEnd, scalar_trim]

/-- Without double quotes a value is only trimmed. -/
theorem scalar_unquoted {t : Text} (h : '"' ∉ t) : scalar t = trim t :=
  unwrap_of_not_mem fun mem => h (mem_of_mem_trim mem)

/-! ## Tokens with separators between them -/

/-- Tokens with separators between them. -/
def joined (tokens : List Text) : Text := ['|'].intercalate tokens

theorem joined_singleton (t : Text) : joined [t] = t := List.intercalate_singleton

theorem joined_cons {t : Text} {ts : List Text} (more : ts ≠ []) :
    joined (t :: ts) = t ++ '|' :: joined ts := by
  rw [joined, List.intercalate_cons_of_ne_nil more, List.append_assoc]
  rfl

theorem mem_joined {c : Char} {t : Text} {ts : List Text} (token : t ∈ ts) (mem : c ∈ t) :
    c ∈ joined ts := by
  induction ts with
  | nil => cases token
  | cons u ts ih =>
    cases ts with
    | nil =>
      rw [joined_singleton, ← List.mem_singleton.mp token]
      exact mem
    | cons v ts =>
      rw [joined_cons (List.cons_ne_nil v ts)]
      cases List.mem_cons.mp token with
      | inl first => exact List.mem_append_left _ (first ▸ mem)
      | inr later => exact List.mem_append_right _ (List.mem_cons_of_mem _ (ih later))

theorem mem_of_mem_joined {c : Char} {ts : List Text} (mem : c ∈ joined ts) :
    c = '|' ∨ ∃ t ∈ ts, c ∈ t := by
  induction ts with
  | nil => cases mem
  | cons t ts ih =>
    cases ts with
    | nil => exact .inr ⟨t, List.mem_cons_self, joined_singleton t ▸ mem⟩
    | cons u ts =>
      rw [joined_cons (List.cons_ne_nil u ts)] at mem
      rcases List.mem_append.mp mem with first | rest
      · exact .inr ⟨t, List.mem_cons_self, first⟩
      · rcases List.mem_cons.mp rest with separator | later
        · exact .inl separator
        · exact (ih later).imp_right fun ⟨v, token, inToken⟩ =>
            ⟨v, List.mem_cons_of_mem t token, inToken⟩

theorem split_joined {ts : List Text} (ne : ts ≠ []) (apart : ∀ t ∈ ts, '|' ∉ t) :
    split '|' (joined ts) = ts := by
  induction ts with
  | nil => exact absurd rfl ne
  | cons t ts ih =>
    cases ts with
    | nil => rw [joined_singleton, split_of_not_mem (apart t List.mem_cons_self)]
    | cons u ts =>
      rw [joined_cons (List.cons_ne_nil u ts), split_append (apart t List.mem_cons_self),
        ih (List.cons_ne_nil u ts) fun v mem => apart v (List.mem_cons_of_mem t mem)]

/-- The tokens, the first one without the blanks before it. -/
def trimFirst : List Text → List Text
  | [] => []
  | t :: ts => trimStart t :: ts

/-- The tokens, the last one without the blanks after it. -/
def trimLast : List Text → List Text
  | [] => []
  | [t] => [trimEnd t]
  | t :: u :: ts => t :: trimLast (u :: ts)

theorem trimLast_ne_nil {ts : List Text} (ne : ts ≠ []) : trimLast ts ≠ [] := by
  cases ts with
  | nil => exact absurd rfl ne
  | cons t ts => cases ts <;> exact List.cons_ne_nil _ _

theorem trimStart_joined (ts : List Text) : trimStart (joined ts) = joined (trimFirst ts) := by
  cases ts with
  | nil => rfl
  | cons t ts =>
    cases ts with
    | nil => rw [trimFirst, joined_singleton, joined_singleton]
    | cons u ts =>
      have more := List.cons_ne_nil u ts
      rw [trimFirst, joined_cons more, joined_cons more, trimStart_append_cons (by decide)]

theorem trimEnd_joined (ts : List Text) : trimEnd (joined ts) = joined (trimLast ts) := by
  induction ts with
  | nil => rfl
  | cons t ts ih =>
    cases ts with
    | nil => rw [trimLast, joined_singleton, joined_singleton]
    | cons u ts =>
      have more := List.cons_ne_nil u ts
      rw [trimLast, joined_cons more, joined_cons (trimLast_ne_nil more),
        trimEnd_append_cons (by decide), ih]

theorem forall_mem_trimFirst {p : Text → Prop} {ts : List Text} (h : ∀ t ∈ ts, p t)
    (start : ∀ t, p t → p (trimStart t)) : ∀ t ∈ trimFirst ts, p t := by
  cases ts with
  | nil => exact h
  | cons t ts =>
    obtain ⟨first, later⟩ := List.forall_mem_cons.mp h
    exact List.forall_mem_cons.mpr ⟨start t first, later⟩

theorem forall_mem_trimLast {p : Text → Prop} {ts : List Text} (h : ∀ t ∈ ts, p t)
    (finish : ∀ t, p t → p (trimEnd t)) : ∀ t ∈ trimLast ts, p t := by
  induction ts with
  | nil => exact h
  | cons t ts ih =>
    obtain ⟨first, later⟩ := List.forall_mem_cons.mp h
    cases ts with
    | nil => exact List.forall_mem_singleton.mpr (finish t first)
    | cons u ts => exact List.forall_mem_cons.mpr ⟨first, ih later⟩

theorem trimLast_concat (ts : List Text) (u : Text) : trimLast (ts ++ [u]) = ts ++ [trimEnd u] := by
  induction ts with
  | nil => rfl
  | cons t ts ih =>
    have more : ts ++ [u] ≠ [] := List.append_ne_nil_of_right_ne_nil ts (List.cons_ne_nil u [])
    obtain ⟨v, vs, later⟩ := List.exists_cons_of_ne_nil more
    rw [List.cons_append, later, trimLast, ← later, ih]
    rfl

/-- Joined tokens come apart into these tokens, without the blanks at the two ends of the row and
without empty tokens. -/
theorem entries_joined {ts : List Text} (ne : ts ≠ []) (apart : ∀ t ∈ ts, '|' ∉ t) :
    entries (joined ts) = (trimLast (trimFirst ts)).filter fun entry => !entry.isEmpty := by
  have first : trimFirst ts ≠ [] := by
    cases ts with
    | nil => exact absurd rfl ne
    | cons t ts => exact List.cons_ne_nil _ _
  have apartFirst : ∀ t ∈ trimFirst ts, '|' ∉ t :=
    forall_mem_trimFirst apart fun _ free mem => free (mem_of_mem_trimStart mem)
  have apartBoth : ∀ t ∈ trimLast (trimFirst ts), '|' ∉ t :=
    forall_mem_trimLast apartFirst fun _ free mem => free (mem_of_mem_trimEnd mem)
  rw [entries, trim, trimStart_joined, trimEnd_joined,
    split_joined (trimLast_ne_nil first) apartBoth]

/-! ## Tokens that count -/

/-- The token holds more than blanks. -/
def isFilled (t : Text) : Bool := !(trim t).isEmpty

theorem isFilled_iff {t : Text} : isFilled t = true ↔ trim t ≠ [] := by
  rw [isFilled, Bool.not_eq_true', List.isEmpty_eq_false_iff]

/-- A token at an end of a row counts if it is not blank, and any other if it is not empty. -/
def counts (length : Nat) (token : Text × Nat) : Bool :=
  if token.2 = 0 ∨ token.2 + 1 = length then isFilled token.1 else !token.1.isEmpty

/-- The tokens of a row that count, in their order. -/
def kept (tokens : List Text) : List Text :=
  (tokens.zipIdx.filter (counts tokens.length)).map Prod.fst

theorem kept_end {length i : Nat} (atEnd : i = 0 ∨ i + 1 = length) (t : Text) :
    ([(t, i)].filter (counts length)).map Prod.fst = [t].filter isFilled := by
  rw [List.filter_cons, List.filter_cons, counts, if_pos atEnd]
  split <;> rfl

/-- Between the ends of a row only empty tokens do not count. -/
theorem kept_between {length start : Nat} {ts : List Text} (first : 0 < start)
    (last : start + ts.length < length) :
    ((ts.zipIdx start).filter (counts length)).map Prod.fst = ts.filter fun t => !t.isEmpty := by
  induction ts generalizing start with
  | nil => rfl
  | cons t ts ih =>
    rw [List.length_cons] at last
    have between : ¬ (start = 0 ∨ start + 1 = length) := by omega
    have later := ih (Nat.succ_pos start) (by omega)
    rw [List.zipIdx_cons, List.filter_cons, List.filter_cons, counts, if_neg between]
    split
    next => exact congrArg (t :: ·) later
    next => exact later

theorem kept_singleton (t : Text) : kept [t] = [t].filter isFilled := kept_end (.inl rfl) t

theorem kept_ends (t u : Text) (ts : List Text) :
    kept (t :: (ts ++ [u])) =
      [t].filter isFilled ++ ((ts.filter fun t => !t.isEmpty) ++ [u].filter isFilled) := by
  have long : (t :: (ts ++ [u])).length = ts.length + 2 := by simp
  have row : (t :: (ts ++ [u])).zipIdx = [(t, 0)] ++ (ts.zipIdx 1 ++ [(u, 1 + ts.length)]) := by
    rw [List.zipIdx_cons, List.zipIdx_append, List.zipIdx_singleton]
    rfl
  rw [kept, row, long, List.filter_append, List.filter_append, List.map_append, List.map_append,
    kept_end (.inl rfl), kept_between (by decide) (by omega), kept_end (.inr (by omega))]

theorem kept_of_filled {ts : List Text} (filled : ∀ t ∈ ts, trim t ≠ []) : kept ts = ts := by
  have all : ts.zipIdx.filter (counts ts.length) = ts.zipIdx := by
    refine List.filter_eq_self.mpr fun token mem => ?_
    have more := filled token.1 (List.fst_mem_of_mem_zipIdx mem)
    rw [counts]
    split
    next => exact isFilled_iff.mpr more
    next =>
      rw [Bool.not_eq_true', List.isEmpty_eq_false_iff]
      rintro none
      exact more (by rw [none]; rfl)
  rw [kept, all, List.zipIdx_map_fst]

/-- An end of a row that lost its blanks is empty if it was blank. -/
theorem map_end {α : Type} {f : Text → α} {t trimmed : Text} (same : f trimmed = f t)
    (blank : trimmed = [] ↔ trim t = []) :
    ([trimmed].filter fun t => !t.isEmpty).map f = ([t].filter isFilled).map f := by
  have filled : (!trimmed.isEmpty) = isFilled t := by
    rw [isFilled, Bool.eq_iff_iff, Bool.not_eq_true', Bool.not_eq_true', List.isEmpty_eq_false_iff,
      List.isEmpty_eq_false_iff]
    exact not_congr blank
  rw [List.filter_cons, List.filter_cons, filled]
  split
  next => exact congrArg (fun v => [v]) same
  next => rfl

/-- Joined tokens come apart into the tokens that count, but for blanks that are trimmed anyway. -/
theorem map_entries_joined {α : Type} {f : Text → α} (start : ∀ t, f (trimStart t) = f t)
    (finish : ∀ t, f (trimEnd t) = f t) {ts : List Text} (ne : ts ≠ []) (apart : ∀ t ∈ ts, '|' ∉ t) :
    (entries (joined ts)).map f = (kept ts).map f := by
  obtain ⟨t, ts, rfl⟩ := List.exists_cons_of_ne_nil ne
  rw [entries_joined ne apart, trimFirst]
  rcases List.eq_nil_or_concat ts with rfl | ⟨middle, u, rfl⟩
  · rw [kept_singleton]
    exact map_end ((finish _).trans (start t)) Iff.rfl
  · have startBlank : trimStart t = [] ↔ trim t = [] :=
      trimStart_eq_nil_iff.trans trim_eq_nil_iff.symm
    have finishBlank : trimEnd u = [] ↔ trim u = [] := trimEnd_eq_nil_iff.trans trim_eq_nil_iff.symm
    have row : trimLast (trimStart t :: (middle ++ [u])) = [trimStart t] ++ (middle ++ [trimEnd u]) :=
      trimLast_concat (trimStart t :: middle) u
    rw [List.concat_eq_append, row, kept_ends]
    simp only [List.filter_append, List.map_append, map_end (start t) startBlank,
      map_end (finish u) finishBlank]

theorem map_scalar_entries {ts : List Text} (ne : ts ≠ []) (apart : ∀ t ∈ ts, '|' ∉ t) :
    (entries (joined ts)).map scalar = (kept ts).map scalar :=
  map_entries_joined scalar_trimStart scalar_trimEnd ne apart

/-- Tokens that are not blank are read as values one by one. -/
theorem values_joined {ts : List Text} (filled : ∀ t ∈ ts, trim t ≠ []) (apart : ∀ t ∈ ts, '|' ∉ t) :
    (entries (joined ts)).map scalar = ts.map scalar := by
  cases Decidable.em (ts = []) with
  | inl none => rw [none]; rfl
  | inr some => rw [map_scalar_entries some apart, kept_of_filled filled]

/-! ## Lists in brackets -/

theorem trim_brackets (inner : Text) :
    trim ('[' :: (inner ++ [']'])) = '[' :: (inner ++ [']']) :=
  trim_enclosed (by decide) (by decide) inner

theorem interior?_brackets (inner : Text) : interior? ('[' :: (inner ++ [']'])) = some inner := by
  rw [interior?, trim_brackets, inside?_enclosed]

theorem interior?_padded {b e : Text} (before : AllBlank b) (behind : AllBlank e) (inner : Text) :
    interior? (b ++ '[' :: (inner ++ [']']) ++ e) = some inner := by
  rw [interior?, trim_blanks_append before behind, ← interior?, interior?_brackets]

/-- Tokens as they are written in a list. -/
def listed (tokens : List Text) : Text := '[' :: (joined tokens ++ [']'])

theorem trim_listed (ts : List Text) : trim (listed ts) = listed ts := trim_brackets (joined ts)

theorem isBracketed_listed (ts : List Text) : isBracketed (listed ts) = true :=
  Option.isSome_of_eq_some (interior?_brackets (joined ts))

theorem isBracketed_trim (k : Text) : isBracketed (trim k) = isBracketed k := by
  rw [isBracketed, isBracketed, interior?, interior?, trim_trim]

/-- A list in brackets is the empty list if nothing but blanks is between them. -/
theorem isEmptyList_brackets_iff {inner : Text} :
    isEmptyList ('[' :: (inner ++ [']'])) = true ↔ AllBlank inner := by
  have squeezed : squeeze ('[' :: (inner ++ [']'])) = '[' :: (squeeze inner ++ [']']) := by
    rw [squeeze, squeeze, List.filter_cons_of_pos (by decide), List.filter_append]
    rfl
  rw [isEmptyList, squeezed, beq_iff_eq, List.cons.injEq, List.append_left_eq_self]
  simp [squeeze, AllBlank]

theorem isEmptyList_listed {ts : List Text} (ne : ts ≠ []) (filled : ∀ t ∈ ts, trim t ≠ []) :
    isEmptyList (listed ts) = false := by
  rw [Bool.eq_false_iff, listed, Ne, isEmptyList_brackets_iff]
  intro blank
  obtain ⟨t, ts, rfl⟩ := List.exists_cons_of_ne_nil ne
  have token : t ∈ t :: ts := List.mem_cons_self
  exact filled t token (trim_eq_nil_iff.mpr fun c mem => blank c (mem_joined token mem))

theorem readList_listed {ts : List Text} (filled : ∀ t ∈ ts, trim t ≠ [])
    (apart : ∀ t ∈ ts, '|' ∉ t) : (readList (listed ts)).result = .ok (ts.map scalar) :=
  readList_ok_iff.mpr ⟨_, interior?_brackets _, (values_joined filled apart).symm⟩

/-- A pair of bounds as it is written. -/
def pair (a b : Text) : Text := '[' :: (a ++ '|' :: b ++ [']'])

/-- Both tokens of a pair stand at an end of the row, so either is dropped if it is blank. -/
theorem values_pair {a b : Text} (freeA : '|' ∉ a) (freeB : '|' ∉ b) :
    (entries (a ++ '|' :: b)).map scalar = ([a, b].filter isFilled).map scalar := by
  have apart : ∀ t ∈ [a, b], '|' ∉ t :=
    List.forall_mem_cons.mpr ⟨freeA, List.forall_mem_singleton.mpr freeB⟩
  have written : joined [a, b] = a ++ '|' :: b := by
    rw [joined_cons (List.cons_ne_nil _ _), joined_singleton]
  have ends : kept [a, b] = [a, b].filter isFilled := by
    rw [← List.singleton_append, List.filter_append]
    exact kept_ends a b []
  rw [← written, map_scalar_entries (List.cons_ne_nil _ _) apart, ends]

/-- A pair is read as a range if neither of its tokens is blank. -/
theorem readRange_pair_eq {a b : Text} (freeA : '|' ∉ a) (freeB : '|' ∉ b) :
    (readRange (pair a b)).result =
      asBounds (pair a b) (([a, b].filter isFilled).map scalar) := by
  rw [readRange, pair, interior?_brackets]
  exact congrArg (asBounds (pair a b)) (values_pair freeA freeB)

theorem readRange_pair {a b : Text} (ha : trim a ≠ []) (hb : trim b ≠ []) (freeA : '|' ∉ a)
    (freeB : '|' ∉ b) : (readRange (pair a b)).result = .ok [scalar a, scalar b] := by
  have filled : ∀ t ∈ [a, b], isFilled t = true :=
    List.forall_mem_cons.mpr ⟨isFilled_iff.mpr ha, List.forall_mem_singleton.mpr (isFilled_iff.mpr hb)⟩
  rw [readRange_pair_eq freeA freeB, List.filter_eq_self.mpr filled]
  rfl

/-! ## Values and controls -/

theorem entries_isInfix {k inner v : Text} (h : interior? k = some inner)
    (mem : v ∈ (entries inner).map scalar) : v <:+: k := by
  obtain ⟨entry, he, rfl⟩ := List.mem_map.mp mem
  have field := split_isInfix (List.mem_filter.mp he).1
  have inside := (inside?_isInfix h).trans (trim_isInfix k)
  exact ((scalar_isInfix entry).trans field).trans ((trim_isInfix inner).trans inside)

/-- Every control value is a stretch of the controls that it was read from. -/
theorem valuesFor_isInfix {c : Comparator} {k v : Text} {vs : List Text}
    (h : (valuesFor c k).result = .ok vs) (mem : v ∈ vs) : v <:+: k := by
  have list (read : (readList k).result = .ok vs) : v <:+: k := by
    obtain ⟨inner, hi, rfl⟩ := readList_ok_iff.mp read
    exact entries_isInfix hi mem
  unfold valuesFor at h
  cases arity : c.arity with
  | none =>
    rw [arity] at h
    cases h
    cases mem
  | scalar =>
    rw [arity] at h
    cases h
    cases mem
  | range =>
    rw [arity] at h
    obtain ⟨inner, hi, rfl, _⟩ := readRange_ok_iff.mp h
    exact entries_isInfix hi mem
  | list =>
    rw [arity] at h
    dsimp only at h
    split at h
    next =>
      cases h
      rw [List.mem_singleton.mp mem]
      exact scalar_isInfix k
    next => exact list h

end Controls

end Criteria
