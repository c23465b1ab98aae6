import Criteria.Pattern.Lexical
import Criteria.Proofs.Edges
import Criteria.Proofs.Pattern.Locality

/-!
# What the lexical readers do before a closing parenthesis

Every reader that stands both outside and inside brackets is local, with one
exception: `\b` and an opening brace. Whether the brace opens the name of an edge
is decided by what follows it, so that nothing is read if nothing does.

* `skip_local`, `takeAll_local`, `cut?_local`: what the readers are made of.
* `readEscape?_extend`: everything that a backslash opens, but for `\b{`.
-/

namespace Criteria

/-! ## What is skipped -/

namespace Lexical

theorem skipIgnored_suffix (inComment : Bool) (t : Text) : skipIgnored inComment t <:+ t := by
  induction t generalizing inComment with
  | nil => cases inComment <;> exact List.suffix_refl _
  | cons c t ih =>
    have later := fun inComment => (ih inComment).trans (List.suffix_cons c t)
    cases inComment with
    | true => exact later _
    | false =>
      unfold skipIgnored
      split
      · exact later _
      · split
        · exact later _
        · exact List.suffix_refl _

theorem skip_suffix (spaced : Bool) (t : Text) : skip spaced t <:+ t := by
  unfold skip
  split
  · exact skipIgnored_suffix false t
  · exact List.suffix_refl t

theorem skip_length_le (spaced : Bool) (t : Text) : (skip spaced t).length ≤ t.length :=
  (skip_suffix spaced t).length_le

theorem skip_nil (spaced : Bool) : skip spaced [] = [] := by cases spaced <;> rfl

/-- In a comment everything up to the end of the line is skipped. -/
theorem skipIgnored_comment {v : Text} (h : '\n' ∉ v) : skipIgnored true v = [] := by
  induction v with
  | nil => rfl
  | cons c v ih =>
    have stays : (c != '\n') = true := bne_iff_ne.mpr fun hc => h (hc ▸ List.mem_cons_self)
    rw [skipIgnored, stays, ih fun hv => h (List.mem_cons_of_mem c hv)]

theorem skipIgnored_extend (inComment : Bool) (u : Text) :
    Extends (some ((), skipIgnored inComment u))
      fun v => some ((), skipIgnored inComment (u ++ ')' :: v)) := by
  induction u generalizing inComment with
  | nil =>
    cases inComment with
    | false => exact .pure () []
    | true =>
      refine .comment rfl (fun v hv => ?_) fun v => .some (skipIgnored_suffix true v)
      show some ((), skipIgnored true v) = some ((), [])
      rw [skipIgnored_comment hv]
  | cons c u ih =>
    cases inComment with
    | true => exact ih _
    | false =>
      simp only [List.cons_append, skipIgnored]
      split
      · exact ih false
      · split
        · exact ih true
        · exact .pure () (c :: u)

theorem skip_local (spaced : Bool) : Local fun u => some ((), skip spaced u) where
  shrinks u := .some (skip_suffix spaced u)
  extend u := by
    cases spaced with
    | false => exact .pure () u
    | true => exact skipIgnored_extend false u

end Lexical

theorem Local.afterSkip {f : Text → Option (α × Text)} (h : Local f) (spaced : Bool) :
    Local fun u => f (Lexical.skip spaced u) :=
  (Lexical.skip_local spaced).bind (g := fun _ => f) fun _ => h

/-! ## Characters of a kind -/

namespace Lexical

/-- Blanks end before a closing parenthesis. -/
theorem trimStart_closing (u v : Text) :
    Text.trimStart (u ++ ')' :: v) = Text.trimStart u ++ ')' :: v := by
  rcases Decidable.em (Text.trimStart u = []) with blank | blank
  · rw [Text.trimStart_blanks_append (Text.allBlank_of_trimStart_eq_nil blank), blank,
      Text.trimStart_cons_firm (by decide)]
    rfl
  · exact Text.trimStart_append blank (')' :: v)

theorem trimStart_local : Local fun u => some ((), Text.trimStart u) where
  shrinks u := .some (List.dropWhile_suffix _)
  extend u := by
    simp only [trimStart_closing]
    exact .pure () (Text.trimStart u)

theorem takeSpaced_enough (spaced : Bool) (test : Char → Bool) {n m : Nat} {t : Text}
    (hn : t.length ≤ n) (hm : t.length ≤ m) :
    takeSpaced spaced test n t = takeSpaced spaced test m t := by
  induction n generalizing m t with
  | zero =>
    obtain rfl := List.length_eq_zero_iff.mp (Nat.le_zero.mp hn)
    cases m <;> rfl
  | succ n ih =>
    cases t with
    | nil => cases m <;> rfl
    | cons c t =>
      have fits := skip_length_le spaced t
      rw [List.length_cons] at hn hm
      cases m with
      | zero => omega
      | succ m =>
        unfold takeSpaced
        rw [ih (by omega) (by omega : (skip spaced t).length ≤ m)]

theorem takeSpaced_succ (spaced : Bool) (test : Char → Bool) (n : Nat) :
    (fun t => some (takeSpaced spaced test (n + 1) t)) =
      whenPasses test
        (fun c t => (some (takeSpaced spaced test n (skip spaced t))).map fun p => (c :: p.1, p.2))
        fun t => some ([], t) := by
  funext t
  cases t with
  | nil => rfl
  | cons c t =>
    cases passes : test c <;> simp [takeSpaced, whenPasses, passes]

/-- Taking characters stops before a parenthesis that does not pass the test. -/
theorem takeAll_local (spaced : Bool) {test : Char → Bool} (stops : test ')' = false) :
    Local fun u => some (takeAll spaced test u) := by
  refine .of_rounds (F := fun n u => some (takeSpaced spaced test n u)) (fun n => ?_)
    fun n u enough => ?_
  · induction n with
    | zero => exact .pure []
    | succ n ih =>
      simp only [takeSpaced_succ]
      exact .whenPasses stops (fun c => (ih.afterSkip spaced).map (c :: ·)) (.pure [])
  · rw [takeAll, takeSpaced_enough spaced test (Nat.le_of_lt enough) (Nat.le_refl _)]

/-! ## Marks -/

/-- A mark without a closing parenthesis does not reach over one. -/
theorem isPrefixOf_closing {mark : Text} (free : ')' ∉ mark) (u v : Text) :
    mark.isPrefixOf (u ++ ')' :: v) = mark.isPrefixOf u := by
  induction mark generalizing u with
  | nil => simp
  | cons m mark ih =>
    have ne : m ≠ ')' := fun h => free (h ▸ List.mem_cons_self)
    cases u with
    | nil =>
      show (m == ')' && mark.isPrefixOf v) = false
      simp [ne]
    | cons c u =>
      show (m == c && mark.isPrefixOf (u ++ ')' :: v)) = (m == c && mark.isPrefixOf u)
      rw [ih (fun h => free (List.mem_cons_of_mem m h)) u]

theorem cut?_suffix (mark u : Text) : Within u (Text.cut? mark u) := by
  induction u with
  | nil =>
    unfold Text.cut?
    split
    · exact .some (List.suffix_refl [])
    · exact .none
  | cons c u ih =>
    unfold Text.cut?
    split
    · exact .some (List.drop_suffix _ _)
    · exact (ih.mono (List.suffix_cons c u)).map (f := (c :: ·))

theorem cut?_eq_some {mark t before after : Text} (h : Text.cut? mark t = some (before, after)) :
    t = before ++ (mark ++ after) := by
  induction t generalizing before with
  | nil =>
    unfold Text.cut? at h
    split at h
    · next empty =>
      cases h
      simpa using empty
    · cases h
  | cons c t ih =>
    unfold Text.cut? at h
    split at h
    · next opens =>
      cases h
      obtain ⟨rest, split⟩ := List.isPrefixOf_iff_prefix.mp opens
      simp [← split]
    · obtain ⟨⟨before', after'⟩, cut, same⟩ := Option.map_eq_some_iff.mp h
      cases same
      rw [ih cut]
      rfl

theorem cut?_local {mark : Text} (free : ')' ∉ mark) (ne : mark ≠ []) :
    Local (Text.cut? mark) where
  shrinks := cut?_suffix mark
  extend u := by
    have empty : mark.isEmpty = false := by simpa using ne
    induction u with
    | nil =>
      refine .fail (by simp [Text.cut?, ne]) fun v => ?_
      have apart := isPrefixOf_closing free [] v
      rw [List.nil_append] at apart ⊢
      rw [Text.cut?, apart]
      -- the mark begins behind the parenthesis, if anywhere
      cases mark with
      | nil => exact absurd rfl ne
      | cons m mark => exact (cut?_suffix _ v).map (f := (')' :: ·))
    | cons c u ih =>
      have same := isPrefixOf_closing free (c :: u)
      simp only [List.cons_append] at same ⊢
      simp only [Text.cut?, same]
      split
      · next opens =>
        have fits : mark.length ≤ (c :: u).length :=
          (List.isPrefixOf_iff_prefix.mp opens).length_le
        refine .agree rfl fun v => ?_
        rw [← List.cons_append, List.drop_append_of_le_length fits]
      · exact ih.map (c :: ·)

/-! ## Braces and numbers -/

/-- Reads up to a closing brace, in a number of rounds. -/
def readBracedIn? (spaced : Bool) (n : Nat) (t : Text) : Option (Text × Text) :=
  match takeSpaced spaced (· != '\x7d') n t with
  | (body, _ :: rest) => some (body, rest)
  | (_, []) => none

theorem readBracedIn?_succ (spaced : Bool) (n : Nat) (c : Char) (t : Text) :
    readBracedIn? spaced (n + 1) (c :: t) =
      if c = '\x7d' then some ([], t)
      else (readBracedIn? spaced n (skip spaced t)).map fun p => (c :: p.1, p.2) := by
  unfold readBracedIn?
  rw [takeSpaced]
  by_cases closing : c = '\x7d'
  · simp [closing]
  · simp only [closing, bne_iff_ne, ne_eq, not_false_eq_true, if_true, if_false]
    obtain ⟨body, rest⟩ := takeSpaced spaced (· != '\x7d') n (skip spaced t)
    cases rest <;> rfl

theorem readBraced?_local (spaced : Bool) : Local (readBraced? spaced) := by
  have rounds : ∀ n, Local (readBracedIn? spaced n) := by
    intro n
    induction n with
    | zero => exact .of_cons rfl fun _ => .pure []
    | succ n ih =>
      refine .of_cons rfl fun c => ?_
      simp only [readBracedIn?_succ]
      split
      · exact .pure []
      · exact (ih.afterSkip spaced).map (c :: ·)
  -- the reader starts with as many rounds as its text has characters
  refine Local.afterSkip (.of_rounds (f := fun t => readBracedIn? spaced t.length t) rounds ?_) spaced
  intro n u enough
  unfold readBracedIn?
  rw [takeSpaced_enough spaced _ (Nat.le_of_lt enough) (Nat.le_refl _)]

theorem takeCount?_local (spaced : Bool) (n : Nat) : Local (takeCount? spaced n) := by
  induction n with
  | zero => exact .pure []
  | succ n ih => exact .of_cons rfl fun c => (ih.afterSkip spaced).map (c :: ·)

theorem hexLength_ne_zero (letter : Char) : hexLength letter ≠ 0 := by
  unfold hexLength
  split <;> decide

theorem readHex?_eq (spaced : Bool) (letter : Char) (t : Text) :
    readHex? spaced letter t =
      whenOpens '\x7b'
        (fun t => (readBraced? spaced t).bind fun p =>
          (charOfHex? p.1).bind fun c => some (.char c false, p.2))
        (fun t => (takeCount? spaced (hexLength letter) t).bind fun p =>
          (charOfHex? p.1).bind fun c => some (.char c (letter == 'x'), p.2))
        (skip spaced t) := by
  unfold readHex?
  cases skip spaced t with
  | nil =>
    obtain ⟨n, hn⟩ := Nat.exists_eq_succ_of_ne_zero (hexLength_ne_zero letter)
    simp [whenPasses, hn, takeCount?]
  | cons c t =>
    by_cases brace : c = '\x7b'
    · subst brace
      rfl
    · simp [whenPasses, brace]

theorem readHex?_local (spaced : Bool) (letter : Char) : Local (readHex? spaced letter) := by
  rw [funext (readHex?_eq spaced letter)]
  refine Local.afterSkip (.whenPasses (by decide) (fun _ => ?_) ?_) spaced
  · exact (readBraced?_local spaced).bind fun digits =>
      .ifSome (charOfHex? digits) fun c => .pure (Escape.char c false)
  · exact (takeCount?_local spaced (hexLength letter)).bind fun digits =>
      .ifSome (charOfHex? digits) fun c => .pure (Escape.char c (letter == 'x'))

/-! ## Properties -/

/-- The name of a property: one letter, or what stands in braces. -/
def readPropertyName? (spaced : Bool) : Text → Option (Text × Text)
  | [] => none
  | c :: rest =>
      if c = '\x7b' then readBraced? spaced rest
      else if c = '\\' then none else some ([c], rest)

theorem readPropertyName?_local (spaced : Bool) : Local (readPropertyName? spaced) := by
  refine .of_cons rfl fun c => ?_
  simp only [readPropertyName?]
  split
  · exact readBraced?_local spaced
  · split
    · exact .none
    · exact .pure [c]

theorem readProperty?_eq (f : Flags) (negated : Bool) (t : Text) :
    readProperty? f negated t =
      (readPropertyName? f.spaced (skip f.spaced t)).bind fun p =>
        (property? p.1).bind fun s =>
          (if f.unicode then f.settle? negated s else none).bind fun s => some (.set s, p.2) := by
  unfold readProperty?
  cases skip f.spaced t with
  | nil => rfl
  | cons c t =>
    by_cases brace : c = '\x7b'
    · subst brace
      cases f.unicode <;> simp [readPropertyName?]
    · by_cases backslash : c = '\\'
      · simp [readPropertyName?, backslash]
      · cases f.unicode <;> simp [readPropertyName?, brace, backslash]

theorem readProperty?_local (f : Flags) (negated : Bool) : Local (readProperty? f negated) := by
  rw [funext (readProperty?_eq f negated)]
  exact ((readPropertyName?_local f.spaced).afterSkip f.spaced).bind fun name =>
    .ifSome (property? name) fun s =>
      .ifSome (if f.unicode then f.settle? negated s else none) fun s => .pure (Escape.set s)

/-! ## Edges of words -/

/-- A closing parenthesis is skipped only if a comment is open before it. -/
theorem skip_closing (spaced : Bool) (u : Text) :
    (∀ v, skip spaced (u ++ ')' :: v) = skip spaced u ++ ')' :: v) ∨
      skip spaced u = [] ∧ (∀ v, '\n' ∉ v → skip spaced (u ++ ')' :: v) = []) ∧
        ∀ v, skip spaced (u ++ ')' :: v) <:+ v := by
  have rest : ∀ {a b : Text}, some ((), a) = some ((), b) → a = b :=
    fun h => (Prod.mk.inj (Option.some.inj h)).2
  cases (skip_local spaced).extend u with
  | agree alone same => exact .inl fun v => (rest alone).symm ▸ rest (same v)
  | comment alone line within =>
    exact .inr ⟨rest alone, fun v free => rest (line v free), fun v => within v _ _ rfl⟩
  | fail alone _ => cases alone

theorem skip_append {spaced : Bool} {u : Text} (more : skip spaced u ≠ []) (v : Text) :
    skip spaced (u ++ ')' :: v) = skip spaced u ++ ')' :: v := by
  rcases skip_closing spaced u with same | ⟨nil, _, _⟩
  · exact same v
  · exact absurd nil more

/-- Reads the name of an edge after its opening brace. -/
def readEdgeName? (spaced : Bool) (t : Text) : Option (WordEdge × Text) :=
  (some (takeAll spaced isEdgeNameChar t)).bind fun p =>
    whenOpens '\x7d' (fun t => (edgeOf? p.1).bind fun edge => some (edge, t)) (fun _ => none) p.2

theorem readEdgeName?_local (spaced : Bool) : Local (readEdgeName? spaced) :=
  (takeAll_local spaced (by decide)).bind fun name =>
    .whenPasses (by decide) (fun _ => .ifSome (edgeOf? name) .pure) .none

theorem readEdge?_brace (spaced : Bool) (body : Text) :
    readEdge? spaced ('\x7b' :: body) =
      match skip spaced body with
      | [] => none
      | c :: rest =>
          if isEdgeNameChar c then readEdgeName? spaced (c :: rest)
          else some (.boundary, '\x7b' :: body) := by
  simp only [readEdge?]
  cases skip spaced body with
  | nil => rfl
  | cons c rest =>
    simp only [readEdgeName?, Option.bind_some]
    obtain ⟨name, rest⟩ := takeAll spaced isEdgeNameChar (c :: rest)
    cases rest with
    | nil => rfl
    | cons d rest =>
      by_cases brace : d = '\x7d'
      · subst brace
        cases found : edgeOf? name <;> simp [whenPasses, found]
      · simp [whenPasses, brace]

theorem readEdge?_other (spaced : Bool) {u : Text} (other : u.head? ≠ some '\x7b') :
    readEdge? spaced u = some (.boundary, u) := by
  cases u with
  | nil => rfl
  | cons c u =>
    have ne : c ≠ '\x7b' := fun h => other (h ▸ rfl)
    simp [readEdge?, ne]

theorem readEdge?_shrinks (spaced : Bool) (u : Text) : Within u (readEdge? spaced u) := by
  by_cases brace : u.head? = some '\x7b'
  · obtain ⟨body, rfl⟩ := List.head?_eq_some_iff.mp brace
    have suffix := skip_suffix spaced body
    rw [readEdge?_brace]
    split
    · exact .none
    · next c rest eq =>
      rw [eq] at suffix
      split
      · exact ((readEdgeName?_local spaced).shrinks _).mono (suffix.trans (List.suffix_cons _ _))
      · exact .some (List.suffix_refl _)
  · rw [readEdge?_other spaced brace]
    exact .some (List.suffix_refl u)

theorem readEdge?_extend (spaced : Bool) {u : Text}
    (decided : ∀ body, u = '\x7b' :: body → skip spaced body ≠ []) :
    Extends (readEdge? spaced u) fun v => readEdge? spaced (u ++ ')' :: v) := by
  by_cases brace : u.head? = some '\x7b'
  · obtain ⟨body, rfl⟩ := List.head?_eq_some_iff.mp brace
    have more := decided body rfl
    simp only [List.cons_append, readEdge?_brace, skip_append more]
    cases h : skip spaced body with
    | nil => exact absurd h more
    | cons c rest =>
      simp only [List.cons_append]
      split
      · exact (readEdgeName?_local spaced).extend (c :: rest)
      · exact .pure WordEdge.boundary ('\x7b' :: body)
  · have later : ∀ v, (u ++ ')' :: v).head? ≠ some '\x7b' := by
      intro v
      cases u with
      | nil => simp
      | cons c u => exact brace
    simp only [readEdge?_other spaced brace, readEdge?_other spaced (later _)]
    exact .pure WordEdge.boundary u

/-- Where nothing follows the brace, what is added decides how the brace is read: as the name
of an edge, or else as bounds. -/
theorem readEdge?_undecided {spaced : Bool} {body : Text} (undecided : skip spaced body = []) :
    readEdge? spaced ('\x7b' :: body) = none ∧
      ∀ v, Within v (readEdge? spaced ('\x7b' :: (body ++ ')' :: v))) ∨
        readEdge? spaced ('\x7b' :: (body ++ ')' :: v)) =
          some (.boundary, '\x7b' :: (body ++ ')' :: v)) := by
  constructor
  · rw [readEdge?_brace, undecided]
  · intro v
    rw [readEdge?_brace]
    split
    · exact .inl .none
    · next c rest eq =>
      split
      · next name =>
        rcases skip_closing spaced body with same | ⟨_, _, within⟩
        · -- a parenthesis does not belong to a name
          have first := same v
          rw [eq, undecided] at first
          cases first
          cases name
        · exact .inl (((readEdgeName?_local spaced).shrinks _).mono (eq ▸ within v))
      · exact .inr rfl

theorem readEscape?_shrinks (f : Flags) (u : Text) : Within u (readEscape? f u) := by
  cases u with
  | nil => exact .none
  | cons c u =>
    refine Within.mono ?_ (List.suffix_cons c u)
    simp only [readEscape?]
    split
    · exact (readHex?_local f.spaced c).shrinks u
    split
    · exact (readProperty?_local f (c == 'P')).shrinks u
    split
    · exact (readEdge?_shrinks f.spaced u).map (f := fun edge => Escape.anchor (.word f.unicode edge))
    split
    · exact .some (List.suffix_refl u)
    · exact (Local.value _).shrinks u

/-- What a backslash opens is local, but for the brace after `\b` with nothing behind it. -/
theorem readEscape?_extend (f : Flags) {u : Text}
    (decided : ∀ body, u = 'b' :: '\x7b' :: body → skip f.spaced body ≠ []) :
    Extends (readEscape? f u) fun v => readEscape? f (u ++ ')' :: v) := by
  cases u with
  | nil =>
    refine .fail rfl fun v => ?_
    have free : readEscape? f (')' :: v) = some (.char ')' false, v) := rfl
    rw [List.nil_append, free]
    exact .some (List.suffix_refl v)
  | cons c u =>
    simp only [List.cons_append, readEscape?]
    split
    · exact (readHex?_local f.spaced c).extend u
    split
    · exact (readProperty?_local f (c == 'P')).extend u
    split
    · next letter =>
      have edge : ∀ body, u = '\x7b' :: body → skip f.spaced body ≠ [] :=
        fun body h => decided body (by rw [letter, h])
      exact (readEdge?_extend f.spaced edge).map fun edge => Escape.anchor (.word f.unicode edge)
    split
    · exact .pure (Escape.char c false) u
    · exact (Local.value _).extend u

/-- Where the exception applies, what is read then is a boundary, with the brace left behind. -/
theorem readEscape?_undecided (f : Flags) {body : Text} (undecided : skip f.spaced body = []) :
    readEscape? f ('b' :: '\x7b' :: body) = none ∧
      ∀ v, Within v (readEscape? f ('b' :: '\x7b' :: (body ++ ')' :: v))) ∨
        readEscape? f ('b' :: '\x7b' :: (body ++ ')' :: v)) =
          some (.anchor (.word f.unicode .boundary), '\x7b' :: (body ++ ')' :: v)) := by
  obtain ⟨alone, added⟩ := readEdge?_undecided undecided
  have edge : ∀ t, readEscape? f ('b' :: t) =
      (readEdge? f.spaced t).map fun p => (.anchor (.word f.unicode p.1), p.2) := fun _ => rfl
  constructor
  · rw [edge, alone]
    rfl
  · intro v
    rw [edge]
    rcases added v with within | boundary
    · exact .inl (within.map (f := fun edge => Escape.anchor (.word f.unicode edge)))
    · rw [boundary]
      exact .inr rfl

end Lexical

end Criteria
