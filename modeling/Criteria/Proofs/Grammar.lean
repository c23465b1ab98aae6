import Criteria.Proofs.Lookup

/-!
# The grammar of filter texts

The split of a filter text reads blanks greedily and tries the spellings of the
catalog in an order. This module says what it finds without either: where a
comparator may stand, and which of these places is taken.

* `Stands`: how a spelling may be written at a place, and what must be around it.
* `Reading`: the parts of a text. The subject is the shortest that a comparator
  follows, the spelling taken there is longer than any other that fits, and the
  blanks around it are the comparator's.
* `split?_iff_reading`: a text splits into its parts in this sense, and into
  nothing exactly if it has none.
-/

namespace Criteria

namespace Sentence

open Text Spelling

/-! ## Parts of a text -/

/-- How the spelling `a` may stand before the text `rest`: written as `x`, between the
blanks `before` and `after`. A word needs a blank before it, and a blank or the end of the
text after it; a symbol needs neither. -/
structure Stands (a before x after rest : Text) : Prop where
  listed : ∃ c : Comparator, a ∈ c.aliases
  before_blank : AllBlank before
  written : Spelt a x
  after_blank : AllBlank after
  apart : isWord a = true → before ≠ [] ∧ (after ≠ [] ∨ rest = [])

/-- A comparator stands at the start of the text. -/
def OpensWithOperator (t : Text) : Prop :=
  ∃ a before x after rest, t = before ++ x ++ after ++ rest ∧ Stands a before x after rest

/-- The spelling `a`, written as `x`, is longer than any other that stands at the start of
the text, and so is what it takes of the text. -/
def IsLongest (t a x : Text) : Prop :=
  ∀ a' before x' after rest, t = before ++ x' ++ after ++ rest → Stands a' before x' after rest →
    a' ≠ a → a'.length < a.length ∧ x'.length < x.length

/-- The three parts of the text `t`. -/
structure Reading (t : Text) (parts : Sentence) : Prop where
  whole : parts.subject ++ parts.operator ++ parts.controls = t
  subject_ne : parts.subject ≠ []
  /-- No comparator stands behind a shorter subject. -/
  shortest : ∀ p rest, t = p ++ rest → p ≠ [] → OpensWithOperator rest →
    parts.subject.length ≤ p.length
  operator : ∃ a before x after, parts.operator = before ++ x ++ after ∧
    Stands a before x after parts.controls ∧ IsLongest (parts.operator ++ parts.controls) a x
  /-- The blanks behind the comparator are its own. -/
  controls_firm : FirmStart parts.controls

/-! ## One spelling at one place -/

theorem spellings_tight : ∀ a ∈ spellings, isTight a = true := by decide

theorem spellings_firmStart : ∀ a ∈ spellings,
    a.head?.any (fun l => l != ' ' && !isBlank l) = true := by decide

theorem spellings_firmEnd : ∀ a ∈ spellings, FirmEnd a := by decide

theorem longS_not_mem_spelling {a : Text} (mem : a ∈ spellings) : longS ∉ a := by
  obtain ⟨c, hc, own⟩ := Comparator.exists_owner a mem
  exact Comparator.longS_not_mem_alias c hc a own

theorem mem_spellings_iff {a : Text} : a ∈ spellings ↔ ∃ c : Comparator, a ∈ c.aliases := by
  constructor
  · intro mem
    obtain ⟨c, _, own⟩ := Comparator.exists_owner a mem
    exact ⟨c, own⟩
  · rintro ⟨c, own⟩
    exact Comparator.mem_spellings c (Comparator.mem_all c) a own

theorem Spelt.firmStart_append {a x : Text} (h : Spelt a x) (mem : a ∈ spellings) (r : Text) :
    FirmStart (x ++ r) := by
  have first := spellings_firmStart a mem
  cases h with
  | nil => cases first
  | gap _ _ _ => cases first
  | @letter l c a x hl hc _ =>
    simp only [List.head?_cons, Option.any_some, Bool.and_eq_true, Bool.not_eq_true'] at first
    intro d hd
    cases hd
    exact sameLetter_firm first.2 hc

theorem atWordEnd_blanks_append {e : Text} (he : AllBlank e) (r : Text) :
    atWordEnd (e ++ r) = true ↔ e ≠ [] ∨ atWordEnd r = true := by
  cases e with
  | nil => simp
  | cons b e => exact ⟨fun _ => .inl (List.cons_ne_nil b e), fun _ => he b List.mem_cons_self⟩

theorem atWordEnd_firmStart {r : Text} (firm : FirmStart r) : atWordEnd r = true ↔ r = [] := by
  cases r with
  | nil => exact ⟨fun _ => rfl, fun _ => rfl⟩
  | cons c r =>
    refine ⟨fun ended => ?_, fun h => (nomatch h)⟩
    have : isBlank c = true := ended
    rw [firm c rfl] at this
    cases this

namespace Stands

variable {a b x e r : Text}

theorem mem_spellings (h : Stands a b x e r) : a ∈ spellings := mem_spellings_iff.mpr h.listed

theorem leadingBlanks_eq (h : Stands a b x e r) : leadingBlanks (b ++ x ++ e ++ r) = b := by
  rw [List.append_assoc, List.append_assoc, leadingBlanks_blanks_append h.before_blank,
    leadingBlanks_of_firmStart (Spelt.firmStart_append h.written h.mem_spellings _), List.append_nil]

theorem trimStart_eq (h : Stands a b x e r) : trimStart (b ++ x ++ e ++ r) = x ++ (e ++ r) := by
  rw [List.append_assoc, List.append_assoc, trimStart_blanks_append h.before_blank,
    trimStart_of_firmStart (Spelt.firmStart_append h.written h.mem_spellings _)]

theorem read?_eq (h : Stands a b x e r) :
    read? a (trimStart (b ++ x ++ e ++ r)) = some (x, e ++ r) := by
  rw [h.trimStart_eq]
  exact h.written.read?_append (spellings_plain a h.mem_spellings)
    (spellings_tight a h.mem_spellings) (e ++ r)

theorem fits (h : Stands a b x e r) :
    Sentence.fits a (leadingBlanks (b ++ x ++ e ++ r)) (e ++ r) = true := by
  cases word : isWord a with
  | false => exact fits_symbol word
  | true =>
    obtain ⟨hb, ended⟩ := h.apart word
    refine (fits_word_iff word).mpr ⟨leadingBlanks_ne_nil_iff.mp (h.leadingBlanks_eq.symm ▸ hb), ?_⟩
    refine (atWordEnd_blanks_append h.after_blank r).mpr (ended.imp_right ?_)
    rintro rfl
    rfl

/-- What stands at a place is read there, with all the blanks that follow. -/
theorem readAs?_eq (h : Stands a b x e r) :
    readAs? (b ++ x ++ e ++ r) a = some (b ++ x ++ leadingBlanks (e ++ r), trimStart r) := by
  refine readAs?_eq_some.mpr ⟨x, e ++ r, h.read?_eq, h.fits, ?_, ?_⟩
  · rw [h.leadingBlanks_eq]
  · rw [trimStart_blanks_append h.after_blank]

theorem readAs?_eq_of_firmStart (h : Stands a b x e r) (firm : FirmStart r) :
    readAs? (b ++ x ++ e ++ r) a = some (b ++ x ++ e, r) := by
  rw [h.readAs?_eq, leadingBlanks_blanks_append h.after_blank, leadingBlanks_of_firmStart firm,
    List.append_nil, trimStart_of_firmStart firm]

end Stands

/-- What is read as a spelling stands there. -/
theorem stands_of_readAs {t a q r : Text} (mem : a ∈ spellings) (h : readAs? t a = some (q, r)) :
    ∃ b x e, q = b ++ x ++ e ∧ Stands a b x e r ∧ FirmStart r := by
  obtain ⟨x, rest, hx, hf, rfl, rfl⟩ := readAs?_eq_some.mp h
  refine ⟨leadingBlanks t, x, leadingBlanks rest, rfl, ?_, trimStart_firmStart rest⟩
  refine ⟨mem_spellings_iff.mp mem, leadingBlanks_allBlank t, (read?_sound hx).2,
    leadingBlanks_allBlank rest, fun word => ?_⟩
  obtain ⟨opens, ended⟩ := (fits_word_iff word).mp hf
  refine ⟨leadingBlanks_ne_nil_iff.mpr opens, ?_⟩
  rw [← leadingBlanks_append_trimStart rest,
    atWordEnd_blanks_append (leadingBlanks_allBlank rest)] at ended
  exact ended.imp_right (atWordEnd_firmStart (trimStart_firmStart rest)).mp

/-! ## The spelling that is taken -/

theorem spellings_length : spellings.Pairwise fun a b => b.length ≤ a.length := by decide

theorem spellingAt?_found {t a : Text} (taken : spellingAt? t = some a) :
    (readAs? t a).isSome = true :=
  (List.find?_eq_some_iff_append.mp taken).1

/-- No spelling that fits is longer than the one that is taken. -/
theorem spellingAt?_length {t a a' : Text} (taken : spellingAt? t = some a)
    (mem : a' ∈ spellings) (found : (readAs? t a').isSome = true) : a'.length ≤ a.length := by
  obtain ⟨_, earlier, later, split, none⟩ := List.find?_eq_some_iff_append.mp taken
  have sorted := spellings_length
  rw [split] at mem sorted
  rcases List.mem_append.mp mem with before | after
  · have := none a' before
    rw [found] at this
    cases this
  · rcases List.mem_cons.mp after with rfl | behind
    · exact Nat.le_refl _
    · exact List.rel_of_pairwise_cons (List.pairwise_append.mp sorted).2.1 behind

/-- A spelling that continues another one, at the same place, takes more of the text. -/
theorem read?_longer {a a' t x x' r r' : Text} (before : a' <+: a) (other : a' ≠ a)
    (h : read? a t = some (x, r)) (h' : read? a' t = some (x', r')) :
    a'.length < a.length ∧ x'.length < x.length := by
  obtain ⟨d, rfl⟩ := before
  have hd : d ≠ [] := by
    rintro rfl
    exact other (List.append_nil a').symm
  rw [read?_append, h', Option.bind_some, Option.map_eq_some_iff] at h
  obtain ⟨⟨y, r''⟩, hy, heq⟩ := h
  cases heq
  have positive := List.length_pos_iff.mpr hd
  have positive' := List.length_pos_iff.mpr ((read?_sound hy).2.ne_nil hd)
  simp only [List.length_append]
  omega

theorem Stands.isLongest {a b x e r : Text} (h : Stands a b x e r)
    (taken : spellingAt? (b ++ x ++ e ++ r) = some a) : IsLongest (b ++ x ++ e ++ r) a x := by
  intro a' b' x' e' r' split h' other
  have read' := h'.read?_eq
  have found := Option.isSome_of_eq_some h'.readAs?_eq
  rw [← split] at read' found
  have mem := h.mem_spellings
  have mem' := h'.mem_spellings
  refine read?_longer ?_ other h.read?_eq read'
  rcases read?_nested (spellings_plain a mem) (spellings_plain a' mem') (longS_not_mem_spelling mem)
    (longS_not_mem_spelling mem') h.read?_eq read' with shorter | longer
  · -- the spelling that is taken is at least as long, so it is the other one
    exact (shorter.eq_of_length_le (spellingAt?_length taken mem' found)) ▸ List.prefix_refl a
  · exact longer

/-! ## The place that is taken -/

theorem readOperator?_eq_some_iff {t q r : Text} :
    readOperator? t = some (q, r) ↔
      t = q ++ r ∧ FirmStart r ∧ ∃ a b x e, q = b ++ x ++ e ∧ Stands a b x e r ∧ IsLongest t a x := by
  constructor
  · intro h
    obtain ⟨a, taken, hread⟩ := readOperator?_spelling h
    obtain ⟨b, x, e, rfl, stands, firm⟩ := stands_of_readAs (spellingAt?_mem taken) hread
    obtain rfl := readOperator?_split h
    exact ⟨rfl, firm, a, b, x, e, rfl, stands, stands.isLongest taken⟩
  · rintro ⟨rfl, firm, a, b, x, e, rfl, stands, longest⟩
    have read := stands.readAs?_eq_of_firmStart firm
    -- some spelling is taken, and none but `a` is long enough
    cases taken : spellingAt? (b ++ x ++ e ++ r) with
    | none =>
      have := List.find?_eq_none.mp taken a stands.mem_spellings
      rw [read] at this
      exact absurd rfl this
    | some a' =>
      have mem := spellingAt?_mem taken
      rw [readOperator?_eq_bind, taken, Option.bind_some]
      rcases Decidable.em (a' = a) with rfl | other
      · exact read
      · obtain ⟨⟨q', r'⟩, hread⟩ := Option.isSome_iff_exists.mp (spellingAt?_found taken)
        obtain ⟨b', x', e', rfl, stands', _⟩ := stands_of_readAs mem hread
        have shorter := (longest a' b' x' e' r' (readAs?_split hread) stands' other).1
        have := spellingAt?_length taken stands.mem_spellings (Option.isSome_of_eq_some read)
        omega

theorem readOperator?_ne_none_iff {t : Text} : readOperator? t ≠ none ↔ OpensWithOperator t := by
  rw [Option.ne_none_iff_exists']
  constructor
  · rintro ⟨⟨q, r⟩, h⟩
    obtain ⟨rfl, _, a, b, x, e, rfl, stands, _⟩ := readOperator?_eq_some_iff.mp h
    exact ⟨a, b, x, e, r, rfl, stands⟩
  · rintro ⟨a, b, x, e, r, rfl, stands⟩
    refine Option.ne_none_iff_exists'.mp fun none => ?_
    have := readOperator?_eq_none_iff.mp none a stands.mem_spellings
    rw [stands.readAs?_eq] at this
    cases this

/-- A text splits into its parts and nothing else, and it does not split exactly if no
comparator stands behind a subject. -/
theorem split?_iff_reading (t : Text) :
    (∀ parts, split? t = some parts ↔ Reading t parts) ∧
    (split? t = none ↔ ∀ p rest, t = p ++ rest → p ≠ [] → ¬ OpensWithOperator rest) := by
  constructor
  · rintro ⟨p, q, r⟩
    constructor
    · intro found
      obtain ⟨hp, rest, rfl, hread, _⟩ := split?_eq_some_iff.mp found
      obtain ⟨rfl, firm, operator⟩ := readOperator?_eq_some_iff.mp hread
      refine ⟨List.append_assoc _ _ _, hp, fun p' rest' split hp' opens => ?_, operator, firm⟩
      exact split?_subject_le found split hp' (readOperator?_ne_none_iff.mpr opens)
    · rintro ⟨whole, hp, shortest, operator, firm⟩
      refine split?_eq_some_iff.mpr
        ⟨hp, q ++ r, ?_, readOperator?_eq_some_iff.mpr ⟨rfl, firm, operator⟩, ?_⟩
      · rw [← whole, List.append_assoc]
      · rintro s s' rfl ne ne'
        refine Classical.byContradiction fun found => ?_
        have := shortest s (s' ++ (q ++ r)) (by rw [← whole]; simp) ne
          (readOperator?_ne_none_iff.mp found)
        have positive := List.length_pos_iff.mpr ne'
        rw [List.length_append] at this
        omega
  · rw [split?_eq_none_iff]
    refine forall_congr' fun p => forall_congr' fun rest => imp_congr_right fun _ =>
      imp_congr_right fun _ => ?_
    rw [← readOperator?_ne_none_iff]
    exact Decidable.not_not.symm

/-- In `a is Not  empty` the comparator is `is not empty`, since `is` and `is not` are shorter;
`just words` holds no comparator. -/
theorem split?_iff_reading_is_not_empty :
    Reading "a is Not  empty".toList ⟨"a".toList, " is Not  empty".toList, []⟩ ∧
      ∀ p rest, "just words".toList = p ++ rest → p ≠ [] → ¬ OpensWithOperator rest :=
  ⟨((split?_iff_reading _).1 _).mp (by decide), (split?_iff_reading _).2.mp (by decide)⟩

end Sentence

end Criteria
