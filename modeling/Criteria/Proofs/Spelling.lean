import Criteria.Comparator.Spelling
import Criteria.Proofs.Edges
import Criteria.Proofs.LetterCase

/-!
# What a spelling reads

Reading a spelling is greedy and never takes a choice back, so what it reads is
settled by the spelling and the text alone.

* `Spelt`: the ways of writing a spelling.
* `read?_sound`, `Spelt.read?_append`: what is read is a way of writing the
  spelling, and every way of writing it is read.
* `read?_nested`: of two spellings read at one place one is the start of the other.
* `read?_append`: a spelling in two parts is read part by part.
* `read?_extend`, `read?_seam`: a spelling read from two texts with a blank
  between them is read from the first one, or one of its gaps is the seam.
* `Spelt.canonicalSpelling_eq`: up to the long s, every way of writing a spelling
  has that spelling as its canonical form.
-/

namespace Criteria

namespace Spelling

/-- Apart from its spaces a spelling holds no blank. -/
def Plain (a : Text) : Prop := ∀ l ∈ a, l ≠ ' ' → Text.isBlank l = false

instance (a : Text) : Decidable (Plain a) :=
  decidable_of_iff (a.all (fun l => l == ' ' || !Text.isBlank l) = true) (by
    simp only [Plain, List.all_eq_true, Bool.or_eq_true, beq_iff_eq, Bool.not_eq_true',
      Decidable.or_iff_not_imp_left])

theorem Plain.of_append {a b : Text} (h : Plain (a ++ b)) : Plain b :=
  fun l hl => h l (List.mem_append_right a hl)

theorem Plain.tail {l : Char} {a : Text} (h : Plain (l :: a)) : Plain a :=
  Plain.of_append (a := [l]) h

/-- Behind each of its spaces a spelling goes on with a letter. -/
def isTight : Text → Bool
  | [] => true
  | l :: a => (l != ' ' || a.head?.any (!Text.isBlank ·)) && isTight a

/-- The letter that ignoring letter case reads as an `s`, although its lower case is no `s`. -/
def longS : Char := '\u017F'

/-- `Spelt a x`: the text `x` is a way of writing the spelling `a`. -/
inductive Spelt : Text → Text → Prop
  | nil : Spelt [] []
  | letter {l c : Char} {a x : Text} :
      l ≠ ' ' → sameLetter l c = true → Spelt a x → Spelt (l :: a) (c :: x)
  | gap {g a x : Text} : g ≠ [] → Text.AllBlank g → Spelt a x → Spelt (' ' :: a) (g ++ x)

/-! ## Single letters -/

theorem toLower_of_blank {b : Char} (hb : Text.isBlank b = true) : b.toLower = b := by
  refine LetterCase.toLower_of_not_capital ?_
  simp only [Text.isBlank, Bool.or_eq_true, Bool.and_eq_true, decide_eq_true_eq, beq_iff_eq] at hb
  omega

theorem toLower_ne_space {c : Char} (hc : Text.isBlank c = false) : c.toLower ≠ ' ' := by
  intro lower
  rw [LetterCase.eq_of_toLower lower (by decide)] at hc
  cases hc

theorem sameLetter_iff {l c : Char} :
    sameLetter l c = true ↔ c.toLower = l ∨ l = 's' ∧ c = longS := by
  simp [sameLetter, longS]

theorem sameLetter_blank {l b : Char} (hb : Text.isBlank b = true) (h : sameLetter l b = true) :
    l = b := by
  rcases sameLetter_iff.mp h with lower | ⟨_, rfl⟩
  · rw [toLower_of_blank hb] at lower
    exact lower.symm
  · exact absurd hb (by decide)

theorem sameLetter_firm {l c : Char} (hl : Text.isBlank l = false) (h : sameLetter l c = true) :
    Text.isBlank c = false := by
  cases hc : Text.isBlank c with
  | false => rfl
  | true => rw [sameLetter_blank hc h, hc] at hl; cases hl

/-- No character stands for two letters. -/
theorem sameLetter_unique {l m c : Char} (hl : l ≠ longS) (hm : m ≠ longS)
    (h : sameLetter l c = true) (h' : sameLetter m c = true) : l = m := by
  have lower : longS.toLower = longS := by decide
  rcases sameLetter_iff.mp h with first | ⟨rfl, rfl⟩
  · rcases sameLetter_iff.mp h' with second | ⟨rfl, rfl⟩
    · exact first.symm.trans second
    · exact absurd (first.symm.trans lower) hl
  · rcases sameLetter_iff.mp h' with second | ⟨rfl, _⟩
    · exact absurd (second.symm.trans lower) hm
    · rfl

/-! ## Reading step by step -/

theorem read?_space (a t : Text) :
    read? (' ' :: a) t =
      if (Text.leadingBlanks t).isEmpty then none
      else (read? a (Text.trimStart t)).map fun p => (Text.leadingBlanks t ++ p.1, p.2) := by
  simp only [read?, if_true]

theorem read?_letter_nil {l : Char} (hl : l ≠ ' ') (a : Text) : read? (l :: a) [] = none := by
  simp only [read?, if_neg hl]

theorem read?_letter_cons {l : Char} (hl : l ≠ ' ') (a : Text) (c : Char) (t : Text) :
    read? (l :: a) (c :: t) =
      if sameLetter l c then (read? a t).map fun p => (c :: p.1, p.2) else none := by
  simp only [read?, if_neg hl]

theorem read?_space_eq_some {a t x r : Text} :
    read? (' ' :: a) t = some (x, r) ↔
      Text.leadingBlanks t ≠ [] ∧
        ∃ y, read? a (Text.trimStart t) = some (y, r) ∧ x = Text.leadingBlanks t ++ y := by
  rw [read?_space]
  cases hb : Text.leadingBlanks t with
  | nil => simp
  | cons b g =>
    simp only [List.isEmpty_cons, Bool.false_eq_true, if_false, Option.map_eq_some_iff,
      Prod.exists, Prod.mk.injEq]
    constructor
    · rintro ⟨y, r', h, rfl, rfl⟩
      exact ⟨List.cons_ne_nil b g, y, h, rfl⟩
    · rintro ⟨_, y, h, rfl⟩
      exact ⟨y, r, h, rfl, rfl⟩

theorem read?_letter_eq_some {l : Char} (hl : l ≠ ' ') {a t x r : Text} :
    read? (l :: a) t = some (x, r) ↔
      ∃ c u y, t = c :: u ∧ sameLetter l c = true ∧ read? a u = some (y, r) ∧ x = c :: y := by
  cases t with
  | nil =>
    rw [read?_letter_nil hl]
    exact ⟨fun h => (nomatch h), fun ⟨_, _, _, h, _⟩ => (nomatch h)⟩
  | cons c u =>
    rw [read?_letter_cons hl]
    cases hc : sameLetter l c with
    | false =>
      refine ⟨fun h => (nomatch h), ?_⟩
      rintro ⟨d, v, y, h, hd, _⟩
      cases h
      rw [hc] at hd
      cases hd
    | true =>
      simp only [if_true, Option.map_eq_some_iff, Prod.exists, Prod.mk.injEq]
      constructor
      · rintro ⟨y, r', h, rfl, rfl⟩
        exact ⟨c, u, y, rfl, hc, h, rfl⟩
      · rintro ⟨d, v, y, h, _, hy, rfl⟩
        cases h
        exact ⟨y, r, hy, rfl, rfl⟩

theorem read?_sound {a t x r : Text} (h : read? a t = some (x, r)) : t = x ++ r ∧ Spelt a x := by
  induction a generalizing t x with
  | nil =>
    cases h
    exact ⟨rfl, .nil⟩
  | cons l a ih =>
    rcases Decidable.em (l = ' ') with rfl | hl
    · obtain ⟨gap, y, hy, rfl⟩ := read?_space_eq_some.mp h
      obtain ⟨split, spelt⟩ := ih hy
      refine ⟨?_, .gap gap (Text.leadingBlanks_allBlank t) spelt⟩
      rw [List.append_assoc, ← split, Text.leadingBlanks_append_trimStart]
    · obtain ⟨c, u, y, rfl, hc, hy, rfl⟩ := (read?_letter_eq_some hl).mp h
      obtain ⟨rfl, spelt⟩ := ih hy
      exact ⟨rfl, .letter hl hc spelt⟩

theorem Spelt.ne_nil {a x : Text} (h : Spelt a x) (ha : a ≠ []) : x ≠ [] := by
  cases h with
  | nil => exact absurd rfl ha
  | letter _ _ _ => exact List.cons_ne_nil _ _
  | gap ne _ _ => exact fun none => ne (List.append_eq_nil_iff.mp none).1

theorem Spelt.firmEnd {a x : Text} (h : Spelt a x) (plain : Plain a) (firm : Text.FirmEnd a) :
    Text.FirmEnd x := by
  induction h with
  | nil => exact firm
  | @letter l c a x letter same spelt ih =>
    by_cases none : a = []
    · subst none
      cases spelt
      intro d last
      cases last
      exact sameLetter_firm (plain l List.mem_cons_self letter) same
    · exact .append_of_ne_nil (s := [c]) (ih plain.tail firm.tail) (spelt.ne_nil none)
  | gap _ _ spelt ih =>
    refine .append_of_ne_nil (ih plain.tail firm.tail) (spelt.ne_nil ?_)
    rintro rfl
    exact absurd (firm ' ' rfl) (by decide)

theorem read?_nil_text {a : Text} {p : Text × Text} (h : read? a [] = some p) : a = [] := by
  obtain ⟨split, spelt⟩ := read?_sound h
  refine Classical.byContradiction fun ha => ?_
  exact spelt.ne_nil ha (List.append_eq_nil_iff.mp split.symm).1

/-- A spelling is read from any way of writing it: its gaps end where its letters go on. -/
theorem Spelt.read?_append {a x : Text} (h : Spelt a x) (plain : Plain a)
    (tight : isTight a = true) (r : Text) : read? a (x ++ r) = some (x, r) := by
  induction h with
  | nil => rfl
  | @letter l c a x hl hc _ ih =>
    rw [isTight, Bool.and_eq_true] at tight
    exact (read?_letter_eq_some hl).mpr ⟨c, x ++ r, x, rfl, hc, ih plain.tail tight.2, rfl⟩
  | @gap g a x ne blank spelt ih =>
    rw [isTight, Bool.and_eq_true] at tight
    have firm : Text.FirmStart (x ++ r) := by
      -- the letter behind the space is read from the first character behind the gap
      cases spelt with
      | nil => cases tight.1
      | gap _ _ _ => cases tight.1
      | @letter l c a x hl hc _ =>
        intro d hd
        cases hd
        exact sameLetter_firm (plain.tail l List.mem_cons_self hl) hc
    have gap : Text.leadingBlanks (g ++ x ++ r) = g := by
      rw [List.append_assoc, Text.leadingBlanks_blanks_append blank,
        Text.leadingBlanks_of_firmStart firm, List.append_nil]
    have rest : Text.trimStart (g ++ x ++ r) = x ++ r := by
      rw [List.append_assoc, Text.trimStart_blanks_append blank, Text.trimStart_of_firmStart firm]
    refine read?_space_eq_some.mpr ⟨by rw [gap]; exact ne, x, ?_, by rw [gap]⟩
    rw [rest]
    exact ih plain.tail tight.2

/-- The first letter of a spelling is read from the first character of a text; a space is
read from a blank. -/
theorem read?_head {l : Char} {a t x r : Text} (h : read? (l :: a) t = some (x, r)) :
    ∃ c u, t = c :: u ∧ (l = ' ' ∧ Text.isBlank c = true ∨ l ≠ ' ' ∧ sameLetter l c = true) := by
  rcases Decidable.em (l = ' ') with rfl | hl
  · obtain ⟨gap, _⟩ := read?_space_eq_some.mp h
    obtain ⟨b, rest, rfl, hb⟩ := Text.leadingBlanks_ne_nil_iff.mp gap
    exact ⟨b, rest, rfl, .inl ⟨rfl, hb⟩⟩
  · obtain ⟨c, u, _, rfl, hc, _⟩ := (read?_letter_eq_some hl).mp h
    exact ⟨c, u, rfl, .inr ⟨hl, hc⟩⟩

theorem read?_head_unique {l m : Char} {a a' t x x' r r' : Text} (plain : Plain (l :: a))
    (plain' : Plain (m :: a')) (hs : longS ∉ l :: a) (hs' : longS ∉ m :: a')
    (h : read? (l :: a) t = some (x, r)) (h' : read? (m :: a') t = some (x', r')) : l = m := by
  obtain ⟨c, u, rfl, hl⟩ := read?_head h
  obtain ⟨_, _, hcu, hm⟩ := read?_head h'
  cases hcu
  have firm {n : Char} (hn : n ≠ ' ') (same : sameLetter n c = true)
      (plain : n ≠ ' ' → Text.isBlank n = false) : Text.isBlank c = false :=
    sameLetter_firm (plain hn) same
  rcases hl with ⟨rfl, blank⟩ | ⟨hl, same⟩
  · rcases hm with ⟨rfl, _⟩ | ⟨hm, same'⟩
    · rfl
    · rw [firm hm same' (plain' m List.mem_cons_self)] at blank
      cases blank
  · rcases hm with ⟨rfl, blank⟩ | ⟨_, same'⟩
    · rw [firm hl same (plain l List.mem_cons_self)] at blank
      cases blank
    · exact sameLetter_unique (List.ne_of_not_mem_cons hs).symm
        (List.ne_of_not_mem_cons hs').symm same same'

/-- Of two spellings that are read at one place, one is the start of the other. -/
theorem read?_nested {a a' t x x' r r' : Text} (plain : Plain a) (plain' : Plain a')
    (hs : longS ∉ a) (hs' : longS ∉ a') (h : read? a t = some (x, r))
    (h' : read? a' t = some (x', r')) : a <+: a' ∨ a' <+: a := by
  induction a generalizing a' t x x' with
  | nil => exact .inl List.nil_prefix
  | cons l a ih =>
    cases a' with
    | nil => exact .inr List.nil_prefix
    | cons m a' =>
      obtain rfl := read?_head_unique plain plain' hs hs' h h'
      rw [List.prefix_cons_inj, List.prefix_cons_inj]
      have below {u y y' : Text} (hy : read? a u = some (y, r)) (hy' : read? a' u = some (y', r')) :
          a <+: a' ∨ a' <+: a :=
        ih plain.tail plain'.tail (List.not_mem_of_not_mem_cons hs)
          (List.not_mem_of_not_mem_cons hs') hy hy'
      rcases Decidable.em (l = ' ') with rfl | hl
      · obtain ⟨_, y, hy, _⟩ := read?_space_eq_some.mp h
        obtain ⟨_, y', hy', _⟩ := read?_space_eq_some.mp h'
        exact below hy hy'
      · obtain ⟨c, u, y, rfl, _, hy, _⟩ := (read?_letter_eq_some hl).mp h
        obtain ⟨_, _, y', hcu, _, hy', _⟩ := (read?_letter_eq_some hl).mp h'
        cases hcu
        exact below hy hy'

theorem read?_append (a b t : Text) :
    read? (a ++ b) t =
      (read? a t).bind fun p => (read? b p.2).map fun q => (p.1 ++ q.1, q.2) := by
  induction a generalizing t with
  | nil =>
    rw [List.nil_append]
    exact (Option.map_id' (x := read? b t)).symm
  | cons l a ih =>
    rw [List.cons_append]
    rcases Decidable.em (l = ' ') with rfl | hl
    · rw [read?_space, read?_space]
      split
      · rfl
      · rw [ih]
        cases read? a (Text.trimStart t) with
        | none => rfl
        | some p =>
          simp only [Option.bind_some, Option.map_some, Option.map_map]
          congr 1
          funext q
          exact congrArg (·, q.2) (List.append_assoc _ _ _).symm
    · cases t with
      | nil => rw [read?_letter_nil hl, read?_letter_nil hl]; rfl
      | cons c t =>
        rw [read?_letter_cons hl, read?_letter_cons hl]
        split
        · rw [ih]
          cases read? a t with
          | none => rfl
          | some p => simp only [Option.bind_some, Option.map_some, Option.map_map]; rfl
        · rfl

/-- Two parts with a gap between them make one spelling. -/
theorem read?_gap {a b t x y r r' : Text} (ha : read? a t = some (x, r))
    (gap : Text.leadingBlanks r ≠ []) (hb : read? b (Text.trimStart r) = some (y, r')) :
    read? (a ++ ' ' :: b) t = some (x ++ (Text.leadingBlanks r ++ y), r') := by
  rw [read?_append, ha]
  have hgap := read?_space_eq_some.mpr ⟨gap, y, hb, rfl⟩
  simp [hgap]

/-! ## Reading across a seam -/

/-- What follows a text that ends firmly does not change what is read from it. -/
theorem read?_extend {a u x r : Text} (firm : Text.FirmEnd u) (h : read? a u = some (x, r))
    (w : Text) : read? a (u ++ w) = some (x, r ++ w) := by
  induction a generalizing u x with
  | nil =>
    cases h
    rfl
  | cons l a ih =>
    rcases Decidable.em (l = ' ') with rfl | hl
    · obtain ⟨gap, y, hy, rfl⟩ := read?_space_eq_some.mp h
      have inside : Text.trimStart u ≠ [] := by
        refine firm.trimStart_ne_nil ?_
        rintro rfl
        exact gap rfl
      refine read?_space_eq_some.mpr ?_
      rw [Text.leadingBlanks_append inside, Text.trimStart_append inside]
      exact ⟨gap, y, ih firm.trimStart hy, rfl⟩
    · obtain ⟨c, u, y, rfl, hc, hy, rfl⟩ := (read?_letter_eq_some hl).mp h
      exact (read?_letter_eq_some hl).mpr ⟨c, u ++ w, y, rfl, hc, ih firm.tail hy, rfl⟩

/-- A spelling read from two texts with a blank between them ends in the first text, or
one of its gaps is the seam. -/
theorem read?_seam {a u w x r : Text} (plain : Plain a) (firm : Text.FirmEnd u)
    (blank : Text.OpensBlank w) (h : read? a (u ++ w) = some (x, r)) :
    (∃ r', read? a u = some (x, r') ∧ r = r' ++ w) ∨
      ∃ a₁ a₂ y, a = a₁ ++ ' ' :: a₂ ∧ read? a₁ u = some (u, []) ∧
        read? a₂ (Text.trimStart w) = some (y, r) := by
  induction a generalizing u x with
  | nil =>
    cases h
    exact .inl ⟨u, rfl, rfl⟩
  | cons l a ih =>
    rcases Decidable.em (l = ' ') with rfl | hl
    · obtain ⟨gap, y, hy, rfl⟩ := read?_space_eq_some.mp h
      rcases Decidable.em (u = []) with rfl | hu
      · -- the first text is used up: this gap is the seam
        exact .inr ⟨[], a, y, rfl, rfl, hy⟩
      · have inside := firm.trimStart_ne_nil hu
        rw [Text.leadingBlanks_append inside] at gap ⊢
        rw [Text.trimStart_append inside] at hy
        rcases ih plain.tail firm.trimStart hy with ⟨r', hr, rfl⟩ | ⟨a₁, a₂, z, rfl, h₁, h₂⟩
        · exact .inl ⟨r', read?_space_eq_some.mpr ⟨gap, y, hr, rfl⟩, rfl⟩
        · refine .inr ⟨' ' :: a₁, a₂, z, rfl, ?_, h₂⟩
          exact read?_space_eq_some.mpr
            ⟨gap, _, h₁, (Text.leadingBlanks_append_trimStart u).symm⟩
    · obtain ⟨c, v, y, split, hc, hy, rfl⟩ := (read?_letter_eq_some hl).mp h
      cases u with
      | nil =>
        -- a letter is no blank, so no spelling goes on at the seam with a letter
        obtain ⟨b, rest, rfl, hb⟩ := blank
        cases split
        have : Text.isBlank l = false := plain l List.mem_cons_self hl
        rw [sameLetter_blank hb hc, hb] at this
        cases this
      | cons d u =>
        cases split
        rcases ih plain.tail firm.tail hy with ⟨r', hr, rfl⟩ | ⟨a₁, a₂, z, rfl, h₁, h₂⟩
        · exact .inl ⟨r', (read?_letter_eq_some hl).mpr ⟨c, u, y, rfl, hc, hr, rfl⟩, rfl⟩
        · refine .inr ⟨l :: a₁, a₂, z, rfl, ?_, h₂⟩
          exact (read?_letter_eq_some hl).mpr ⟨c, u, u, rfl, hc, h₁, rfl⟩

/-! ## Words without a gap -/

/-- A single word without an `s` is read exactly where its letters stand in either case. -/
theorem read?_word {a t x r : Text} (ha : ' ' ∉ a ∧ 's' ∉ a) :
    read? a t = some (x, r) ↔ t = x ++ r ∧ Text.lower x = a := by
  induction a generalizing t x with
  | nil =>
    constructor
    · intro h
      cases h
      exact ⟨rfl, rfl⟩
    · rintro ⟨rfl, h⟩
      rw [List.map_eq_nil_iff.mp h]
      rfl
  | cons l a ih =>
    have hl : l ≠ ' ' := (List.ne_of_not_mem_cons ha.1).symm
    have hs : l ≠ 's' := (List.ne_of_not_mem_cons ha.2).symm
    have ha' : ' ' ∉ a ∧ 's' ∉ a :=
      ⟨List.not_mem_of_not_mem_cons ha.1, List.not_mem_of_not_mem_cons ha.2⟩
    rw [read?_letter_eq_some hl]
    constructor
    · rintro ⟨c, u, y, rfl, hc, hy, rfl⟩
      obtain ⟨rfl, lower⟩ := (ih ha').mp hy
      refine ⟨rfl, ?_⟩
      rcases sameLetter_iff.mp hc with hc | ⟨hc, _⟩
      · rw [← hc, ← lower]
        rfl
      · exact absurd hc hs
    · rintro ⟨rfl, lower⟩
      cases x with
      | nil => cases lower
      | cons c y =>
        obtain ⟨hc, hy⟩ := List.cons.inj lower
        exact ⟨c, y ++ r, y, rfl, sameLetter_iff.mpr (.inl hc), (ih ha').mpr ⟨rfl, hy⟩, rfl⟩

/-! ## The canonical form -/

theorem Spelt.head_blank {a x : Text} (h : Spelt a x) :
    (a = [] ∧ x = []) ∨ (∃ b, a = ' ' :: b ∧ Text.OpensBlank x) ∨
      ∃ l b c y, a = l :: b ∧ x = c :: y ∧ l ≠ ' ' ∧ sameLetter l c = true := by
  cases h with
  | nil => exact .inl ⟨rfl, rfl⟩
  | @gap g a x ne blank _ =>
    refine .inr (.inl ⟨a, rfl, ?_⟩)
    cases g with
    | nil => exact absurd rfl ne
    | cons b g => exact ⟨b, g ++ x, rfl, blank b List.mem_cons_self⟩
  | @letter l c a x hl hc _ => exact .inr (.inr ⟨l, a, c, x, rfl, rfl, hl, hc⟩)

/-- Word for word, what is written is the spelling in some letter case. -/
theorem Spelt.words_lower {a x : Text} (plain : Plain a) (h : Spelt a x) (hs : longS ∉ x) :
    (Text.words x).map Text.lower = Text.words a := by
  induction h with
  | nil => rfl
  | @gap g a x _ blank _ ih =>
    rw [Text.words_blanks_append blank, Text.words_cons_blank (by decide)]
    exact ih plain.tail fun mem => hs (List.mem_append_right g mem)
  | @letter l c a x hl hc spelt ih =>
    have ih := ih plain.tail (List.not_mem_of_not_mem_cons hs)
    have firmL : Text.isBlank l = false := plain l List.mem_cons_self hl
    have firmC : Text.isBlank c = false := sameLetter_firm firmL hc
    have lower : c.toLower = l := by
      rcases sameLetter_iff.mp hc with hc | ⟨_, rfl⟩
      · exact hc
      · exact absurd List.mem_cons_self hs
    -- what follows decides on both sides alike whether the letter ends a word
    rcases spelt.head_blank with ⟨rfl, rfl⟩ | ⟨b, rfl, blank⟩ | ⟨m, b, d, y, rfl, rfl, hm, hd⟩
    · rw [Text.words_cons_gap firmC (.inl rfl), Text.words_cons_gap firmL (.inl rfl), ← lower]
      rfl
    · have blankL : Text.OpensBlank (' ' :: b) := ⟨' ', b, rfl, by decide⟩
      rw [Text.words_cons_gap firmC (.inr blank), Text.words_cons_gap firmL (.inr blankL), ← ih,
        ← lower]
      rfl
    · have firmM : Text.isBlank m = false :=
        plain m (List.mem_cons_of_mem l List.mem_cons_self) hm
      obtain ⟨word, more, hw, hcw⟩ := Text.words_cons_firm (t := y) firmC (sameLetter_firm firmM hd)
      obtain ⟨word', more', hw', hlw⟩ := Text.words_cons_firm (t := b) firmL firmM
      rw [hw, hw'] at ih
      obtain ⟨first, rest⟩ := List.cons.inj ih
      rw [hcw, hlw, ← first, ← rest, ← lower]
      rfl

theorem lower_intercalate (ws : List Text) :
    Text.lower ([' '].intercalate ws) = [' '].intercalate (ws.map Text.lower) := by
  simp only [List.intercalate, Text.lower, List.map_flatten]
  congr 1
  induction ws with
  | nil => rfl
  | cons w ws ih =>
    cases ws with
    | nil => rfl
    | cons v ws =>
      simp only [List.intersperse_cons_cons, List.map_cons] at ih ⊢
      rw [ih]
      rfl

/-- Blanks around a way of writing a spelling change nothing of its canonical form, and
without a long s this form is the spelling's own. -/
theorem Spelt.canonicalSpelling_eq {a x b e : Text} (plain : Plain a) (h : Spelt a x)
    (hb : Text.AllBlank b) (he : Text.AllBlank e) (hs : longS ∉ x) :
    Comparator.canonicalSpelling (b ++ x ++ e) = [' '].intercalate (Text.words a) := by
  rw [Comparator.canonicalSpelling, Text.words_append_blanks he, Text.words_blanks_append hb,
    lower_intercalate, h.words_lower plain hs]

theorem mem_canonicalSpelling {c : Char} {t : Text} (firm : Text.isBlank c = false)
    (lower : c.toLower = c) (mem : c ∈ t) : c ∈ Comparator.canonicalSpelling t := by
  obtain ⟨word, hw, hc⟩ := Text.mem_words_of_firm firm mem
  rw [Comparator.canonicalSpelling, lower_intercalate]
  have inWord : c ∈ Text.lower word := List.mem_map.mpr ⟨c, hc, lower⟩
  have inWords : Text.lower word ∈ (Text.words t).map Text.lower := List.mem_map_of_mem hw
  rw [List.intercalate, List.mem_flatten]
  exact ⟨_, mem_intersperse inWords, inWord⟩
where
  mem_intersperse {w sep : Text} {ws : List Text} (h : w ∈ ws) : w ∈ ws.intersperse sep := by
    induction ws with
    | nil => cases h
    | cons v ws ih =>
      cases ws with
      | nil => exact h
      | cons v' ws =>
        rw [List.intersperse_cons_cons]
        rcases List.mem_cons.mp h with rfl | h
        · exact List.mem_cons_self
        · exact List.mem_cons_of_mem _ (List.mem_cons_of_mem _ (ih h))

end Spelling

end Criteria
