import Criteria.Proofs.Entries
import Criteria.Proofs.Equality
import Criteria.Proofs.WholeNumbers

/-!
# What people write around numbers

A number is often written with blanks between its digits, with a dollar sign before it, and in
quotes. Cleaning takes these away one kind after the other, from the outside in, and each step
has to find what it takes away where it looks for it.

* `Spaced`, `Priced`, `Wrapped`, `Decorated`: the ways to write around a number.
* `Wrapped.unwrap_eq`, `Priced.squeeze_eq`: the steps of cleaning take them away again.
* `Decorated.cleaned_eq`: so cleaning gives back what was decorated.
* `readCleaned?_decorated`: a decorated number reads as the number, and any two decorations
  of one number are the same.
-/

namespace Criteria

namespace Text

theorem squeeze_blanks {b : Text} (blank : AllBlank b) : squeeze b = [] := by
  refine List.filter_eq_nil_iff.mpr fun c mem => ?_
  rw [blank c mem]
  decide

theorem squeeze_append (s t : Text) : squeeze (s ++ t) = squeeze s ++ squeeze t :=
  List.filter_append s t

theorem squeeze_trim (t : Text) : squeeze (trim t) = squeeze t := by
  obtain ⟨b, e, before, behind, split, _⟩ := trim_split t
  have whole : squeeze t = squeeze (b ++ trim t ++ e) := congrArg squeeze split
  rw [whole, squeeze_append, squeeze_append, squeeze_blanks before, squeeze_blanks behind,
    List.nil_append, List.append_nil]

theorem squeeze_trimEnd (t : Text) : squeeze (trimEnd t) = squeeze t := by
  rw [← squeeze_trim (trimEnd t), trim_trimEnd, squeeze_trim]

end Text

namespace Numeral

open Text

/-! ## Decorations -/

/-- The second text is the first with blanks put in anywhere. -/
inductive Spaced : Text → Text → Prop
  | nil : Spaced [] []
  | blank {c : Char} {t s : Text} : isBlank c = true → Spaced t s → Spaced t (c :: s)
  | char {t s : Text} (c : Char) : Spaced t s → Spaced (c :: t) (c :: s)

/-- The text with blanks put in, and a dollar sign before it or none. -/
inductive Priced (t : Text) : Text → Prop
  | bare {s : Text} : Spaced t s → Priced t s
  | dollar {b s : Text} : AllBlank b → Spaced t s → Priced t (b ++ '$' :: s)

/-- The text in one pair of the mark, or in none. -/
inductive Wrapped (mark : Char) (t : Text) : Text → Prop
  | bare : Wrapped mark t t
  | within : Wrapped mark t (mark :: (t ++ [mark]))

/-- The text as people may write it: with blanks and a dollar sign, then in single quotes, then
in double quotes, each of which may be left out. -/
def Decorated (t u : Text) : Prop :=
  ∃ priced quoted, Priced t priced ∧ Wrapped '\'' priced quoted ∧ Wrapped '"' quoted u

variable {t s u : Text} {c mark : Char}

/-! ## Characters of decorated texts -/

theorem Spaced.mem (h : Spaced t s) (mem : c ∈ s) : c ∈ t ∨ isBlank c = true := by
  induction h with
  | nil => exact .inl mem
  | blank blank _ ih =>
    cases List.mem_cons.mp mem with
    | inl first => exact .inr (first ▸ blank)
    | inr later => exact ih later
  | char d _ ih =>
    cases List.mem_cons.mp mem with
    | inl first => exact .inl (first ▸ List.mem_cons_self)
    | inr later => exact (ih later).imp_left (List.mem_cons_of_mem d)

/-- A character below those of numbers that is no blank is not in a spaced number. -/
theorem Spaced.not_mem (h : Spaced t s) (numeral : IsNumeral t) (low : c.toNat < 43)
    (firm : isBlank c = false) : c ∉ s := by
  intro mem
  cases h.mem mem with
  | inl inText => exact numeral.not_mem low inText
  | inr blank => rw [firm] at blank; cases blank

theorem Priced.not_mem (h : Priced t s) (numeral : IsNumeral t) (low : c.toNat < 43)
    (firm : isBlank c = false) (other : c ≠ '$') : c ∉ s := by
  cases h with
  | bare spaced => exact spaced.not_mem numeral low firm
  | dollar blank spaced =>
    intro mem
    cases List.mem_append.mp mem with
    | inl before =>
      rw [blank c before] at firm
      cases firm
    | inr after =>
      exact spaced.not_mem numeral low firm ((List.mem_cons.mp after).resolve_left other)

theorem Wrapped.not_mem (h : Wrapped mark t u) (free : c ∉ t) (other : c ≠ mark) : c ∉ u := by
  cases h with
  | bare => exact free
  | within => simp [free, other]

/-! ## Cleaning -/

theorem Spaced.squeeze_eq (h : Spaced t s) (firm : ∀ c ∈ t, isBlank c = false) : squeeze s = t := by
  induction h with
  | nil => rfl
  | @blank c t s blank _ ih =>
    rw [squeeze, List.filter_cons_of_neg (by rw [blank]; decide)]
    exact ih firm
  | @char t s c _ ih =>
    obtain ⟨first, later⟩ := List.forall_mem_cons.mp firm
    rw [squeeze, List.filter_cons_of_pos (by rw [first]; decide)]
    exact congrArg (c :: ·) (ih later)

/-- Without blanks and a dollar sign a price is the number. -/
theorem Priced.squeeze_eq (h : Priced t s) (numeral : IsNumeral t) :
    squeeze (withoutLeading '$' (trim s)) = t := by
  cases h with
  | bare spaced =>
    have free : '$' ∉ trim s := fun mem =>
      spaced.not_mem numeral (by decide) (by decide) (mem_of_mem_trim mem)
    rw [withoutLeading_of_not_mem free, squeeze_trim, spaced.squeeze_eq numeral.firm]
  | @dollar b s blank spaced =>
    -- the blanks before the sign are at the edge of the text, those behind it are not
    have trimmed : trim (b ++ '$' :: s) = '$' :: trimEnd s := by
      rw [trim, trimStart_blanks_append blank, trimStart_cons_firm (by decide)]
      exact trimEnd_append_cons (by decide) [] s
    rw [trimmed, withoutLeading, if_pos rfl, squeeze_trimEnd, spaced.squeeze_eq numeral.firm]

theorem Wrapped.unwrap_eq (h : Wrapped mark t u) (free : mark ∉ t) : unwrap mark u = t := by
  cases h with
  | bare => exact unwrap_of_not_mem free
  | within => exact unwrap_enclosed mark t

/-- Cleaning takes away whatever is written around a number. -/
theorem Decorated.cleaned_eq (h : Decorated t u) (numeral : IsNumeral t) : cleaned u = t := by
  obtain ⟨priced, quoted, price, single, double⟩ := h
  have noSingle : '\'' ∉ priced := price.not_mem numeral (by decide) (by decide) (by decide)
  have noDouble : '"' ∉ quoted :=
    single.not_mem (price.not_mem numeral (by decide) (by decide) (by decide)) (by decide)
  rw [cleaned, double.unwrap_eq noDouble, single.unwrap_eq noSingle, price.squeeze_eq numeral]

/-- Whatever is written around a number, it reads as that number; and all the ways to write it
are the same. -/
theorem readCleaned?_decorated {x : Binary64} (read : read? t = some x) :
    readCleaned? t = read? t ∧ (∀ u, Decorated t u → readCleaned? u = some x) ∧
      ∀ u w, Decorated t u → Decorated t w → sameTextOrNumber u w = true := by
  have decorated {u : Text} (h : Decorated t u) : readCleaned? u = some x := by
    rw [readCleaned?, h.cleaned_eq (read?_isNumeral read), read]
  obtain ⟨i, place⟩ := read?_place read
  have meaning {u : Text} (h : Decorated t u) : place? u = some i := by
    rw [place?, decorated h, Option.bind_some, place]
  refine ⟨(read?_isNumeral read).readCleaned?_eq, fun u => decorated, fun u w first second => ?_⟩
  exact sameTextOrNumber_iff_place.mpr (.inr ⟨i, meaning first, meaning second⟩)

/-- A hexadecimal number with all decorations, and with a dollar sign alone. -/
theorem readCleaned?_decorated_hex :
    ∃ x, read? "-0x1F".toList = some x ∧ readCleaned? "\"' \t$ -\u00a00x1 F '\"".toList = some x ∧
      sameTextOrNumber "\"' \t$ -\u00a00x1 F '\"".toList "$-0x1F".toList = true := by
  have spells : Spells 31 "0x1F".toList := .hex 0 (.inl rfl) (by decide) (by decide)
  have signed : '-' :: "0x1F".toList = "-0x1F".toList := by decide
  have read := spells.read?_minus
  rw [signed] at read
  have spaced : Spaced "-0x1F".toList " -\u00a00x1 F ".toList :=
    .blank (by decide) (.char _ (.blank (by decide) (.char _ (.char _ (.char _
      (.blank (by decide) (.char _ (.blank (by decide) .nil))))))))
  have whole : Decorated "-0x1F".toList "\"' \t$ -\u00a00x1 F '\"".toList :=
    ⟨_, _, .dollar (b := " \t".toList) (by decide) spaced, .within, .within⟩
  have close : Spaced "-0x1F".toList "-0x1F".toList :=
    .char _ (.char _ (.char _ (.char _ (.char _ .nil))))
  have bare : Decorated "-0x1F".toList "$-0x1F".toList :=
    ⟨_, _, .dollar (b := []) (by decide) close, .bare, .bare⟩
  obtain ⟨_, reads, same⟩ := readCleaned?_decorated read
  exact ⟨_, read, reads _ whole, same _ _ whole bare⟩

end Numeral

end Criteria
