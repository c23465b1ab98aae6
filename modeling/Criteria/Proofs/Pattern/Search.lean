import Criteria.Pattern.Search

/-!
# The search finds what the spans describe

A set of positions is moved through a pattern. This module relates the set that
comes out to the spans of the pattern.

* `testBit_reach_iff`: a position is reached exactly if a span leads to it from a
  position of the set.
* `isFoundIn_iff`: the search answers whether the pattern is found.

A span never goes back, so copies without a bound need no more rounds than the
text has positions.
-/

namespace Criteria

/-! ## Rows of copies -/

/-- A number of spans, one after the other. -/
def Copies (R : Nat → Nat → Prop) : Nat → Nat → Nat → Prop
  | 0, i, k => i = k
  | n + 1, i, k => ∃ j, R i j ∧ Copies R n j k

theorem copies_add_iff {R : Nat → Nat → Prop} {m n i k : Nat} :
    Copies R (m + n) i k ↔ ∃ j, Copies R m i j ∧ Copies R n j k := by
  induction m generalizing i with
  | zero =>
    rw [Nat.zero_add]
    constructor
    · intro copies
      exact ⟨i, rfl, copies⟩
    · rintro ⟨j, rfl, copies⟩
      exact copies
  | succ m ih =>
    rw [Nat.add_right_comm]
    constructor
    · rintro ⟨j, span, rest⟩
      obtain ⟨j', before, after⟩ := ih.mp rest
      exact ⟨j', ⟨j, span, before⟩, after⟩
    · rintro ⟨j', ⟨j, span, before⟩, after⟩
      exact ⟨j, span, ih.mpr ⟨j', before, after⟩⟩

theorem Copies.shorten {R : Nat → Nat → Prop} (forward : ∀ i j, R i j → i ≤ j) {n i k : Nat}
    (h : Copies R n i k) : i ≤ k ∧ ∃ m, m ≤ k - i ∧ Copies R m i k := by
  induction n generalizing i with
  | zero =>
    cases h
    exact ⟨Nat.le_refl _, 0, Nat.zero_le _, rfl⟩
  | succ n ih =>
    obtain ⟨j, step, rest⟩ := h
    obtain ⟨le, m, enough, copies⟩ := ih rest
    have ahead := forward i j step
    refine ⟨Nat.le_trans ahead le, ?_⟩
    -- a copy that stays where it is can be left out
    rcases Nat.eq_or_lt_of_le ahead with rfl | further
    · exact ⟨m, enough, copies⟩
    · exact ⟨m + 1, by omega, j, step, copies⟩

namespace Pattern

variable {t : Text}

theorem Spans.bounds {p : Pattern} {i j : Nat} (h : p.Spans t i j) : i ≤ j ∧ j ≤ t.length := by
  induction h with
  | empty le => exact ⟨Nat.le_refl _, le⟩
  | anchor le _ => exact ⟨Nat.le_refl _, le⟩
  | one found _ => exact ⟨Nat.le_succ _, (List.getElem?_eq_some_iff.mp found).1⟩
  | sequence _ _ ih ih' => exact ⟨Nat.le_trans ih.1 ih'.1, ih'.2⟩
  | left _ ih => exact ih
  | right _ ih => exact ih
  | noCopy le => exact ⟨Nat.le_refl _, le⟩
  | leastCopy _ _ ih ih' => exact ⟨Nat.le_trans ih.1 ih'.1, ih'.2⟩
  | extraCopy _ _ ih ih' => exact ⟨Nat.le_trans ih.1 ih'.1, ih'.2⟩
  | freeCopy _ _ ih ih' => exact ⟨Nat.le_trans ih.1 ih'.1, ih'.2⟩
  | group _ ih => exact ih

theorem spans_sequence_iff {p q : Pattern} {i k : Nat} :
    (sequence p q).Spans t i k ↔ ∃ j, p.Spans t i j ∧ q.Spans t j k := by
  constructor
  · intro h
    cases h with
    | sequence first second => exact ⟨_, first, second⟩
  · rintro ⟨j, first, second⟩
    exact .sequence first second

theorem spans_either_iff {p q : Pattern} {i j : Nat} :
    (either p q).Spans t i j ↔ p.Spans t i j ∨ q.Spans t i j := by
  constructor
  · intro h
    cases h with
    | left first => exact .inl first
    | right second => exact .inr second
  · rintro (first | second)
    · exact .left first
    · exact .right second

theorem spans_group_iff {p : Pattern} {i j : Nat} : (group p).Spans t i j ↔ p.Spans t i j := by
  constructor
  · intro h
    cases h with
    | group inner => exact inner
  · exact .group

theorem spans_one_iff {s : CharSet} {i j : Nat} :
    (one s).Spans t i j ↔ j = i + 1 ∧ ∃ c, t[i]? = some c ∧ s.contains c = true := by
  constructor
  · intro h
    cases h with
    | one found mem => exact ⟨rfl, _, found, mem⟩
  · rintro ⟨rfl, c, found, mem⟩
    exact .one found mem

theorem spans_anchor_iff {a : Anchor} {i j : Nat} :
    (anchor a).Spans t i j ↔ j = i ∧ i ≤ t.length ∧ a.holds (charBefore t i) t[i]? = true := by
  constructor
  · intro h
    cases h with
    | anchor le holds => exact ⟨rfl, le, holds⟩
  · rintro ⟨rfl, le, holds⟩
    exact .anchor le holds

theorem Spans.copies {p : Pattern} {least : Nat} {extra : Option Nat} {i k : Nat}
    (h : (repeated p least extra).Spans t i k) :
    i ≤ t.length ∧ ∃ more, (∀ most ∈ extra, more ≤ most) ∧
      Copies (p.Spans t) (least + more) i k := by
  generalize hq : repeated p least extra = q at h
  induction h generalizing least extra with
  | noCopy le =>
    cases hq
    exact ⟨le, 0, fun _ _ => Nat.zero_le _, rfl⟩
  | leastCopy first _ _ ih =>
    cases hq
    obtain ⟨_, more, allowed, copies⟩ := ih rfl
    refine ⟨Nat.le_trans first.bounds.1 first.bounds.2, more, allowed, ?_⟩
    rw [Nat.add_right_comm]
    exact ⟨_, first, copies⟩
  | extraCopy first _ _ ih =>
    cases hq
    obtain ⟨_, more, allowed, copies⟩ := ih rfl
    refine ⟨Nat.le_trans first.bounds.1 first.bounds.2, more + 1, ?_, _, first,
      by simpa using copies⟩
    intro most hm
    cases hm
    exact Nat.succ_le_succ (allowed _ rfl)
  | freeCopy first _ _ ih =>
    cases hq
    obtain ⟨_, more, _, copies⟩ := ih rfl
    refine ⟨Nat.le_trans first.bounds.1 first.bounds.2, more + 1, ?_, _, first,
      by simpa using copies⟩
    intro most hm
    cases hm
  | _ => cases hq

theorem spans_of_copies {p : Pattern} {least more : Nat} {extra : Option Nat} {i k : Nat}
    (le : i ≤ t.length) (allowed : ∀ most ∈ extra, more ≤ most)
    (copies : Copies (p.Spans t) (least + more) i k) : (repeated p least extra).Spans t i k := by
  -- copies that have to be there come first, then those that may
  induction least generalizing i with
  | succ least ih =>
    rw [Nat.add_right_comm] at copies
    obtain ⟨j, first, rest⟩ := copies
    exact .leastCopy first (ih first.bounds.2 rest)
  | zero =>
    rw [Nat.zero_add] at copies
    induction more generalizing i extra with
    | zero =>
      cases copies
      exact .noCopy le
    | succ more ih =>
      obtain ⟨j, first, rest⟩ := copies
      cases extra with
      | none =>
        refine .freeCopy first (ih ?_ first.bounds.2 rest)
        intro most hm
        cases hm
      | some most =>
        have positive := allowed most rfl
        cases most with
        | zero => omega
        | succ most =>
          refine .extraCopy first (ih ?_ first.bounds.2 rest)
          intro m hm
          cases hm
          omega

/-- A repetition describes the rows of copies with a number of them that is allowed. -/
theorem spans_repeated_iff {p : Pattern} {least : Nat} {extra : Option Nat} {i k : Nat} :
    (repeated p least extra).Spans t i k ↔
      i ≤ t.length ∧ ∃ more, (∀ most ∈ extra, more ≤ most) ∧
        Copies (p.Spans t) (least + more) i k :=
  ⟨Spans.copies, fun ⟨le, _, allowed, copies⟩ => spans_of_copies le allowed copies⟩

end Pattern

/-! ## Sets of positions -/

namespace Positions

/-- No position of the set is above a bound. -/
def UpTo (n : Nat) (s : Positions) : Prop := ∀ i, s.testBit i = true → i ≤ n

theorem testBit_ofList (l : List Bool) (i : Nat) : (ofList l).testBit i = l[i]?.getD false := by
  induction l generalizing i with
  | nil => simp [ofList]
  | cons b l ih =>
    unfold ofList
    cases i with
    | zero => cases b <;> simp [Nat.testBit_zero]
    | succ i =>
      have half : (2 * ofList l + b.toNat) / 2 = ofList l := by
        have := b.toNat_lt
        unfold Positions at *
        omega
      rw [Nat.testBit_add_one, half, ih]
      simp

theorem testBit_upTo (n i : Nat) : (upTo n).testBit i = decide (i ≤ n) := by
  unfold upTo
  rw [Nat.one_shiftLeft, Nat.testBit_two_pow_sub_one]
  exact decide_eq_decide.mpr Nat.lt_succ_iff

theorem testBit_without (s t : Positions) (i : Nat) :
    (without s t).testBit i = (s.testBit i && !t.testBit i) := by
  unfold without
  rw [Nat.testBit_xor, Nat.testBit_or]
  cases s.testBit i <;> cases t.testBit i <;> rfl

end Positions

namespace Walk

open Positions

theorem neighbours_getElem? (before : Option Char) (t : Text) (i : Nat) :
    (neighbours before t)[i]? =
      if i ≤ t.length then some (if i = 0 then before else t[i - 1]?, t[i]?) else none := by
  induction t generalizing before i with
  | nil => cases i <;> simp [neighbours]
  | cons c t ih =>
    cases i with
    | zero => simp [neighbours]
    | succ i =>
      rw [neighbours, List.getElem?_cons_succ, ih]
      cases i <;> simp

/-- What is reached from a set by a step is what a span leads to. -/
def StepsBy (step : Positions → Positions) (n : Nat) (R : Nat → Nat → Prop) : Prop :=
  ∀ s, UpTo n s → ∀ k, (step s).testBit k = true ↔ ∃ i, s.testBit i = true ∧ R i k

section

variable {step : Positions → Positions} {n : Nat} {R : Nat → Nat → Prop}

theorem iterate_fixed {s : Positions} (fixed : step s = s) (m : Nat) : iterate step m s = s := by
  cases m with
  | zero => rfl
  | succ m => simp [iterate, fixed]

theorem iterate_succ (m : Nat) (s : Positions) :
    iterate step (m + 1) s = iterate step m (step s) := by
  show (if step s = s then s else iterate step m (step s)) = iterate step m (step s)
  -- stopping early at a set that stays the same loses nothing
  by_cases fixed : step s = s
  · rw [if_pos fixed, fixed, iterate_fixed fixed]
  · rw [if_neg fixed]

theorem StepsBy.upTo (steps : StepsBy step n R) (bounds : ∀ i k, R i k → i ≤ k ∧ k ≤ n)
    {s : Positions} (hs : UpTo n s) : UpTo n (step s) := by
  intro k hk
  obtain ⟨i, _, span⟩ := (steps s hs k).mp hk
  exact (bounds i k span).2

theorem StepsBy.iterate (steps : StepsBy step n R) (bounds : ∀ i k, R i k → i ≤ k ∧ k ≤ n)
    (m : Nat) : StepsBy (iterate step m) n (Copies R m) := by
  induction m with
  | zero =>
    intro s _ k
    simp [Walk.iterate, Copies]
  | succ m ih =>
    intro s hs k
    rw [iterate_succ, ih (step s) (steps.upTo bounds hs) k]
    constructor
    · rintro ⟨j, hj, copies⟩
      obtain ⟨i, hi, span⟩ := (steps s hs j).mp hj
      exact ⟨i, hi, j, span, copies⟩
    · rintro ⟨i, hi, j, span, copies⟩
      exact ⟨j, (steps s hs j).mpr ⟨i, hi, span⟩, copies⟩

theorem copies_le (bounds : ∀ i k, R i k → i ≤ k ∧ k ≤ n) {m i k : Nat}
    (copies : Copies R (m + 1) i k) : k ≤ n := by
  induction m generalizing i with
  | zero =>
    obtain ⟨j, span, rfl⟩ := copies
    exact (bounds i j span).2
  | succ m ih =>
    obtain ⟨j, _, rest⟩ := copies
    exact ih rest

theorem StepsBy.iterate_upTo (steps : StepsBy step n R) (bounds : ∀ i k, R i k → i ≤ k ∧ k ≤ n)
    (m : Nat) {s : Positions} (hs : UpTo n s) : UpTo n (Walk.iterate step m s) := by
  intro k hk
  obtain ⟨i, hi, copies⟩ := (steps.iterate bounds m s hs k).mp hk
  cases m with
  | zero => exact copies ▸ hs i hi
  | succ m => exact copies_le bounds copies

/-- The positions that were found but not just now have been stepped from. -/
def Settled (R : Nat → Nat → Prop) (latest found : Positions) : Prop :=
  (∀ i, latest.testBit i = true → found.testBit i = true) ∧
    ∀ i k, found.testBit i = true → latest.testBit i = false → R i k → found.testBit k = true

theorem copies_closed {found : Positions}
    (closed : ∀ i k, found.testBit i = true → R i k → found.testBit k = true) {m i k : Nat}
    (hi : found.testBit i = true) (copies : Copies R m i k) : found.testBit k = true := by
  induction m generalizing i with
  | zero => exact copies ▸ hi
  | succ m ih =>
    obtain ⟨j, span, rest⟩ := copies
    exact ih (closed i j hi span) rest

/-- What is not in the set yet but one step away from the positions found last. -/
def fresh (step : Positions → Positions) (latest found : Positions) : Positions :=
  without (step latest) found

theorem spread_succ (m : Nat) (latest found : Positions) :
    spread step (m + 1) latest found =
      if fresh step latest found = 0 then found
      else spread step m (fresh step latest found) (found ||| fresh step latest found) :=
  rfl

/-- A fresh position is one step away from a position found last. -/
theorem StepsBy.testBit_fresh (steps : StepsBy step n R) {latest found : Positions}
    (latestUpTo : UpTo n latest) {k : Nat} :
    (fresh step latest found).testBit k = true ↔
      (∃ i, latest.testBit i = true ∧ R i k) ∧ found.testBit k = false := by
  rw [fresh, testBit_without, Bool.and_eq_true, steps latest latestUpTo k, Bool.not_eq_true']

namespace Settled

variable {latest found : Positions}

/-- One more step leads to what was found or to what is fresh. -/
theorem onward (settled : Settled R latest found) (steps : StepsBy step n R) (hs : UpTo n found)
    {i k : Nat} (hi : found.testBit i = true) (span : R i k) :
    found.testBit k = true ∨ (fresh step latest found).testBit k = true := by
  obtain ⟨sub, old⟩ := settled
  cases hf : found.testBit k with
  | true => exact .inl rfl
  | false =>
    cases hl : latest.testBit i with
    | false => exact .inl (hf ▸ old i k hi hl span)
    | true =>
      have latestUpTo : UpTo n latest := fun i hi => hs i (sub i hi)
      exact .inr ((steps.testBit_fresh latestUpTo).mpr ⟨⟨i, hl, span⟩, hf⟩)

theorem widen (settled : Settled R latest found) (steps : StepsBy step n R) (hs : UpTo n found) :
    Settled R (fresh step latest found) (found ||| fresh step latest found) := by
  constructor
  · intro i hi
    simp [hi]
  · intro i k hi hl span
    rw [Nat.testBit_or, hl, Bool.or_false] at hi
    rw [Nat.testBit_or, Bool.or_eq_true]
    exact settled.onward steps hs hi span

theorem widen_upTo (settled : Settled R latest found) (steps : StepsBy step n R)
    (bounds : ∀ i k, R i k → i ≤ k ∧ k ≤ n) (hs : UpTo n found) :
    UpTo n (found ||| fresh step latest found) := by
  intro k hk
  rw [Nat.testBit_or, Bool.or_eq_true] at hk
  rcases hk with h | h
  · exact hs k h
  · obtain ⟨⟨i, _, span⟩, _⟩ := (steps.testBit_fresh fun i hi => hs i (settled.1 i hi)).mp h
    exact (bounds i k span).2

end Settled

/-- Spreading for a number of rounds reaches what at most that many copies lead to. -/
theorem testBit_spread (steps : StepsBy step n R) (bounds : ∀ i k, R i k → i ≤ k ∧ k ≤ n)
    (m : Nat) {latest found : Positions} (hs : UpTo n found) (settled : Settled R latest found)
    (k : Nat) :
    (spread step m latest found).testBit k = true ↔
      ∃ i, found.testBit i = true ∧ ∃ more, more ≤ m ∧ Copies R more i k := by
  induction m generalizing latest found with
  | zero =>
    constructor
    · intro hk
      exact ⟨k, hk, 0, Nat.le_refl 0, rfl⟩
    · rintro ⟨i, hi, more, le, copies⟩
      obtain rfl := Nat.le_zero.mp le
      exact copies ▸ hi
  | succ m ih =>
    rw [spread_succ]
    split
    next none =>
      constructor
      · intro hk
        exact ⟨k, hk, 0, Nat.zero_le _, rfl⟩
      · -- nothing is fresh, so the set is closed under steps
        rintro ⟨i, hi, more, _, copies⟩
        refine copies_closed (fun i j hi span => ?_) hi copies
        rcases settled.onward steps hs hi span with h | h
        · exact h
        · simp [none] at h
    next =>
      rw [ih (settled.widen_upTo steps bounds hs) (settled.widen steps hs)]
      constructor
      · rintro ⟨i, hi, more, le, copies⟩
        rw [Nat.testBit_or, Bool.or_eq_true] at hi
        rcases hi with h | h
        · exact ⟨i, h, more, Nat.le_succ_of_le le, copies⟩
        · obtain ⟨⟨i', hi', span⟩, _⟩ :=
            (steps.testBit_fresh fun i hi => hs i (settled.1 i hi)).mp h
          exact ⟨i', settled.1 i' hi', more + 1, Nat.succ_le_succ le, i, span, copies⟩
      · rintro ⟨i, hi, more, le, copies⟩
        cases more with
        | zero => exact ⟨i, by simp [hi], 0, Nat.zero_le _, copies⟩
        | succ more =>
          obtain ⟨j, span, rest⟩ := copies
          refine ⟨j, ?_, more, Nat.le_of_succ_le_succ le, rest⟩
          rw [Nat.testBit_or, Bool.or_eq_true]
          exact settled.onward steps hs hi span

/-- Copies without a bound need no more rounds than there are positions. -/
theorem testBit_spread_repeated (steps : StepsBy step n R)
    (bounds : ∀ i k, R i k → i ≤ k ∧ k ≤ n) (extra : Option Nat) {s : Positions} (hs : UpTo n s)
    (k : Nat) :
    (spread step (extra.getD (n + 1)) s s).testBit k = true ↔
      ∃ i, s.testBit i = true ∧ ∃ more, (∀ most ∈ extra, more ≤ most) ∧ Copies R more i k := by
  have settled : Settled R s s := by
    refine ⟨fun _ hi => hi, fun i k hi hl _ => ?_⟩
    rw [hi] at hl
    cases hl
  rw [testBit_spread steps bounds _ hs settled]
  cases extra with
  | some most => simp
  | none =>
    simp only [Option.getD_none, Option.not_mem_none, false_implies, implies_true, true_and]
    constructor
    · rintro ⟨i, hi, more, _, copies⟩
      exact ⟨i, hi, more, copies⟩
    · rintro ⟨i, hi, more, copies⟩
      have forward : ∀ i k, R i k → i ≤ k := fun i k span => (bounds i k span).1
      obtain ⟨le, fewer, few, copies'⟩ := copies.shorten forward
      have inText : k ≤ n := by
        cases more with
        | zero => exact copies ▸ hs i hi
        | succ more => exact copies_le bounds copies
      exact ⟨i, hi, fewer, by omega, copies'⟩

end

/-! ## The search -/

/-- Moving a set through the pattern reaches what the spans of the pattern lead to. -/
abbrev StepsBySpans (t : Text) (p : Pattern) : Prop :=
  StepsBy ((ofPattern t p).move t.length) t.length (p.Spans t)

section

variable (t : Text)

theorem steps_anchor (a : Anchor) : StepsBySpans t (.anchor a) := by
  intro s hs k
  simp only [ofPattern, move, Nat.testBit_and, testBit_ofList, List.getElem?_map,
    neighbours_getElem?, Pattern.spans_anchor_iff]
  constructor
  · intro h
    rw [Bool.and_eq_true] at h
    have le := hs k h.1
    refine ⟨k, h.1, rfl, le, ?_⟩
    rw [if_pos le] at h
    exact h.2
  · rintro ⟨i, hi, rfl, le, holds⟩
    rw [if_pos le, hi]
    exact holds

theorem steps_one (set : CharSet) : StepsBySpans t (.one set) := by
  intro s hs k
  simp only [ofPattern, move, Nat.testBit_shiftLeft, Nat.testBit_and, testBit_ofList,
    List.getElem?_map, Pattern.spans_one_iff]
  constructor
  · intro h
    rw [Bool.and_eq_true, decide_eq_true_eq, Bool.and_eq_true] at h
    obtain ⟨positive, hk, mem⟩ := h
    refine ⟨k - 1, hk, by omega, ?_⟩
    cases found : t[k - 1]? with
    | none => simp [found] at mem
    | some c =>
      rw [found] at mem
      exact ⟨c, rfl, mem⟩
  · rintro ⟨i, hi, rfl, c, found, mem⟩
    simp [hi, found, mem]

variable {t} {p q : Pattern}

theorem steps_sequence (ihp : StepsBySpans t p) (ihq : StepsBySpans t q) :
    StepsBySpans t (.sequence p q) := by
  intro s hs k
  have middle : UpTo t.length ((ofPattern t p).move t.length s) :=
    ihp.upTo (fun _ _ => Pattern.Spans.bounds) hs
  show ((ofPattern t q).move t.length ((ofPattern t p).move t.length s)).testBit k = true ↔ _
  rw [ihq _ middle k]
  simp only [Pattern.spans_sequence_iff]
  constructor
  · rintro ⟨j, hj, second⟩
    obtain ⟨i, hi, first⟩ := (ihp s hs j).mp hj
    exact ⟨i, hi, j, first, second⟩
  · rintro ⟨i, hi, j, first, second⟩
    exact ⟨j, (ihp s hs j).mpr ⟨i, hi, first⟩, second⟩

theorem steps_either (ihp : StepsBySpans t p) (ihq : StepsBySpans t q) :
    StepsBySpans t (.either p q) := by
  intro s hs k
  simp only [ofPattern, move, Nat.testBit_or, Bool.or_eq_true, ihp s hs k, ihq s hs k,
    Pattern.spans_either_iff]
  constructor
  · rintro (⟨i, hi, first⟩ | ⟨i, hi, second⟩)
    · exact ⟨i, hi, .inl first⟩
    · exact ⟨i, hi, .inr second⟩
  · rintro ⟨i, hi, first | second⟩
    · exact .inl ⟨i, hi, first⟩
    · exact .inr ⟨i, hi, second⟩

theorem steps_repeated (ih : StepsBySpans t p) (least : Nat) (extra : Option Nat) :
    StepsBySpans t (.repeated p least extra) := by
  intro s hs k
  have bounds : ∀ i k, p.Spans t i k → i ≤ k ∧ k ≤ t.length := fun _ _ => Pattern.Spans.bounds
  have first := ih.iterate bounds least
  -- a span of the repetition is `least` copies and then those beyond
  have row : ∀ i, s.testBit i = true →
      ((p.repeated least extra).Spans t i k ↔ ∃ j, Copies (p.Spans t) least i j ∧
        ∃ more, (∀ most ∈ extra, more ≤ most) ∧ Copies (p.Spans t) more j k) := by
    intro i hi
    rw [Pattern.spans_repeated_iff]
    constructor
    · rintro ⟨_, more, allowed, copies⟩
      obtain ⟨j, before, after⟩ := copies_add_iff.mp copies
      exact ⟨j, before, more, allowed, after⟩
    · rintro ⟨j, before, more, allowed, after⟩
      exact ⟨hs i hi, more, allowed, copies_add_iff.mpr ⟨j, before, after⟩⟩
  show (spread _ (extra.getD (t.length + 1)) _ _).testBit k = true ↔ _
  rw [testBit_spread_repeated ih bounds extra (ih.iterate_upTo bounds least hs)]
  constructor
  · rintro ⟨j, hj, more, allowed, after⟩
    obtain ⟨i, hi, before⟩ := (first s hs j).mp hj
    exact ⟨i, hi, (row i hi).mpr ⟨j, before, more, allowed, after⟩⟩
  · rintro ⟨i, hi, span⟩
    obtain ⟨j, before, more, allowed, after⟩ := (row i hi).mp span
    exact ⟨j, (first s hs j).mpr ⟨i, hi, before⟩, more, allowed, after⟩

end

theorem steps_ofPattern (t : Text) (p : Pattern) : StepsBySpans t p := by
  induction p with
  | empty =>
    intro s hs k
    constructor
    · intro hk
      exact ⟨k, hk, .empty (hs k hk)⟩
    · rintro ⟨i, hi, span⟩
      cases span
      exact hi
  | anchor a => exact steps_anchor t a
  | one set => exact steps_one t set
  | sequence p q ihp ihq => exact steps_sequence ihp ihq
  | either p q ihp ihq => exact steps_either ihp ihq
  | repeated p least extra ih => exact steps_repeated ih least extra
  | group p ih =>
    intro s hs k
    simp only [Pattern.spans_group_iff]
    exact ih s hs k

end Walk

namespace Pattern

open Walk

/-- A position is reached exactly if a span leads to it from a position of the set. -/
theorem testBit_reach_iff {t : Text} {s : Positions} (hs : Positions.UpTo t.length s) (p : Pattern)
    (k : Nat) : (p.reach t s).testBit k = true ↔ ∃ i, s.testBit i = true ∧ p.Spans t i k :=
  steps_ofPattern t p s hs k

/-- The search answers whether the pattern is found. -/
theorem isFoundIn_iff (p : Pattern) (t : Text) : p.isFoundIn t = true ↔ p.Found t := by
  have hs : Positions.UpTo t.length (.upTo t.length) := by
    intro i hi
    simpa [Positions.testBit_upTo] using hi
  unfold isFoundIn
  rw [bne_iff_ne]
  constructor
  · intro ne
    obtain ⟨k, hk⟩ := Nat.exists_testBit_of_ne_zero ne
    obtain ⟨i, _, span⟩ := (testBit_reach_iff hs p k).mp hk
    exact ⟨i, k, span⟩
  · rintro ⟨i, k, span⟩ zero
    have hi : (Positions.upTo t.length).testBit i = true := by
      have := span.bounds
      rw [Positions.testBit_upTo, decide_eq_true_eq]
      omega
    have hk := (testBit_reach_iff hs p k).mpr ⟨i, hi, span⟩
    rw [zero] at hk
    simp at hk

end Pattern

end Criteria
