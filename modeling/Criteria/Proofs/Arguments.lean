import Criteria.CommandLine

/-!
# What the arguments say

A command line is read from left to right into one record. This module says what
is read, apart from the reader: arguments are written items, an item being the
expression, a value with its option, or a switch, and how an item is written is
not part of it.

* `Written`: the ways of writing items as arguments.
* `Written.readAll?_eq`: reading arguments adds up the items they are written for.
* `addAll?_eq_some_iff`: what items add up to, whatever their order among each other.
* `Asks`: the command line that items ask for.
* `ofArguments?_eq_some_iff`: the command lines that are accepted.
-/

namespace Criteria

namespace Text

variable {mark : Char} {t before after : Text}

theorem cut?_cons (mark c : Char) (t : Text) :
    cut? [mark] (c :: t) =
      if mark = c then some ([], t)
      else (cut? [mark] t).map fun parts => (c :: parts.1, parts.2) := by
  by_cases h : mark = c
  · simp [cut?, h]
  · simp [cut?, h]

/-- A text is cut at the first place of the mark. -/
theorem cut?_eq_some_iff :
    cut? [mark] t = some (before, after) ↔ t = before ++ mark :: after ∧ mark ∉ before := by
  induction t generalizing before with
  | nil => simp [cut?]
  | cons c t ih =>
    rw [cut?_cons]
    by_cases h : mark = c
    · subst h
      cases before with
      | nil => simp
      | cons d before => simp +contextual [eq_comm]
    · rw [if_neg h, Option.map_eq_some_iff]
      cases before with
      | nil => simp [Ne.symm h]
      | cons d before => simp [ih]; grind

theorem cut?_eq_none_iff : cut? [mark] t = none ↔ mark ∉ t := by
  induction t with
  | nil => simp [cut?]
  | cons c t ih =>
    rw [cut?_cons]
    by_cases h : mark = c
    · simp [h]
    · simp [h, ih]

end Text

namespace CommandLine

/-! ## Items and how they are written -/

/-- One thing that the arguments say. -/
inductive Item where
  | expression (t : Text)
  | value (option : ValueOption) (t : Text)
  | switch (switch : Switch)
deriving DecidableEq, Repr

def ValueOption.name (option : ValueOption) : Text :=
  if option = .data then "data".toList else "var".toList

def Switch.name (switch : Switch) : Text :=
  if switch = .missing then "null".toList
  else if switch = .pretty then "pretty".toList
  else "verbose".toList

/-- An option by its name. -/
def long (name : Text) : Text := '-' :: '-' :: name

/-- An argument that is not taken for an option: one dash alone may stand for a text. -/
def IsPlain (t : Text) : Prop := t.head? = some '-' → t = ['-']

instance (t : Text) : Decidable (IsPlain t) := inferInstanceAs (Decidable (_ → _))

/-- `Written arguments items`: the arguments are a way of writing the items. -/
inductive Written : List Text → List Item → Prop
  | nil : Written [] []
  | expression {t : Text} {rest items} : IsPlain t → Written rest items →
      Written (t :: rest) (.expression t :: items)
  | attached {option : ValueOption} {t : Text} {rest items} : Written rest items →
      Written (long (option.name ++ '=' :: t) :: rest) (.value option t :: items)
  | separate {option : ValueOption} {t : Text} {rest items} : IsPlain t → Written rest items →
      Written (long option.name :: t :: rest) (.value option t :: items)
  | switch {switch : Switch} {rest items} : Written rest items →
      Written (long switch.name :: rest) (.switch switch :: items)
  | letters {n : Nat} {rest items} : Written rest items →
      Written (('-' :: List.replicate (n + 1) 'v') :: rest)
        (List.replicate (n + 1) (.switch .verbose) ++ items)
  | onlyExpressions {texts : List Text} : Written (long [] :: texts) (texts.map .expression)

/-! ## Adding items up -/

def Reading.add? (r : Reading) : Item → Option Reading
  | .expression t => r.addExpression? t
  | .value option t => r.addValue? option t
  | .switch switch => r.turnOn? switch

def Reading.addAll? (r : Reading) : List Item → Option Reading
  | [] => some r
  | item :: items => (r.add? item).bind fun r => r.addAll? items

theorem Reading.addAll?_append (r : Reading) (items items' : List Item) :
    r.addAll? (items ++ items') = (r.addAll? items).bind fun r => r.addAll? items' := by
  induction items generalizing r with
  | nil => rfl
  | cons item items ih =>
    simp only [List.cons_append, addAll?, ih, Option.bind_assoc]

/-! ## Reading written items -/

section Reading

variable {r r' : Reading} {t : Text} {arguments : List Text} {items : List Item}

theorem ofText_plain (plain : IsPlain t) : Argument.ofText t = .plain t := by
  unfold Argument.ofText
  split
  · exact absurd (plain rfl) (by simp)
  · exact absurd (plain rfl) (by simp)
  · exact absurd (plain rfl) (by simp)
  · rfl

theorem ofText_long {body : Text} (named : body ≠ []) :
    Argument.ofText (long body) =
      (Text.cut? ['='] body).elim (.long body none) fun p => .long p.1 (some p.2) := by
  obtain ⟨c, body, rfl⟩ := List.exists_cons_of_ne_nil named
  simp only [long, Argument.ofText]
  cases Text.cut? ['='] (c :: body) <;> rfl

theorem ofText_letters {c : Char} (letter : c ≠ '-') :
    Argument.ofText ('-' :: c :: t) = .letters (c :: t) := by
  unfold Argument.ofText
  split <;> simp_all

theorem name_isOption (option : ValueOption) :
    option.name ≠ [] ∧ '=' ∉ option.name ∧ valueOption? option.name = some option := by
  cases option <;> decide

theorem name_isSwitch (switch : Switch) :
    switch.name ≠ [] ∧ '=' ∉ switch.name ∧ valueOption? switch.name = none ∧
      longSwitch? switch.name = some switch := by
  cases switch <;> decide

theorem ofText_long_alone {name : Text} (named : name ≠ []) (whole : '=' ∉ name) :
    Argument.ofText (long name) = .long name none := by
  rw [ofText_long named, Text.cut?_eq_none_iff.mpr whole]
  rfl

theorem ofText_long_attached {name : Text} (whole : '=' ∉ name) :
    Argument.ofText (long (name ++ '=' :: t)) = .long name (some t) := by
  rw [ofText_long (by simp), Text.cut?_eq_some_iff.mpr ⟨rfl, whole⟩]
  rfl

theorem turnOnLetters?_eq (n : Nat) :
    r.turnOnLetters? (List.replicate n 'v') =
      r.addAll? (List.replicate n (.switch .verbose)) := by
  induction n generalizing r with
  | zero => rfl
  | succ n ih => simp only [List.replicate_succ, Reading.turnOnLetters?, Reading.addAll?,
      Reading.add?, ih, if_true]

theorem readExpressions?_eq (texts : List Text) :
    r.readExpressions? texts = r.addAll? (texts.map .expression) := by
  induction texts generalizing r with
  | nil => rfl
  | cons t texts ih =>
    simp only [Reading.readExpressions?, List.map_cons, Reading.addAll?, Reading.add?, ih]

/-- Reading arguments adds up the items that they are written for. -/
theorem Written.readAll?_eq (written : Written arguments items) :
    r.readAll? arguments = r.addAll? items := by
  induction written generalizing r with
  | nil => rfl
  | expression plain _ ih =>
    simp only [Reading.readAll?, ofText_plain plain, Reading.addAll?, Reading.add?, ih]
  | @attached option t rest items _ ih =>
    obtain ⟨_, whole, known⟩ := name_isOption option
    simp only [Reading.readAll?, ofText_long_attached whole, known, Reading.addAll?,
      Reading.add?, ih]
  | @separate option t rest items plain _ ih =>
    obtain ⟨named, whole, known⟩ := name_isOption option
    simp only [Reading.readAll?, ofText_long_alone named whole, known, ofText_plain plain,
      Reading.addAll?, Reading.add?, ih]
  | @switch switch rest items _ ih =>
    obtain ⟨named, whole, unknown, known⟩ := name_isSwitch switch
    simp only [Reading.readAll?, ofText_long_alone named whole, unknown, known,
      Reading.addAll?, Reading.add?, ih]
  | @letters n rest items _ ih =>
    have letters : Argument.ofText ('-' :: List.replicate (n + 1) 'v') =
        .letters (List.replicate (n + 1) 'v') := ofText_letters (by decide)
    simp only [Reading.readAll?, letters, turnOnLetters?_eq, Reading.addAll?_append, ih]
  | onlyExpressions => exact readExpressions?_eq _

/-! ### Arguments that are read are written items -/

theorem letters_of_turnOnLetters? {letters : Text} (h : r.turnOnLetters? letters = some r') :
    letters = List.replicate letters.length 'v' := by
  induction letters generalizing r with
  | nil => rfl
  | cons c letters ih =>
    rw [Reading.turnOnLetters?] at h
    split at h
    next letter =>
      obtain ⟨r₁, _, h⟩ := Option.bind_eq_some_iff.mp h
      rw [List.length_cons, List.replicate_succ, letter, ← ih h]
    next => cases h

theorem plain_of_ofText {u : Text} (h : Argument.ofText t = .plain u) : t = u ∧ IsPlain t := by
  unfold Argument.ofText at h
  split at h
  · cases h
  · split at h <;> cases h
  · cases h
  next notEnd notLong notLetters =>
    cases h
    refine ⟨rfl, fun dash => ?_⟩
    obtain ⟨rest, rfl⟩ := List.head?_eq_some_iff.mp dash
    cases rest with
    | nil => rfl
    | cons d rest => exact absurd rfl (notLetters d rest)

theorem end_of_ofText (h : Argument.ofText t = .endOfOptions) : t = long [] := by
  unfold Argument.ofText at h
  split at h
  · rfl
  · split at h <;> cases h
  · cases h
  · cases h

theorem letters_of_ofText {letters : Text} (h : Argument.ofText t = .letters letters) :
    t = '-' :: letters ∧ letters ≠ [] := by
  unfold Argument.ofText at h
  split at h
  · cases h
  · split at h <;> cases h
  · cases h
    exact ⟨rfl, List.cons_ne_nil _ _⟩
  · cases h

theorem long_of_ofText {name : Text} {attached : Option Text}
    (h : Argument.ofText t = .long name attached) :
    t = long (name ++ attached.elim [] ('=' :: ·)) := by
  unfold Argument.ofText at h
  split at h
  · cases h
  · split at h
    next cut =>
      cases h
      rw [(Text.cut?_eq_some_iff.mp cut).1]
      rfl
    next =>
      cases h
      simp [long]
  · cases h
  · cases h

theorem name_of_valueOption? {name : Text} {option : ValueOption}
    (h : valueOption? name = some option) : name = option.name := by
  unfold valueOption? at h
  split at h
  · cases h; assumption
  · split at h
    · cases h; assumption
    · cases h

theorem name_of_longSwitch? {name : Text} {switch : Switch}
    (h : longSwitch? name = some switch) : name = switch.name := by
  unfold longSwitch? at h
  split at h
  · cases h; assumption
  · split at h
    · cases h; assumption
    · split at h
      · cases h; assumption
      · cases h

/-- Arguments that can be read are a way of writing items. -/
theorem written_of_readAll? (h : r.readAll? arguments = some r') :
    ∃ items, Written arguments items := by
  fun_induction Reading.readAll? r arguments with
  | case1 r => exact ⟨[], .nil⟩
  | case2 r t rest ends =>
    rw [end_of_ofText ends]
    exact ⟨_, .onlyExpressions⟩
  | case3 r t rest u plain ih =>
    obtain ⟨r₁, _, h⟩ := Option.bind_eq_some_iff.mp h
    obtain ⟨items, written⟩ := ih _ h
    exact ⟨_, .expression (plain_of_ofText plain).2 written⟩
  | case4 r t rest letters read ih =>
    obtain ⟨r₁, on, h⟩ := Option.bind_eq_some_iff.mp h
    obtain ⟨items, written⟩ := ih _ h
    obtain ⟨rfl, some⟩ := letters_of_ofText read
    rw [letters_of_turnOnLetters? on]
    obtain ⟨n, length⟩ := Nat.exists_eq_succ_of_ne_zero (mt List.length_eq_zero_iff.mp some)
    rw [length]
    exact ⟨_, .letters written⟩
  | case5 r t rest name option value known read ih =>
    obtain ⟨r₁, _, h⟩ := Option.bind_eq_some_iff.mp h
    obtain ⟨items, written⟩ := ih _ h
    rw [long_of_ofText read, name_of_valueOption? known]
    exact ⟨_, .attached written⟩
  | case7 r t name option known value rest u plain read ih =>
    obtain ⟨r₁, _, h⟩ := Option.bind_eq_some_iff.mp h
    obtain ⟨items, written⟩ := ih _ h
    rw [long_of_ofText read, name_of_valueOption? known]
    simp only [Option.elim, List.append_nil]
    exact ⟨_, .separate (plain_of_ofText plain).2 written⟩
  | case10 r t rest name unknown switch known read ih =>
    obtain ⟨r₁, _, h⟩ := Option.bind_eq_some_iff.mp h
    obtain ⟨items, written⟩ := ih _ h
    rw [long_of_ofText read, name_of_longSwitch? known]
    simp only [Option.elim, List.append_nil]
    exact ⟨_, .switch written⟩
  | case6 | case8 | case9 | case11 => cases h

end Reading

/-! ## What items add up to -/

@[simp]
def Item.expression? : Item → Option Text
  | .expression t => some t
  | _ => none

@[simp]
def Item.value? (option : ValueOption) : Item → Option Text
  | .value other t => if other = option then some t else none
  | _ => none

/-- The expressions among the items, in their order. -/
def expressions (items : List Item) : List Text := items.filterMap Item.expression?

/-- The values given with an option, in their order. -/
def values (option : ValueOption) (items : List Item) : List Text :=
  items.filterMap (Item.value? option)

/-- Whether a switch is on. -/
def Reading.isOn (r : Reading) (switch : Switch) : Bool :=
  if switch = .missing then r.testsMissing else if switch = .pretty then r.pretty else r.verbose

def Reading.withOn (r : Reading) (switch : Switch) : Reading :=
  { r with
    testsMissing := r.testsMissing || switch = .missing
    pretty := r.pretty || switch = .pretty
    verbose := r.verbose || switch = .verbose }

/-- What is read with the items is what was read before and what they hold. -/
structure Reading.Grows (r : Reading) (items : List Item) (r' : Reading) : Prop where
  expression : r'.expression.toList = r.expression.toList ++ expressions items
  data : r'.data = (values .data items).reverse ++ r.data
  vars : r'.vars.map some = ((values .var items).map readVar?).reverse ++ r.vars.map some
  switches : ∀ switch,
    (r'.isOn switch).toNat = (r.isOn switch).toNat + items.count (.switch switch)

section Adding

variable {r r' : Reading} {item : Item} {items : List Item}

@[simp] theorem expressions_nil : expressions [] = [] := rfl

@[simp] theorem expressions_cons :
    expressions (item :: items) = item.expression?.toList ++ expressions items := by
  unfold expressions
  rw [List.filterMap_cons]
  cases item.expression? <;> rfl

@[simp] theorem values_nil (option : ValueOption) : values option [] = [] := rfl

@[simp] theorem values_cons (option : ValueOption) :
    values option (item :: items) = (item.value? option).toList ++ values option items := by
  unfold values
  rw [List.filterMap_cons]
  cases item.value? option <;> rfl

theorem Reading.turnOn?_eq (switch : Switch) :
    r.turnOn? switch = if r.isOn switch then none else some (r.withOn switch) := by
  cases switch <;> simp [turnOn?, isOn, withOn]

theorem Reading.isOn_withOn (switch other : Switch) :
    (r.withOn switch).isOn other = (r.isOn other || switch = other) := by
  cases other <;> rfl

theorem Reading.ext_isOn (expression : r'.expression = r.expression) (data : r'.data = r.data)
    (vars : r'.vars = r.vars) (switches : ∀ switch, r'.isOn switch = r.isOn switch) : r' = r := by
  have missing := switches .missing
  have pretty := switches .pretty
  have verbose := switches .verbose
  cases r
  cases r'
  simp only [Reading.mk.injEq]
  exact ⟨expression, data, missing, vars, pretty, verbose⟩

theorem toList_injective {a b : Option Text} (same : a.toList = b.toList) : a = b := by
  cases a <;> cases b <;> simp_all

theorem toNat_injective {a b : Bool} (same : a.toNat = b.toNat) : a = b := by
  cases a <;> cases b <;> first | rfl | cases same

theorem Reading.grows_nil_iff : r.Grows [] r' ↔ r' = r := by
  constructor
  · rintro ⟨expression, data, vars, switches⟩
    simp only [expressions_nil, values_nil, List.append_nil, List.map_nil, List.reverse_nil,
      List.nil_append, List.count_nil, Nat.add_zero] at expression data vars switches
    exact ext_isOn (toList_injective expression) data
      ((List.map_inj_right fun _ _ => Option.some.inj).mp vars)
      fun switch => toNat_injective (switches switch)
  · rintro rfl
    constructor <;> simp

theorem Reading.grows_expression_iff {t : Text} :
    r.Grows (.expression t :: items) r' ↔
      r.expression = none ∧ { r with expression := some t }.Grows items r' := by
  constructor
  · rintro ⟨expression, data, vars, switches⟩
    -- a reading has one expression at most, so that there was none before
    have free : r.expression = none := by
      cases h : r.expression <;> cases h' : r'.expression <;> simp_all
    refine ⟨free, ?_, ?_, ?_, ?_⟩
    · simpa [free] using expression
    · simpa using data
    · simpa using vars
    · simpa [isOn] using switches
  · rintro ⟨free, expression, data, vars, switches⟩
    refine ⟨?_, ?_, ?_, ?_⟩
    · simpa [free] using expression
    · simpa using data
    · simpa using vars
    · simpa [isOn] using switches

theorem Reading.grows_data_iff {t : Text} :
    r.Grows (.value .data t :: items) r' ↔ { r with data := t :: r.data }.Grows items r' := by
  constructor <;>
  · rintro ⟨expression, data, vars, switches⟩
    refine ⟨?_, ?_, ?_, ?_⟩
    · simpa using expression
    · simpa using data
    · simpa using vars
    · simpa [isOn] using switches

theorem Reading.grows_var_iff {t : Text} :
    r.Grows (.value .var t :: items) r' ↔
      ∃ pair, readVar? t = some pair ∧ { r with vars := pair :: r.vars }.Grows items r' := by
  constructor
  · rintro ⟨expression, data, vars, switches⟩
    have read : readVar? t ∈ r'.vars.map some := by simp [vars]
    obtain ⟨pair, _, read⟩ := List.mem_map.mp read
    refine ⟨pair, read.symm, ?_, ?_, ?_, ?_⟩
    · simpa using expression
    · simpa using data
    · simpa [read] using vars
    · simpa [isOn] using switches
  · rintro ⟨pair, read, expression, data, vars, switches⟩
    refine ⟨?_, ?_, ?_, ?_⟩
    · simpa using expression
    · simpa using data
    · simpa [read] using vars
    · simpa [isOn] using switches

/-- A switch that is counted was off before, and is on afterwards. -/
theorem Reading.switches_cons_iff {switch : Switch} :
    (∀ other, (r'.isOn other).toNat =
        (r.isOn other).toNat + (Item.switch switch :: items).count (.switch other)) ↔
      r.isOn switch = false ∧ ∀ other, (r'.isOn other).toNat =
        ((r.withOn switch).isOn other).toNat + items.count (.switch other) := by
  simp only [isOn_withOn, List.count_cons]
  constructor
  · intro counted
    have off : r.isOn switch = false := by
      have bound := Bool.toNat_le (r'.isOn switch)
      have once := counted switch
      cases on : r.isOn switch with
      | false => rfl
      | true => simp [on] at once; omega
    refine ⟨off, fun other => ?_⟩
    have counted := counted other
    by_cases same : switch = other
    · subst same
      simp [off] at counted ⊢
      omega
    · simpa [same] using counted
  · rintro ⟨off, counted⟩ other
    have counted := counted other
    by_cases same : switch = other
    · subst same
      simp [off] at counted ⊢
      omega
    · simpa [same] using counted

theorem Reading.grows_switch_iff {switch : Switch} :
    r.Grows (.switch switch :: items) r' ↔
      r.isOn switch = false ∧ (r.withOn switch).Grows items r' := by
  constructor
  · rintro ⟨expression, data, vars, switches⟩
    obtain ⟨off, switches⟩ := switches_cons_iff.mp switches
    refine ⟨off, ?_, ?_, ?_, switches⟩
    · simpa [withOn] using expression
    · simpa [withOn] using data
    · simpa [withOn] using vars
  · rintro ⟨off, expression, data, vars, switches⟩
    refine ⟨?_, ?_, ?_, switches_cons_iff.mpr ⟨off, switches⟩⟩
    · simpa [withOn] using expression
    · simpa [withOn] using data
    · simpa [withOn] using vars

/-- One item adds to a reading what it holds. -/
theorem Reading.grows_cons_iff :
    r.Grows (item :: items) r' ↔ ∃ r₁, r.add? item = some r₁ ∧ r₁.Grows items r' := by
  cases item with
  | expression t =>
    rw [grows_expression_iff]
    cases h : r.expression <;> simp [add?, addExpression?, h]
  | value option t =>
    cases option with
    | data => simp [grows_data_iff, add?, addValue?]
    | var =>
      rw [grows_var_iff]
      cases h : readVar? t <;> simp [add?, addValue?, h]
  | switch switch =>
    rw [grows_switch_iff, add?, turnOn?_eq]
    cases h : r.isOn switch <;> simp

/-- Items in any order add to a reading what they hold, or cannot be added. -/
theorem Reading.addAll?_eq_some_iff : r.addAll? items = some r' ↔ r.Grows items r' := by
  induction items generalizing r with
  | nil => simp [addAll?, grows_nil_iff, eq_comm]
  | cons item items ih => simp only [addAll?, Option.bind_eq_some_iff, grows_cons_iff, ih]

end Adding

/-! ## Accepted command lines -/

/-- The reading that a command line is taken from. -/
def reading (c : CommandLine) : Reading :=
  ⟨some c.expression, c.data.reverse, c.testsMissing, c.vars.reverse, c.pretty, c.verbose⟩

/-- `Asks items c`: the items ask for the command line `c`. -/
structure Asks (items : List Item) (c : CommandLine) : Prop where
  /-- The expression is given once. -/
  expression : expressions items = [c.expression]
  data : values .data items = c.data
  vars : (values .var items).map readVar? = c.vars.map some
  /-- A switch is given once or not at all. -/
  missing : items.count (.switch .missing) = c.testsMissing.toNat
  pretty : items.count (.switch .pretty) = c.pretty.toNat
  verbose : items.count (.switch .verbose) = c.verbose.toNat

section Accepted

variable {arguments : List Text} {items : List Item} {c : CommandLine}

theorem ofArguments?_eq_some_iff_readAll? :
    ofArguments? arguments = some c ↔ Reading.start.readAll? arguments = some c.reading := by
  unfold ofArguments?
  cases Reading.start.readAll? arguments with
  | none => simp
  | some r =>
    obtain ⟨e, d, m, v, p, w⟩ := r
    obtain ⟨e', d', m', v', p', w'⟩ := c
    cases e with
    | none => simp [reading]
    | some e => simp [reading, List.reverse_eq_iff]

theorem grows_reading_iff : Reading.start.Grows items c.reading ↔ Asks items c := by
  have off (switch : Switch) : Reading.start.isOn switch = false := by cases switch <;> rfl
  constructor
  · rintro ⟨expression, data, vars, switches⟩
    simp only [off, Bool.toNat_false, Nat.zero_add] at switches
    refine ⟨?_, ?_, ?_, (switches .missing).symm, (switches .pretty).symm,
      (switches .verbose).symm⟩
    · simpa [Reading.start, reading, eq_comm] using expression
    · simpa [Reading.start, reading, eq_comm] using data
    · simpa [Reading.start, reading, eq_comm] using vars
  · rintro ⟨expression, data, vars, missing, pretty, verbose⟩
    refine ⟨?_, ?_, ?_, fun switch => ?_⟩
    · simp [Reading.start, reading, expression]
    · simp [Reading.start, reading, data]
    · simp [Reading.start, reading, vars]
    · rw [off, Bool.toNat_false, Nat.zero_add]
      cases switch with
      | missing => exact missing.symm
      | pretty => exact pretty.symm
      | verbose => exact verbose.symm

/-- The arguments that are accepted are the ways of writing items that ask for a command line. -/
theorem ofArguments?_eq_some_iff :
    ofArguments? arguments = some c ↔ ∃ items, Written arguments items ∧ Asks items c := by
  rw [ofArguments?_eq_some_iff_readAll?]
  constructor
  · intro read
    obtain ⟨items, written⟩ := written_of_readAll? read
    rw [written.readAll?_eq, Reading.addAll?_eq_some_iff, grows_reading_iff] at read
    exact ⟨items, written, read⟩
  · rintro ⟨items, written, asks⟩
    rw [written.readAll?_eq, Reading.addAll?_eq_some_iff, grows_reading_iff]
    exact asks

/-- The items of accepted arguments ask for what is read. -/
theorem Written.asks (written : Written arguments items)
    (accepted : ofArguments? arguments = some c) : Asks items c := by
  rw [ofArguments?_eq_some_iff_readAll?, written.readAll?_eq, Reading.addAll?_eq_some_iff,
    grows_reading_iff] at accepted
  exact accepted

end Accepted

end CommandLine

end Criteria
