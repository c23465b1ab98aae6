import Criteria.Proofs.Dependence
import Criteria.Proofs.Report

/-!
# Command lines that ask the same

Two command lines with the same expression, the same values to test and the same
form of report are answered alike. Without values to test, the same variables have
to be given; with values to test, variables do not count. Where the arguments
stand, how they are written, and whether the log is verbose never counts.

* `Defines`, `LastDefines`: a text that gives a name a value, and the last such text.
* `get?_ofPairs_iff`: the value of a variable is the one that was given last.
* `SameQuestion`: items that ask the same.
* `answer_congr`: arguments for such items are answered alike.
-/

namespace Criteria

namespace Variables

variable {vars other : Variables}

theorem ofPairs_entries (pairs : List (Text × Text)) : (ofPairs pairs).entries = pairs.reverse := by
  have stored : ∀ vars : Variables,
      (pairs.foldl (fun vars pair => vars.set pair.1 pair.2) vars).entries =
        pairs.reverse ++ vars.entries := by
    induction pairs with
    | nil => exact fun _ => rfl
    | cons pair pairs ih =>
      intro vars
      rw [List.foldl_cons, ih, List.reverse_cons, List.append_assoc]
      rfl
  rw [ofPairs, stored, empty, List.append_nil]

/-- Variables with the same values are the same context. -/
theorem context_congr (agree : ∀ name, vars.get? name = other.get? name) :
    vars.context = other.context := by
  have resolve : vars.resolve = other.resolve := funext fun _ => resolve_congr fun _ _ => agree _
  have isDefined : vars.isDefined = other.isDefined := funext fun _ => isDefined_congr (agree _)
  rw [context, context, resolve, isDefined]

end Variables

namespace CommandLine

/-! ## The last value of a name -/

/-- `Defines t name value`: the text gives the name the value, which is all behind its first
equals sign. Blanks around the name do not count. -/
def Defines (t name value : Text) : Prop :=
  ∃ raw, t = raw ++ '=' :: value ∧ '=' ∉ raw ∧ Text.trim raw = name

/-- `LastDefines texts name value`: of the texts that define the name, the last one gives it
the value. -/
inductive LastDefines : List Text → Text → Text → Prop
  | here {t name value : Text} {texts : List Text} : Defines t name value →
      (∀ u ∈ texts, ∀ other, ¬ Defines u name other) → LastDefines (t :: texts) name value
  | later {t name value : Text} {texts : List Text} : LastDefines texts name value →
      LastDefines (t :: texts) name value

section Defining

variable {t name value : Text} {texts : List Text} {pairs : List (Text × Text)}

theorem defines_iff : Defines t name value ↔ readVar? t = some (name, value) := by
  simp only [readVar?, Option.map_eq_some_iff, Prod.exists, Text.cut?_eq_some_iff, Prod.mk.injEq]
  constructor
  · rintro ⟨raw, text, whole, trimmed⟩
    exact ⟨raw, value, ⟨text, whole⟩, trimmed, rfl⟩
  · rintro ⟨raw, _, ⟨text, whole⟩, trimmed, rfl⟩
    exact ⟨raw, text, whole, trimmed⟩

theorem LastDefines.exists_mem (h : LastDefines texts name value) :
    ∃ t ∈ texts, Defines t name value := by
  induction h with
  | here defines => exact ⟨_, List.mem_cons_self, defines⟩
  | later _ ih =>
    obtain ⟨t, mem, defines⟩ := ih
    exact ⟨t, List.mem_cons_of_mem _ mem, defines⟩

/-- A name without a value is defined by no text. -/
theorem not_defines_of_lookup (read : texts.map readVar? = pairs.map some)
    (free : pairs.reverse.lookup name = none) : ∀ u ∈ texts, ∀ other, ¬ Defines u name other := by
  intro u mem other defines
  have stored : some (name, other) ∈ pairs.map some := by
    rw [← read, ← defines_iff.mp defines]
    exact List.mem_map_of_mem mem
  obtain ⟨pair, mem, same⟩ := List.mem_map.mp stored
  cases same
  have unlike := List.lookup_eq_none_iff.mp free _ (List.mem_reverse.mpr mem)
  simp at unlike

/-- Looking a name up from the end finds what the last text for it says. -/
theorem lookup_reverse_iff (read : texts.map readVar? = pairs.map some) :
    pairs.reverse.lookup name = some value ↔ LastDefines texts name value := by
  induction texts generalizing pairs value with
  | nil =>
    rw [List.map_eq_nil_iff.mp read.symm]
    exact ⟨fun found => (by cases found), fun last => (by cases last)⟩
  | cons t texts ih =>
    obtain ⟨pair, pairs, rfl, first, read⟩ := List.map_eq_cons_iff.mp read.symm
    rw [List.reverse_cons, List.lookup_append]
    cases later : pairs.reverse.lookup name with
    | some v =>
      rw [Option.some_or, ← later]
      constructor
      · exact fun found => .later ((ih read.symm).mp found)
      · intro last
        cases last with
        | here _ none =>
          obtain ⟨u, mem, defines⟩ := ((ih read.symm).mp later).exists_mem
          exact absurd defines (none u mem v)
        | later last => exact (ih read.symm).mpr last
    | none =>
      rw [Option.none_or]
      constructor
      · intro found
        have same : pair = (name, value) := by
          obtain ⟨key, v⟩ := pair
          by_cases same : name = key
          · subst same
            rw [List.lookup_cons_self] at found
            cases found
            rfl
          · simp [List.lookup_cons, beq_eq_false_iff_ne.mpr same] at found
        exact .here (defines_iff.mpr (first.symm.trans (congrArg some same)))
          (not_defines_of_lookup read.symm later)
      · intro last
        cases last with
        | here defines =>
          cases first.trans (defines_iff.mp defines)
          exact List.lookup_cons_self
        | later last => cases later.symm.trans ((ih read.symm).mpr last)

/-- The value of a variable is the one that was given last. -/
theorem get?_ofPairs_iff (read : texts.map readVar? = pairs.map some) :
    (Variables.ofPairs pairs).get? name = some value ↔ LastDefines texts name value := by
  rw [Variables.get?, Variables.ofPairs_entries]
  exact lookup_reverse_iff read

end Defining

/-! ## The same question -/

/-- `SameQuestion items items'`: the items ask for the same answer. -/
structure SameQuestion (items items' : List Item) : Prop where
  expression : expressions items = expressions items'
  data : values .data items = values .data items'
  missing : .switch .missing ∈ items ↔ .switch .missing ∈ items'
  pretty : .switch .pretty ∈ items ↔ .switch .pretty ∈ items'
  /-- Variables count only if there is no literal to test. -/
  vars : values .data items = [] → .switch .missing ∉ items → ∀ name value,
    LastDefines (values .var items) name value ↔ LastDefines (values .var items') name value

section Question

variable {items items' : List Item} {c c' : CommandLine}

/-- A switch is on if it is given. -/
theorem on_iff_mem {item : Item} {on : Bool} (counted : items.count item = on.toNat) :
    on = true ↔ item ∈ items := by
  rw [← List.count_pos_iff, counted]
  cases on <;> simp

theorem SameQuestion.flag_eq {item : Item} {on on' : Bool} (same : item ∈ items ↔ item ∈ items')
    (counted : items.count item = on.toNat) (counted' : items'.count item = on'.toNat) : on = on' :=
  Bool.eq_iff_iff.mpr ((on_iff_mem counted).trans (same.trans (on_iff_mem counted').symm))

/-- Without literals, command lines for the same question have the same context. -/
theorem SameQuestion.context_eq (same : SameQuestion items items') (asks : Asks items c)
    (asks' : Asks items' c') (tests : ¬ c.TestsLiterals) :
    (Variables.ofPairs c.vars).context = (Variables.ofPairs c'.vars).context := by
  obtain ⟨noData, notMissing⟩ := not_or.mp tests
  have vars := same.vars (asks.data.trans (Decidable.not_not.mp noData))
    (mt (on_iff_mem asks.missing).mpr notMissing)
  refine Variables.context_congr fun name => Option.ext fun value => ?_
  rw [get?_ofPairs_iff asks.vars, get?_ofPairs_iff asks'.vars, vars name value]

/-- Command lines for the same question have the same report. -/
theorem SameQuestion.report_eq (same : SameQuestion items items') (asks : Asks items c)
    (asks' : Asks items' c') : c.report.result = c'.report.result := by
  have expression : c.expression = c'.expression := by
    have both := asks.expression.symm.trans (same.expression.trans asks'.expression)
    exact List.head_eq_of_cons_eq both
  have data : c.data = c'.data := asks.data.symm.trans (same.data.trans asks'.data)
  have missing := SameQuestion.flag_eq same.missing asks.missing asks'.missing
  have tested : c'.TestsLiterals ↔ c.TestsLiterals := by
    unfold TestsLiterals
    rw [data, missing]
  cases parsed : (Filter.parse c.expression).result with
  | error e => rw [report_of_error parsed, report_of_error (expression ▸ parsed)]
  | ok f =>
    have parsed' : (Filter.parse c'.expression).result = .ok f := expression ▸ parsed
    rcases Decidable.em c.TestsLiterals with tests | tests
    · have inputs : c.inputs = c'.inputs := by rw [inputs, inputs, data, missing]
      rw [report_of_literals parsed tests, report_of_literals parsed' (tested.mpr tests), inputs]
    · rw [report_of_context parsed tests, report_of_context parsed' (mt tested.mp tests),
        same.context_eq asks asks' tests]

/-- Accepted arguments that ask the same get the same output and the same code: in whatever order
and in whatever way they are written, whether or not the log is verbose, with variables that are
given different values before their last one, and, with a literal to test, with any variables. -/
theorem answer_congr {arguments arguments' : List Text}
    (accepted : (ofArguments? arguments).isSome = true)
    (accepted' : (ofArguments? arguments').isSome = true) (written : Written arguments items)
    (written' : Written arguments' items') (same : SameQuestion items items') :
    (answer arguments).stdout = (answer arguments').stdout ∧
      (answer arguments).code = (answer arguments').code := by
  obtain ⟨c, read⟩ := Option.isSome_iff_exists.mp accepted
  obtain ⟨c', read'⟩ := Option.isSome_iff_exists.mp accepted'
  have asks := written.asks read
  have asks' := written'.asks read'
  have report := same.report_eq asks asks'
  have pretty := SameQuestion.flag_eq same.pretty asks.pretty asks'.pretty
  simp only [answer, read, read', answerTo, ← report, pretty]
  cases c.report.result <;> exact ⟨rfl, rfl⟩

/-- Other places, another way of writing, an overridden variable, and a verbose log. -/
theorem answer_congr_rewritten :
    let expression := "x is [$\x7bn\x7d|b]".toList
    let arguments := [expression, "--var".toList, " n =1".toList, "--var=n=2".toList]
    let arguments' := ["-v".toList, "--var=n=2".toList, "--".toList, expression]
    let items : List Item :=
      [.expression expression, .value .var " n =1".toList, .value .var "n=2".toList]
    let items' : List Item :=
      [.switch .verbose, .value .var "n=2".toList, .expression expression]
    (ofArguments? arguments).isSome = true ∧ (ofArguments? arguments').isSome = true ∧
      SameQuestion items items' ∧ (answer arguments).stdout = (answer arguments').stdout ∧
        (answer arguments).code = (answer arguments').code := by
  intro expression arguments arguments' items items'
  have accepted : (ofArguments? arguments).isSome = true := by decide
  have accepted' : (ofArguments? arguments').isSome = true := by decide
  have written : Written arguments items :=
    .expression (by decide) (@Written.separate .var _ _ _ (by decide)
      (@Written.attached .var _ _ _ .nil))
  have written' : Written arguments' items' :=
    @Written.letters 0 _ _ (@Written.attached .var _ _ _ (@Written.onlyExpressions [expression]))
  have vars (name value : Text) : LastDefines (values .var items) name value ↔
      LastDefines (values .var items') name value := by
    have read : (values .var items).map readVar? = [(['n'], ['1']), (['n'], ['2'])].map some := by
      decide
    have read' : (values .var items').map readVar? = [(['n'], ['2'])].map some := by decide
    rw [← lookup_reverse_iff read, ← lookup_reverse_iff read']
    cases same : name == ['n'] <;> simp [List.lookup_cons, same]
  have same : SameQuestion items items' :=
    ⟨rfl, rfl, by decide, by decide, fun _ _ => vars⟩
  exact ⟨accepted, accepted', same, answer_congr accepted accepted' written written' same⟩

end Question

end CommandLine

end Criteria
