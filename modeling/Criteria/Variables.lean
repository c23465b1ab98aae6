import Criteria.Text

/-!
# Variables and placeholders

A context holds the values of named variables. A text may mention a variable as
a placeholder: a dollar sign and the name in braces. Resolving a text puts the
values of the variables for their placeholders, in one pass from the left, and
leaves a placeholder without a value as it is written. Blanks around the name in
a placeholder do not count.

Evaluation does not depend on how names are looked up: `Context` is what it asks
for.
-/

namespace Criteria

/-- Names with their values; of one name's values the one stored last counts. -/
structure Variables where
  /-- The stored pairs, the latest first. -/
  entries : List (Text × Text)
deriving Repr

namespace Variables

def empty : Variables := ⟨[]⟩

def set (vars : Variables) (name value : Text) : Variables := ⟨(name, value) :: vars.entries⟩

/-- The variables with one more value, for putting them together in one expression. -/
def including (vars : Variables) (name value : Text) : Variables := vars.set name value

/-- Stores pairs in their order. -/
def ofPairs (pairs : List (Text × Text)) : Variables :=
  pairs.foldl (fun vars pair => vars.set pair.1 pair.2) empty

def get? (vars : Variables) (name : Text) : Option Text := vars.entries.lookup name

/-- What a placeholder's name may be made of. -/
def isNameChar (c : Char) : Bool := c != '\x7b' && c != '\x7d'

/-- Splits a text after an opening brace into a name and what follows the closing brace;
the name has a character and no brace. -/
def readName? (t : Text) : Option (Text × Text) :=
  match t.dropWhile isNameChar with
  | c :: rest =>
      if c = '\x7d' ∧ t.takeWhile isNameChar ≠ [] then some (t.takeWhile isNameChar, rest)
      else none
  | [] => none

/-- The placeholder of a name as it is written. -/
def placeholder (name : Text) : Text := '$' :: '\x7b' :: name ++ ['\x7d']

/-- A placeholder at the start of a text: its name and what follows. -/
def readPlaceholder? : Text → Option (Text × Text)
  | c :: d :: t => if c = '$' ∧ d = '\x7b' then readName? t else none
  | _ => none

theorem readPlaceholder?_shorter {t name rest : Text}
    (found : readPlaceholder? t = some (name, rest)) : rest.length < t.length := by
  match t with
  | [] | [_] => simp [readPlaceholder?] at found
  | c :: d :: t =>
      simp only [readPlaceholder?, readName?] at found
      split at found
      · split at found
        · rename_i dropped
          split at found
          · have bound := (List.dropWhile_sublist (l := t) isNameChar).length_le
            simp only [Option.some.injEq, Prod.mk.injEq] at found
            rw [dropped, found.2] at bound
            simp only [List.length_cons] at bound ⊢
            omega
          · simp at found
        · simp at found
      · simp at found

/-- The text that stands for a placeholder: the value of its name, or the placeholder as
written if the name has none. -/
def substitute (vars : Variables) (name : Text) : Text :=
  (vars.get? (Text.trim name)).getD (placeholder name)

/-- Puts values for placeholders; a value is not read for placeholders again. -/
def resolve (vars : Variables) (t : Text) : Text :=
  match _ : readPlaceholder? t with
  | some (name, rest) => vars.substitute name ++ resolve vars rest
  | none =>
      match t with
      | [] => []
      | c :: rest => c :: resolve vars rest
termination_by t.length
decreasing_by
  · exact readPlaceholder?_shorter (by assumption)
  · simp

/-- A name given either bare or as a placeholder. -/
def bareName (t : Text) : Text :=
  let name := Text.trim t
  match name with
  | c :: d :: rest =>
      if c = '$' ∧ d = '\x7b' ∧ rest.getLast? = some '\x7d' then rest.dropLast else name
  | _ => name

/-- Whether a variable is defined, by its bare name or by its placeholder. -/
def isDefined (vars : Variables) (t : Text) : Bool :=
  (vars.get? (Text.trim (bareName t))).isSome

end Variables

/-- All that an evaluation asks of its surroundings. Variables are one answer to it. -/
structure Context where
  /-- A text with what stands for its placeholders. -/
  resolve : Text → Text
  /-- Whether a name, or the placeholder of a name, is defined. -/
  isDefined : Text → Bool

def Variables.context (vars : Variables) : Context := ⟨vars.resolve, vars.isDefined⟩

instance : Coe Variables Context := ⟨Variables.context⟩

end Criteria
