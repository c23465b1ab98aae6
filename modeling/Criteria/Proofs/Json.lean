import Criteria.Digit
import Criteria.Json

/-!
# What a JSON text says

A written document is read back as the document it was written for. The grammar
of JSON is given here as a relation between a text, what it opens with, and the
text that follows, apart from the two ways in which a document is written.

* `Spells`: the characters of a string, up to its closing quote.
* `Reads`: a document, a member of an object, and the rest of an array or object.
* `Reads.unique`: a text opens with one document at most.
* `compact_writes`, `indented_writes`: both written forms are read as the document.
* `Denotes`: a whole text is one document, but for blanks around it.
-/

namespace Criteria

namespace Json

/-! ## The grammar -/

/-- The blanks that may stand between the parts of a document. -/
def isGapChar (c : Char) : Bool := c == ' ' || c == '\t' || c == '\n' || c == '\r'

/-- A text from its first character that is no gap. -/
def ahead (t : Text) : Text := t.dropWhile isGapChar

/-- The letters that stand for a character after a backslash, with that character. -/
def letterEscapes : List (Char × Char) :=
  [('"', '"'), ('\\', '\\'), ('/', '/'), ('b', '\x08'), ('f', '\x0C'), ('n', '\n'),
    ('r', '\r'), ('t', '\t')]

/-- `Spells value t rest`: behind an opening quote, `t` holds the string `value`, its closing
quote, and `rest`. -/
inductive Spells : Text → Text → Text → Prop
  | close {rest : Text} : Spells [] ('"' :: rest) rest
  | plain {c : Char} {value t rest : Text} : c ≠ '"' → c ≠ '\\' → 0x20 ≤ c.toNat →
      Spells value t rest → Spells (c :: value) (c :: t) rest
  | letter {letter c : Char} {value t rest : Text} : (letter, c) ∈ letterEscapes →
      Spells value t rest → Spells (c :: value) ('\\' :: letter :: t) rest
  | code {d₁ d₂ d₃ d₄ c : Char} {value t rest : Text} :
      Digit.hexNumber? [d₁, d₂, d₃, d₄] = some c.toNat → Spells value t rest →
      Spells (c :: value) ('\\' :: 'u' :: d₁ :: d₂ :: d₃ :: d₄ :: t) rest

/-- What a text may open with. The items and the members are those from some place on. -/
inductive Part where
  | document (document : Json)
  | member (key : Text) (value : Json)
  | items (items : List Json)
  | members (members : List (Text × Json))

/-- `Reads part t rest`: the text `t` opens with a part, and `rest` follows. -/
inductive Reads : Part → Text → Text → Prop
  | null {rest : Text} : Reads (.document .null) ('n' :: 'u' :: 'l' :: 'l' :: rest) rest
  | true {rest : Text} : Reads (.document (.bool true)) ('t' :: 'r' :: 'u' :: 'e' :: rest) rest
  | false {rest : Text} :
      Reads (.document (.bool false)) ('f' :: 'a' :: 'l' :: 's' :: 'e' :: rest) rest
  | string {value t rest : Text} : Spells value t rest →
      Reads (.document (.string value)) ('"' :: t) rest
  | noItems {t rest : Text} : ahead t = ']' :: rest → Reads (.document (.array [])) ('[' :: t) rest
  | array {items : List Json} {t rest : Text} : Reads (.items items) t rest →
      Reads (.document (.array items)) ('[' :: t) rest
  | noMembers {t rest : Text} : ahead t = '\x7d' :: rest →
      Reads (.document (.object [])) ('\x7b' :: t) rest
  | object {members : List (Text × Json)} {t rest : Text} : Reads (.members members) t rest →
      Reads (.document (.object members)) ('\x7b' :: t) rest
  | member {key : Text} {value : Json} {t u v rest : Text} : Spells key t u →
      ahead u = ':' :: v → Reads (.document value) (ahead v) rest →
      Reads (.member key value) ('"' :: t) rest
  | lastItem {item : Json} {t u rest : Text} : Reads (.document item) (ahead t) u →
      ahead u = ']' :: rest → Reads (.items [item]) t rest
  | nextItem {item : Json} {items : List Json} {t u v rest : Text} :
      Reads (.document item) (ahead t) u → ahead u = ',' :: v → Reads (.items items) v rest →
      Reads (.items (item :: items)) t rest
  | lastMember {key : Text} {value : Json} {t u rest : Text} :
      Reads (.member key value) (ahead t) u → ahead u = '\x7d' :: rest →
      Reads (.members [(key, value)]) t rest
  | nextMember {key : Text} {value : Json} {members : List (Text × Json)} {t u v rest : Text} :
      Reads (.member key value) (ahead t) u → ahead u = ',' :: v → Reads (.members members) v rest →
      Reads (.members ((key, value) :: members)) t rest

/-- A text is a document with nothing but blanks around it. -/
def Denotes (t : Text) (document : Json) : Prop :=
  ∃ rest, Reads (.document document) (ahead t) rest ∧ ahead rest = []

/-! ## A text opens with one part at most -/

theorem letterEscapes_functional :
    ∀ p ∈ letterEscapes, p.1 ≠ 'u' ∧ ∀ q ∈ letterEscapes, p.1 = q.1 → p = q := by decide

theorem Spells.unique {value value' t rest rest' : Text} (h : Spells value t rest)
    (h' : Spells value' t rest') : value = value' ∧ rest = rest' := by
  induction h generalizing value' rest' with
  | close =>
    cases h' with
    | close => exact ⟨rfl, rfl⟩
    | plain quote => exact absurd rfl quote
  | plain quote backslash _ _ ih =>
    cases h' with
    | close => exact absurd rfl quote
    | plain _ _ _ h' =>
      obtain ⟨rfl, rfl⟩ := ih h'
      exact ⟨rfl, rfl⟩
    | letter | code => exact absurd rfl backslash
  | letter mem _ ih =>
    have functional := letterEscapes_functional _ mem
    cases h' with
    | plain _ backslash => exact absurd rfl backslash
    | letter mem' h' =>
      obtain ⟨rfl, rfl⟩ := ih h'
      cases functional.2 _ mem' rfl
      exact ⟨rfl, rfl⟩
    | code => exact absurd rfl functional.1
  | code number _ ih =>
    cases h' with
    | plain _ backslash => exact absurd rfl backslash
    | letter mem => exact absurd rfl (letterEscapes_functional _ mem).1
    | code number' h' =>
      obtain ⟨rfl, rfl⟩ := ih h'
      have same := Char.toNat_inj.mp (Option.some.inj (number.symm.trans number'))
      exact ⟨congrArg (· :: _) same, rfl⟩

/-- Two parts of one kind. -/
inductive Part.Alike : Part → Part → Prop
  | documents {a b : Json} : Alike (.document a) (.document b)
  | member {key key' : Text} {a b : Json} : Alike (.member key a) (.member key' b)
  | items {a b : List Json} : Alike (.items a) (.items b)
  | members {a b : List (Text × Json)} : Alike (.members a) (.members b)

theorem Reads.document_opens {document : Json} {t rest : Text}
    (h : Reads (.document document) t rest) (u : Text) : t ≠ ']' :: u := by
  rintro rfl
  cases h

theorem Reads.items_open {items : List Json} {t rest : Text} (h : Reads (.items items) t rest)
    (u : Text) : ahead t ≠ ']' :: u := by
  cases h with
  | lastItem item | nextItem item => exact item.document_opens u

theorem Reads.members_open {members : List (Text × Json)} {t rest : Text}
    (h : Reads (.members members) t rest) (u : Text) : ahead t ≠ '\x7d' :: u := by
  intro ends
  cases h with
  | lastMember member | nextMember member =>
    rw [ends] at member
    cases member

/-- A text opens with one part of a kind, and is followed by one text. -/
theorem Reads.unique {part part' : Part} {t rest rest' : Text} (h : Reads part t rest)
    (h' : Reads part' t rest') (alike : part.Alike part') : part = part' ∧ rest = rest' := by
  induction h generalizing part' rest' with
  | null | true | false =>
    cases alike
    cases h'
    exact ⟨rfl, rfl⟩
  | string spells =>
    cases alike
    cases h' with
    | string spells' =>
      obtain ⟨rfl, rfl⟩ := spells.unique spells'
      exact ⟨rfl, rfl⟩
  | noItems ends =>
    cases alike
    cases h' with
    | noItems ends' =>
      cases ends.symm.trans ends'
      exact ⟨rfl, rfl⟩
    | array items' => exact absurd ends (items'.items_open _)
  | array items ih =>
    cases alike
    cases h' with
    | noItems ends' => exact absurd ends' (items.items_open _)
    | array items' =>
      obtain ⟨same, rfl⟩ := ih items' .items
      cases same
      exact ⟨rfl, rfl⟩
  | noMembers ends =>
    cases alike
    cases h' with
    | noMembers ends' =>
      cases ends.symm.trans ends'
      exact ⟨rfl, rfl⟩
    | object members' => exact absurd ends (members'.members_open _)
  | object members ih =>
    cases alike
    cases h' with
    | noMembers ends' => exact absurd ends' (members.members_open _)
    | object members' =>
      obtain ⟨same, rfl⟩ := ih members' .members
      cases same
      exact ⟨rfl, rfl⟩
  | member key colon _ ih =>
    cases alike
    cases h' with
    | member key' colon' value' =>
      obtain ⟨rfl, rfl⟩ := key.unique key'
      cases colon.symm.trans colon'
      obtain ⟨same, rfl⟩ := ih value' .documents
      cases same
      exact ⟨rfl, rfl⟩
  | lastItem _ ends ih =>
    cases alike
    cases h' with
    | lastItem item' ends' =>
      obtain ⟨same, rfl⟩ := ih item' .documents
      cases same
      cases ends.symm.trans ends'
      exact ⟨rfl, rfl⟩
    | nextItem item' comma' =>
      obtain ⟨_, rfl⟩ := ih item' .documents
      cases ends.symm.trans comma'
  | nextItem _ comma _ ih ihItems =>
    cases alike
    cases h' with
    | lastItem item' ends' =>
      obtain ⟨_, rfl⟩ := ih item' .documents
      cases comma.symm.trans ends'
    | nextItem item' comma' items' =>
      obtain ⟨same, rfl⟩ := ih item' .documents
      cases same
      cases comma.symm.trans comma'
      obtain ⟨same, rfl⟩ := ihItems items' .items
      cases same
      exact ⟨rfl, rfl⟩
  | lastMember _ ends ih =>
    cases alike
    cases h' with
    | lastMember member' ends' =>
      obtain ⟨same, rfl⟩ := ih member' .member
      cases same
      cases ends.symm.trans ends'
      exact ⟨rfl, rfl⟩
    | nextMember member' comma' =>
      obtain ⟨_, rfl⟩ := ih member' .member
      cases ends.symm.trans comma'
  | nextMember _ comma _ ih ihMembers =>
    cases alike
    cases h' with
    | lastMember member' ends' =>
      obtain ⟨_, rfl⟩ := ih member' .member
      cases comma.symm.trans ends'
    | nextMember member' comma' members' =>
      obtain ⟨same, rfl⟩ := ih member' .member
      cases same
      cases comma.symm.trans comma'
      obtain ⟨same, rfl⟩ := ihMembers members' .members
      cases same
      exact ⟨rfl, rfl⟩

/-- A text denotes one document at most. -/
theorem Denotes.unique {t : Text} {a b : Json} (h : Denotes t a) (h' : Denotes t b) : a = b := by
  obtain ⟨_, reads, _⟩ := h
  obtain ⟨_, reads', _⟩ := h'
  cases (reads.unique reads' .documents).1
  rfl

/-! ## Written documents are read back -/

/-- The number of a character below the space, from its two digits. -/
theorem hexNumber?_control :
    ∀ n < 0x20, Digit.hexNumber? ['0', '0', hexDigit (n / 16), hexDigit (n % 16)] = some n := by
  decide

theorem Spells.escape {value t rest : Text} (h : Spells value t rest) (c : Char) :
    Spells (c :: value) (escape c ++ t) rest := by
  unfold Json.escape
  split
  · subst c; exact .letter (by decide) h
  split
  · subst c; exact .letter (by decide) h
  split
  · subst c; exact .letter (by decide) h
  split
  · subst c; exact .letter (by decide) h
  split
  · subst c; exact .letter (by decide) h
  split
  · subst c; exact .letter (by decide) h
  split
  · subst c; exact .letter (by decide) h
  split
  next control => exact .code (hexNumber?_control _ control) h
  next quote backslash _ _ _ _ _ visible =>
    exact .plain quote backslash (Nat.le_of_not_lt visible) h

theorem spells_flatMap (value rest : Text) :
    Spells value (value.flatMap escape ++ '"' :: rest) rest := by
  induction value with
  | nil => exact .close
  | cons c value ih =>
    rw [List.flatMap_cons, List.append_assoc]
    exact ih.escape c

/-- `Writes t part`: the text is read as the part, whatever follows. -/
def Writes (t : Text) (part : Part) : Prop := ∀ rest, Reads part (ahead (t ++ rest)) rest

section Writing

variable {t rest closing : Text}

theorem ahead_cons {c : Char} (part : isGapChar c = false) : ahead (c :: t) = c :: t := by
  rw [ahead, List.dropWhile_cons_of_neg (by simp [part])]

theorem ahead_gap {gap : Text} (blank : ∀ c ∈ gap, isGapChar c = true) (t : Text) :
    ahead (gap ++ t) = ahead t :=
  List.dropWhile_append_of_pos blank

theorem newLine_gap (depth : Nat) : ∀ c ∈ newLine depth, isGapChar c = true := by
  intro c mem
  rcases List.mem_cons.mp mem with rfl | mem
  · decide
  · rw [List.eq_of_mem_replicate mem]
    decide

theorem Writes.after {gap : Text} {part : Part} (blank : ∀ c ∈ gap, isGapChar c = true)
    (h : Writes t part) : Writes (gap ++ t) part := by
  intro rest
  rw [List.append_assoc, ahead_gap blank]
  exact h rest

theorem writes_quoted (value : Text) : Writes (quoted value) (.document (.string value)) := by
  intro rest
  have text : quoted value ++ rest = '"' :: (value.flatMap escape ++ '"' :: rest) := by
    simp [quoted]
  rw [text, ahead_cons (by decide)]
  exact .string (spells_flatMap value rest)

theorem Writes.member {key : Text} {value : Json} (h : Writes t (.document value)) :
    Writes (quoted key ++ ':' :: t) (.member key value) := by
  intro rest
  have text : quoted key ++ ':' :: t ++ rest =
      '"' :: (key.flatMap escape ++ '"' :: ':' :: (t ++ rest)) := by
    simp [quoted]
  rw [text, ahead_cons (by decide)]
  exact .member (spells_flatMap key _) (ahead_cons (by decide)) (h rest)

end Writing

/-! ### Parts in brackets -/

/-- Parts in brackets with commas between them: an array of documents or an object of members. -/
structure Brackets (α : Type) where
  opening : Char
  closing : Char
  part : α → Part
  /-- The parts from some place on. -/
  parts : List α → Part
  whole : List α → Json
  opens : isGapChar opening = false
  closes : isGapChar closing = false
  none {t rest : Text} : ahead t = closing :: rest →
    Reads (.document (whole [])) (opening :: t) rest
  some {as : List α} {t rest : Text} : Reads (parts as) t rest →
    Reads (.document (whole as)) (opening :: t) rest
  last {a : α} {t u rest : Text} : Reads (part a) (ahead t) u → ahead u = closing :: rest →
    Reads (parts [a]) t rest
  next {a : α} {as : List α} {t u v rest : Text} : Reads (part a) (ahead t) u →
    ahead u = ',' :: v → Reads (parts as) v rest → Reads (parts (a :: as)) t rest

def arrays : Brackets Json :=
  ⟨'[', ']', .document, .items, .array, rfl, rfl, .noItems, .array, .lastItem, .nextItem⟩

def objects : Brackets (Text × Json) :=
  ⟨'\x7b', '\x7d', fun m => .member m.1 m.2, .members, .object, rfl, rfl, .noMembers, .object,
    .lastMember, .nextMember⟩

namespace Brackets

variable {α : Type} (brackets : Brackets α) {parts : List α} {write : α → Text}

theorem reads_parts {closing rest : Text}
    (written : ∀ part ∈ parts, Writes (write part) (brackets.part part)) (some : parts ≠ [])
    (closes : ahead closing = brackets.closing :: rest) :
    Reads (brackets.parts parts) ([','].intercalate (parts.map write) ++ closing) rest := by
  induction parts with
  | nil => exact absurd rfl some
  | cons part parts ih =>
    have first := written part List.mem_cons_self
    rcases Decidable.em (parts = []) with rfl | more
    · simp only [List.map_cons, List.map_nil, List.intercalate_singleton]
      exact brackets.last (first closing) closes
    · rw [List.map_cons, List.intercalate_cons_of_ne_nil (by simpa using more), List.append_assoc,
        List.append_assoc]
      exact brackets.next (first _) (ahead_cons rfl)
        (ih (fun part mem => written part (List.mem_cons_of_mem _ mem)) more)

theorem writes_onOneLine (written : ∀ part ∈ parts, Writes (write part) (brackets.part part)) :
    Writes (onOneLine brackets.opening brackets.closing (parts.map write))
      (.document (brackets.whole parts)) := by
  intro rest
  simp only [onOneLine, List.cons_append, List.append_assoc, List.nil_append]
  rw [ahead_cons brackets.opens]
  rcases Decidable.em (parts = []) with rfl | some
  · exact brackets.none (ahead_cons brackets.closes)
  · exact brackets.some (brackets.reads_parts written some (ahead_cons brackets.closes))

theorem writes_overLines (depth : Nat)
    (written : ∀ part ∈ parts, Writes (write part) (brackets.part part)) :
    Writes (overLines depth brackets.opening brackets.closing (parts.map write))
      (.document (brackets.whole parts)) := by
  intro rest
  rcases Decidable.em (parts = []) with rfl | some
  · simp only [overLines, List.map_nil, List.isEmpty_nil, if_true, List.cons_append,
      List.nil_append]
    rw [ahead_cons brackets.opens]
    exact brackets.none (ahead_cons brackets.closes)
  · have text : overLines depth brackets.opening brackets.closing (parts.map write) ++ rest =
        brackets.opening ::
          ([','].intercalate (parts.map fun part => newLine (depth + 1) ++ write part) ++
            (newLine depth ++ brackets.closing :: rest)) := by
      simp [overLines, some, Function.comp_def]
    rw [text, ahead_cons brackets.opens]
    refine brackets.some (brackets.reads_parts (fun part mem => ?_) some ?_)
    · exact (written part mem).after (newLine_gap _)
    · rw [ahead_gap (newLine_gap depth), ahead_cons brackets.closes]

end Brackets

/-! ### On one line -/

theorem compactItems_eq (items : List Json) : compactItems items = items.map compact := by
  induction items with
  | nil => rfl
  | cons item items ih => rw [compactItems, ih, List.map_cons]

theorem compactMembers_eq (members : List (Text × Json)) :
    compactMembers members = members.map fun m => quoted m.1 ++ ':' :: compact m.2 := by
  induction members with
  | nil => rfl
  | cons m members ih => rw [compactMembers, ih, List.map_cons]

theorem compact_array (items : List Json) :
    compact (.array items) = onOneLine '[' ']' (items.map compact) :=
  congrArg (onOneLine '[' ']') (compactItems_eq items)

theorem compact_object (members : List (Text × Json)) :
    compact (.object members) =
      onOneLine '\x7b' '\x7d' (members.map fun m => quoted m.1 ++ ':' :: compact m.2) :=
  congrArg (onOneLine '\x7b' '\x7d') (compactMembers_eq members)

theorem sizeOf_value_lt {members : List (Text × Json)} {m : Text × Json} (mem : m ∈ members) :
    sizeOf m.2 < sizeOf (object members) := by
  have bound := List.sizeOf_lt_of_mem mem
  obtain ⟨key, value⟩ := m
  simp only [Prod.mk.sizeOf_spec, object.sizeOf_spec] at bound ⊢
  omega

theorem sizeOf_item_lt {items : List Json} {item : Json} (mem : item ∈ items) :
    sizeOf item < sizeOf (array items) := by
  have bound := List.sizeOf_lt_of_mem mem
  simp only [array.sizeOf_spec]
  omega

/-- On one line a document is read back. -/
theorem compact_writes (j : Json) : Writes (compact j) (.document j) := by
  cases j with
  | null => exact fun _ => .null
  | bool value =>
    cases value with
    | true => exact fun _ => .true
    | false => exact fun _ => .false
  | string value => exact writes_quoted value
  | array items =>
    rw [compact_array]
    exact arrays.writes_onOneLine fun item mem => compact_writes item
  | object members =>
    rw [compact_object]
    exact objects.writes_onOneLine fun m mem => (compact_writes m.2).member
termination_by sizeOf j
decreasing_by
  · exact sizeOf_item_lt mem
  · exact sizeOf_value_lt mem

/-! ### Over several lines -/

theorem indentedItems_eq (depth : Nat) (items : List Json) :
    indentedItems depth items = items.map (indented depth) := by
  induction items with
  | nil => rfl
  | cons item items ih => rw [indentedItems, ih, List.map_cons]

theorem indentedMembers_eq (depth : Nat) (members : List (Text × Json)) :
    indentedMembers depth members =
      members.map fun m => quoted m.1 ++ ':' :: ([' '] ++ indented depth m.2) := by
  induction members with
  | nil => rfl
  | cons m members ih =>
    rw [indentedMembers, ih, List.map_cons]
    rfl

theorem indented_array (depth : Nat) (items : List Json) :
    indented depth (.array items) =
      overLines depth '[' ']' (items.map (indented (depth + 1))) :=
  congrArg (overLines depth '[' ']') (indentedItems_eq (depth + 1) items)

theorem indented_object (depth : Nat) (members : List (Text × Json)) :
    indented depth (.object members) = overLines depth '\x7b' '\x7d'
      (members.map fun m => quoted m.1 ++ ':' :: ([' '] ++ indented (depth + 1) m.2)) :=
  congrArg (overLines depth '\x7b' '\x7d') (indentedMembers_eq (depth + 1) members)

/-- At any depth a document is read back. -/
theorem indented_writes (depth : Nat) (j : Json) : Writes (indented depth j) (.document j) := by
  cases j with
  | null => exact fun _ => .null
  | bool value =>
    cases value with
    | true => exact fun _ => .true
    | false => exact fun _ => .false
  | string value => exact writes_quoted value
  | array items =>
    rw [indented_array]
    exact arrays.writes_overLines depth fun item mem => indented_writes _ item
  | object members =>
    rw [indented_object]
    exact objects.writes_overLines depth fun m mem =>
      ((indented_writes _ m.2).after (List.forall_mem_singleton.mpr rfl)).member
termination_by sizeOf j
decreasing_by
  · exact sizeOf_item_lt mem
  · exact sizeOf_value_lt mem

theorem Writes.denotes {t : Text} {j : Json} (h : Writes t (.document j)) : Denotes t j :=
  ⟨[], by simpa using h [], rfl⟩

theorem compact_denotes (j : Json) : Denotes (compact j) j := (compact_writes j).denotes

theorem pretty_denotes (j : Json) : Denotes (pretty j) j := (indented_writes 0 j).denotes

end Json

end Criteria
