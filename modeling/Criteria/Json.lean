import Criteria.Text

/-!
# JSON documents

A document and its two written forms: on one line without blanks, or over
several lines with each level two spaces further in. Text stands as it is
except for the quote, the backslash and the control characters.
-/

namespace Criteria

inductive Json where
  | null
  | bool (value : Bool)
  | string (value : Text)
  | array (items : List Json)
  | object (members : List (Text × Json))

namespace Json

/-- The lower-case hexadecimal digit of a number below sixteen. -/
def hexDigit (n : Nat) : Char := Nat.digitChar n

/-- A control character without a letter of its own is written with four digits. -/
def escape (c : Char) : Text :=
  if c = '"' then ['\\', '"']
  else if c = '\\' then ['\\', '\\']
  else if c = '\x08' then ['\\', 'b']
  else if c = '\t' then ['\\', 't']
  else if c = '\n' then ['\\', 'n']
  else if c = '\x0C' then ['\\', 'f']
  else if c = '\r' then ['\\', 'r']
  else if c.toNat < 0x20 then
    ['\\', 'u', '0', '0', hexDigit (c.toNat / 16), hexDigit (c.toNat % 16)]
  else [c]

def quoted (t : Text) : Text := '"' :: t.flatMap escape ++ ['"']

/-- A bracketed sequence on one line. -/
def onOneLine (opening closing : Char) (items : List Text) : Text :=
  opening :: [','].intercalate items ++ [closing]

mutual

/-- The document on one line. -/
def compact : Json → Text
  | null => "null".toList
  | bool true => "true".toList
  | bool false => "false".toList
  | string value => quoted value
  | array items => onOneLine '[' ']' (compactItems items)
  | object members => onOneLine '\x7b' '\x7d' (compactMembers members)

def compactItems : List Json → List Text
  | [] => []
  | item :: rest => compact item :: compactItems rest

def compactMembers : List (Text × Json) → List Text
  | [] => []
  | (key, value) :: rest => (quoted key ++ ':' :: compact value) :: compactMembers rest

end

/-- The start of a line at a depth. -/
def newLine (depth : Nat) : Text := '\n' :: List.replicate (2 * depth) ' '

/-- A bracketed sequence with a line for each item; without items it stays on its line. -/
def overLines (depth : Nat) (opening closing : Char) (items : List Text) : Text :=
  if items.isEmpty then [opening, closing]
  else
    opening :: [','].intercalate (items.map fun item => newLine (depth + 1) ++ item) ++
      newLine depth ++ [closing]

mutual

/-- The document over several lines, at a depth. -/
def indented (depth : Nat) : Json → Text
  | null => "null".toList
  | bool true => "true".toList
  | bool false => "false".toList
  | string value => quoted value
  | array items => overLines depth '[' ']' (indentedItems (depth + 1) items)
  | object members => overLines depth '\x7b' '\x7d' (indentedMembers (depth + 1) members)

def indentedItems (depth : Nat) : List Json → List Text
  | [] => []
  | item :: rest => indented depth item :: indentedItems depth rest

def indentedMembers (depth : Nat) : List (Text × Json) → List Text
  | [] => []
  | (key, value) :: rest =>
      (quoted key ++ ':' :: ' ' :: indented depth value) :: indentedMembers depth rest

end

def pretty (document : Json) : Text := indented 0 document

end Json

end Criteria
