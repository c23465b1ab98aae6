import Criteria.Text

/-!
# Digits

The values of decimal and hexadecimal digits, and the number that a row of
digits stands for.
-/

namespace Criteria

namespace Digit

/-- The value of a decimal digit. -/
def decimal? (c : Char) : Option Nat :=
  if '0' ≤ c ∧ c ≤ '9' then some (c.toNat - '0'.toNat) else none

/-- The value of a hexadecimal digit, of either letter case. -/
def hex? (c : Char) : Option Nat :=
  if '0' ≤ c ∧ c ≤ '9' then some (c.toNat - '0'.toNat)
  else if 'a' ≤ c ∧ c ≤ 'f' then some (c.toNat - 'a'.toNat + 10)
  else if 'A' ≤ c ∧ c ≤ 'F' then some (c.toNat - 'A'.toNat + 10)
  else none

/-- The number that digits stand for, the first one weighing most. -/
def number (base : Nat) (digits : List Nat) : Nat :=
  digits.foldl (fun value d => value * base + d) 0

/-- The number that hexadecimal digits stand for; each character has to be one. -/
def hexNumber? (t : Text) : Option Nat := (t.mapM hex?).map (number 16)

end Digit

end Criteria
