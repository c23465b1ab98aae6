/-!
# Numbers in double precision

The numbers that filters compare are those of the binary format with 64 bits. A
finite one is a whole number of units, where a unit is the smallest positive
number of the format, 2 to the power of -1074. So comparison is comparison of
integers, and an exact quotient is rounded once, to the nearest number of the
format, a tie going to the even significand.
-/

namespace Criteria

inductive Binary64 where
  | nan
  | infinity (negative : Bool)
  /-- A magnitude in units with a sign; zero has both signs. -/
  | finite (negative : Bool) (units : Nat)
deriving DecidableEq, Repr

namespace Binary64

/-- One in units. -/
def one : Nat := 1 <<< 1074

/-- The first magnitude in units that the format does not reach. -/
def limit : Nat := 1 <<< 2098

/-! ## Comparison -/

/-- The place of a number among the integers: its signed units, with the infinities
beyond every finite number. Both zeros have one place and what is not a number has none. -/
def place? : Binary64 → Option Int
  | nan => none
  | infinity negative => some (if negative then -(limit : Int) else limit)
  | finite negative units => some (if negative then -(units : Int) else units)

/-- The order of two numbers, if both are numbers. -/
def order? (a b : Binary64) : Option Ordering :=
  match a.place?, b.place? with
  | some x, some y => some (compare x y)
  | _, _ => none

/-- Whether two numbers are in an order that the test accepts; never for what is not a
number. -/
def ordered (test : Ordering → Bool) (a b : Binary64) : Bool :=
  (order? a b).any test

def isEqual : Binary64 → Binary64 → Bool := ordered (· == .eq)
def isAtLeast : Binary64 → Binary64 → Bool := ordered (· != .lt)
def isAtMost : Binary64 → Binary64 → Bool := ordered (· != .gt)
def isAbove : Binary64 → Binary64 → Bool := ordered (· == .gt)

/-! ## Rounding -/

/-- The whole number nearest to a quotient; a half goes to the even neighbour. -/
def nearest (num den : Nat) : Nat :=
  let quotient := num / den
  let twice := 2 * (num % den)
  if twice < den then quotient
  else if den < twice then quotient + 1
  else quotient + quotient % 2

/-- How many of the low binary digits of a magnitude in units the format drops: it keeps
53 from the highest on. -/
def droppedDigits (units : Nat) : Nat := units.log2 - 52

/-- The magnitude of the format nearest to `num / den` units. -/
def roundUnits (num den : Nat) : Nat :=
  let dropped := droppedDigits (num / den)
  nearest num (den <<< dropped) <<< dropped

/-- The number of the format nearest to `num / den` with the given sign. -/
def ofQuotient (negative : Bool) (num den : Nat) : Binary64 :=
  let units := roundUnits (num * one) den
  if units < limit then finite negative units else infinity negative

def ofNat (negative : Bool) (n : Nat) : Binary64 := ofQuotient negative n 1

/-- The number nearest to `mantissa * 10 ^ exponent`, where the mantissa is written with
`digits` digits. From 10 to the power of 309 on every number is beyond the format, and
below 10 to the power of -330 every number rounds to zero, so the power of ten that is
computed is bounded by the length of the mantissa. -/
def ofDecimal (negative : Bool) (mantissa digits : Nat) (exponent : Int) : Binary64 :=
  if mantissa = 0 then finite negative 0
  else match exponent with
    | .ofNat e =>
        if 309 ≤ e then infinity negative else ofQuotient negative (mantissa * Nat.pow 10 e) 1
    | .negSucc e =>
        if digits + 330 ≤ e then finite negative 0
        else ofQuotient negative mantissa (Nat.pow 10 (e + 1))

/-- The number with the other sign; zero and the infinities have both signs. -/
def negated : Binary64 → Binary64
  | nan => nan
  | infinity negative => infinity (!negative)
  | finite negative units => finite (!negative) units

/-! ## Bits

A word has 52 bits of fraction, 11 bits of exponent, and the sign. -/

/-- What the first of 53 binary digits weighs. -/
def leadingDigit : Nat := 1 <<< 52

/-- The exponent field of the infinities and of what is not a number. -/
def topExponent : Nat := 0x7FF

/-- The bits of a magnitude below the limit. From the leading digit on the fraction is what
follows that digit, and the exponent is one more than the digits dropped. -/
def magnitudeBits (units : Nat) : Nat :=
  let dropped := droppedDigits units
  if units < leadingDigit then units
  else ((dropped + 1) <<< 52) + (units >>> dropped - leadingDigit)

def signBit (negative : Bool) : Nat := if negative then 1 <<< 63 else 0

/-- The 64 bits of a number; what is not a number has no bits of its own. -/
def toBits? : Binary64 → Option Nat
  | nan => none
  | infinity negative => some (signBit negative + topExponent <<< 52)
  | finite negative units => some (signBit negative + magnitudeBits units)

/-- The number with the given 64 bits. -/
def ofBits (bits : Nat) : Binary64 :=
  let negative := bits >>> 63 % 2 == 1
  let exponent := bits >>> 52 % (topExponent + 1)
  let fraction := bits % leadingDigit
  if exponent = topExponent then (if fraction = 0 then infinity negative else nan)
  else if exponent = 0 then finite negative fraction
  else finite negative ((leadingDigit + fraction) <<< (exponent - 1))

/-! ## Intervals -/

/-- Whether a number lies between two bounds, both included. -/
def isWithin (value low high : Binary64) : Bool := value.isAtLeast low && value.isAtMost high

end Binary64

/-- The numbers between two bounds, both included. -/
structure Interval where
  low : Binary64
  high : Binary64
deriving DecidableEq, Repr

/-- The interval between two bounds in either order; a bound that is not a number leaves
them as they are. -/
def Interval.between (a b : Binary64) : Interval := if a.isAbove b then ⟨b, a⟩ else ⟨a, b⟩

def Interval.contains (r : Interval) (value : Binary64) : Bool := value.isWithin r.low r.high

end Criteria
