/-!
Binary floating-point numbers of 64 bits as exact values. A finite number is a sign and a place in the
increasing list of the non-negative finite numbers, so two numbers are equal exactly when sign and
place are. `ofRatio` rounds a quotient to the nearest number, and a half goes to the even neighbour.
-/

namespace RecordStore

/-- How many non-negative finite numbers there are: 2047 exponents with 2⁵² fractions each. -/
abbrev finiteCount : Nat := 2047 * Nat.pow 2 52

inductive Binary64 where
  | nan
  | infinite (negative : Bool)
  | finite (negative : Bool) (place : Fin finiteCount)
  deriving DecidableEq, Inhabited

namespace Binary64

/-- How many units of the smallest positive number make one. -/
abbrev one : Nat := Nat.pow 2 1074

def exponent (place : Nat) : Nat := place / Nat.pow 2 52 - 1

def mantissa (place : Nat) : Nat :=
  if place < Nat.pow 2 52 then place else Nat.pow 2 52 + place % Nat.pow 2 52

def units (place : Nat) : Nat := mantissa place * Nat.pow 2 (exponent place)

/-- The nearest whole number to a quotient; a half goes to the even neighbour. -/
def roundHalfEven (num den : Nat) : Nat :=
  let whole := num / den
  let twice := 2 * (num % den)
  if twice < den then whole
  else if den < twice then whole + 1
  else whole + whole % 2

/-- The number nearest to a quotient, or the infinity of its sign when no finite number is near. -/
def ofRatio (negative : Bool) (num den : Nat) : Binary64 :=
  let whole := num * one / den
  let scale := if whole < Nat.pow 2 53 then 0 else whole.log2 - 52
  let place := scale * Nat.pow 2 52 + roundHalfEven (num * one) (den * Nat.pow 2 scale)
  if h : place < finiteCount then .finite negative ⟨place, h⟩ else .infinite negative

def zero (negative : Bool) : Binary64 := .finite negative ⟨0, by decide⟩

/-- The number nearest to `digits` times ten to the `power`. Powers far outside the range of the
finite numbers are decided without being computed. -/
def ofDecimal (negative : Bool) (digits : Nat) (power : Int) : Binary64 :=
  if digits = 0 then zero negative
  else if power ≥ 0 then
    if power > 400 then .infinite negative else ofRatio negative (digits * Nat.pow 10 power.toNat) 1
  else if -power > 400 + digits.log2 then zero negative
  else ofRatio negative digits (Nat.pow 10 (-power).toNat)

def signedUnits (negative : Bool) (place : Nat) : Int :=
  if negative then -(units place : Int) else units place

def addMagnitudes : Binary64 → Binary64 → Binary64
  | .finite _ x, .finite _ y => ofRatio false (units x + units y) one
  | _, _ => .infinite false

def mulMagnitudes : Binary64 → Binary64 → Binary64
  | .finite _ x, .finite _ y => ofRatio false (units x * units y) (one * one)
  | _, _ => .infinite false

def withSign (negative : Bool) : Binary64 → Binary64
  | .finite _ place => .finite negative place
  | .infinite _ => .infinite negative
  | .nan => .nan

def isZero : Binary64 → Bool
  | .finite _ place => place.val == 0
  | _ => false

def isWhole : Binary64 → Bool
  | .finite _ place => units place % one == 0
  | _ => false

def truncate? : Binary64 → Option Int
  | .finite negative place =>
    let whole : Int := units place / one
    some (if negative then -whole else whole)
  | _ => none

end Binary64
end RecordStore
