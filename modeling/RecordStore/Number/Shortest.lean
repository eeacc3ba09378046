import RecordStore.Number.Binary64

/-!
The decimal text of a number: the fewest digits that read back as the number, and of those the
nearest. Written without an exponent when the first digit stands between the fourth place after the
point and the sixteenth before it.
-/

namespace RecordStore

/-- A decimal number: `digits` times ten to the `power`. -/
structure Decimal where
  digits : Nat
  power : Int
  deriving DecidableEq

namespace Decimal

def digitCount (n : Nat) : Nat := (Nat.toDigits 10 n).length

def stripped (d : Decimal) : Decimal :=
  go (digitCount d.digits) d.digits d.power
where
  go : Nat → Nat → Int → Decimal
    | 0, digits, power => ⟨digits, power⟩
    | fuel + 1, digits, power =>
      if digits % 10 = 0 ∧ digits ≠ 0 then go fuel (digits / 10) (power + 1) else ⟨digits, power⟩

end Decimal

namespace Binary64

def pointPlace (place : Nat) : Int :=
  (Decimal.digitCount (units place * Nat.pow 10 400 / one) : Int) - 400

def onGrid (place : Nat) (power : Int) : Nat × Nat :=
  if power ≥ 0 then (units place, one * Nat.pow 10 power.toNat)
  else (units place * Nat.pow 10 (-power).toNat, one)

/-- The neighbour on a decimal grid that reads back as the number, the nearer one if both do. -/
def nearestOnGrid? (place : Fin finiteCount) (power : Int) : Option Decimal :=
  let (num, den) := onGrid place power
  let below := num / den
  let readsBack (digits : Nat) : Bool := ofDecimal false digits power == .finite false place
  match readsBack below, readsBack (below + 1) with
  | false, false => none
  | true, false => some ⟨below, power⟩
  | false, true => some ⟨below + 1, power⟩
  | true, true => some ⟨roundHalfEven num den, power⟩

/-- The shortest decimal that reads back as the number at a place; the number's own expansion stands
behind the seventeen grids, so that there always is one. -/
def shortest (place : Fin finiteCount) : Decimal :=
  let point := pointPlace place
  let found := (List.range 17).findSome? fun (n : Nat) => nearestOnGrid? place (point - (n + 1 : Int))
  (found.getD ⟨units place * Nat.pow 5 1074, -1074⟩).stripped

def exponentText (exponent : Int) : List Char :=
  let digits := Nat.toDigits 10 exponent.natAbs
  let padded := if digits.length < 2 then '0' :: digits else digits
  (if exponent < 0 then '-' else '+') :: padded

def magnitudeText (place : Fin finiteCount) : List Char :=
  if place.val = 0 then ['0', '.', '0']
  else
    let d := shortest place
    let digits := Nat.toDigits 10 d.digits
    let point := (digits.length : Int) + d.power
    if -4 < point ∧ point ≤ 16 then
      if point ≤ 0 then '0' :: '.' :: (List.replicate (-point).toNat '0' ++ digits)
      else
        let before := point.toNat
        if digits.length ≤ before then
          digits ++ List.replicate (before - digits.length) '0' ++ ['.', '0']
        else digits.take before ++ '.' :: digits.drop before
    else
      let fraction := match digits.drop 1 with
        | [] => []
        | rest => '.' :: rest
      digits.take 1 ++ fraction ++ 'e' :: exponentText (point - 1)

def chars : Binary64 → List Char
  | .nan => ['n', 'a', 'n']
  | .infinite negative => (if negative then ['-'] else []) ++ ['i', 'n', 'f']
  | .finite negative place => (if negative then ['-'] else []) ++ magnitudeText place

def text (x : Binary64) : String := String.ofList x.chars

end Binary64
end RecordStore
