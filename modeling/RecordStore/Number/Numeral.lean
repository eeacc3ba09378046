import RecordStore.Number.Binary64

/-!
Written numbers: an optional minus sign, a whole part, an optional fraction and an optional exponent.
Without fraction and exponent it is a whole number, with either a floating-point number.
-/

namespace RecordStore

structure Numeral where
  negative : Bool
  whole : List Char
  fraction : Option (List Char)
  exponent : Option Int
  deriving DecidableEq

def natOfDigits (digits : List Char) : Nat :=
  digits.foldl (fun n c => 10 * n + (c.toNat - '0'.toNat)) 0

def intOfDigits (negative : Bool) (digits : List Char) : Int :=
  if negative then -(natOfDigits digits : Int) else natOfDigits digits

namespace Numeral

def exponentOf? : List Char → Option Int
  | '+' :: digits => unsigned? false digits
  | '-' :: digits => unsigned? true digits
  | digits => unsigned? false digits
where
  unsigned? (negative : Bool) (digits : List Char) : Option Int :=
    if digits ≠ [] ∧ digits.all Char.isDigit then some (intOfDigits negative digits) else none

def isExponentMark (c : Char) : Bool := c == 'e' || c == 'E'

/-- Takes a number apart; both sides of the point must have digits, and no zero stands before other
digits of the whole part. -/
def read? (cs : List Char) : Option Numeral :=
  let negative := cs.head? == some '-'
  let cs := if negative then cs.drop 1 else cs
  let whole := cs.takeWhile Char.isDigit
  let rest := cs.dropWhile Char.isDigit
  if whole = [] ∨ (whole.head? = some '0' ∧ whole.length > 1) then none
  else
    let fraction? : Option (Option (List Char) × List Char) :=
      match rest with
      | '.' :: rest =>
        let digits := rest.takeWhile Char.isDigit
        if digits = [] then none else some (some digits, rest.dropWhile Char.isDigit)
      | rest => some (none, rest)
    match fraction? with
    | none => none
    | some (fraction, []) => some ⟨negative, whole, fraction, none⟩
    | some (fraction, c :: rest) =>
      if isExponentMark c then (exponentOf? rest).map fun e => ⟨negative, whole, fraction, some e⟩
      else none

def isWhole (n : Numeral) : Bool := n.fraction.isNone && n.exponent.isNone

def toInt (n : Numeral) : Int := intOfDigits n.negative n.whole

def toBinary64 (n : Numeral) : Binary64 :=
  let fraction := n.fraction.getD []
  .ofDecimal n.negative (natOfDigits (n.whole ++ fraction)) (n.exponent.getD 0 - fraction.length)

end Numeral

/-- Numbers of more digits are neither written nor read. -/
def digitLimit : Nat := 4300

end RecordStore
