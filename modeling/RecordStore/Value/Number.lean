import RecordStore.Error.Misuse
import RecordStore.Number.Numeral
import RecordStore.Text.Blank
import RecordStore.Text.Digit

/-!
Whole numbers that values stand for. A fraction is dropped; a text may have blanks around, a sign, and
single lines between its digits, which may be of any script.
-/

namespace RecordStore

/-- Digits with single lines between them; `after` says whether a digit came right before. -/
def unlined? (after : Bool) : List Char → Option (List Char)
  | [] => if after then some [] else none
  | c :: rest =>
    if c = '_' then (if after then unlined? false rest else none)
    else if Text.isDigit c then (unlined? true rest).map (c :: ·)
    else none

/-- A blank that may stand around a number: any but the separators of the ASCII control range. -/
def isMargin (c : Char) : Bool := Text.isBlank c && !(0x1c ≤ c.toNat && c.toNat ≤ 0x1f)

/-- Whether a minus sign comes first, and what follows the sign if there is one. -/
def splitSign : List Char → Bool × List Char
  | '-' :: rest => (true, rest)
  | '+' :: rest => (false, rest)
  | cs => (false, cs)

/-- The whole number that characters spell; `source` is what a complaint names. That there are too many
digits is found before what follows them is looked at. -/
def wholeOf (cs : List Char) (source : Value) : Except Misuse Int :=
  let (negative, cs) := splitSign (cs.dropWhile isMargin)
  let run := cs.takeWhile fun c => c == '_' || Text.isDigit c
  match unlined? false run with
  | none => .error (.malformed (.wholeNumber 10 source))
  | some digits =>
    if digits.length > digitLimit then .error (.malformed (.readDigits digits.length))
    else if (cs.drop run.length).all isMargin then
      let n : Int := Text.natOfDigits digits
      .ok (if negative then -n else n)
    else .error (.malformed (.wholeNumber 10 source))

namespace Value

/-- As many bytes as a complaint shows at most. -/
def shownBytes : Nat := 200

/-- Bytes as characters; those outside ASCII are no part of any number. -/
def asciiChars (data : List UInt8) : List Char :=
  data.map fun b => if b.toNat < 0x80 then Char.ofNat b.toNat else '?'

def toInt (v : Value) : Except Misuse Int :=
  match v with
  | bool b => .ok (if b then 1 else 0)
  | int n => .ok n
  | float .nan => .error (.malformed .notANumber)
  | float x =>
    match x.truncate? with
    | some n => .ok n
    | none => .error .infiniteNumber
  | text s => wholeOf s.chars v
  | bytes _ data => wholeOf (asciiChars data) (bytes .fixed (data.take shownBytes))
  | v => .error (.notNumber v.shape)

end Value
end RecordStore
