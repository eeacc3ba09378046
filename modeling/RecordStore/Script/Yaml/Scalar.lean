import RecordStore.Number.Numeral
import RecordStore.Text.Hex
import RecordStore.Value.Basic
import RecordStore.Script.Yaml.Fault

/-!
What a plain scalar of YAML 1.1 means: nothing, a truth value, a number, a date, or just its text.
Whole numbers may be binary, octal, hexadecimal or in base sixty, and underscores may stand between
digits. A number with too many digits or none, and a date of no calendar, are faults.
-/

namespace RecordStore.Script.Yaml

def falseWords : List String := ["no", "No", "NO", "false", "False", "FALSE", "off", "Off", "OFF"]

def trueWords : List String := ["yes", "Yes", "YES", "true", "True", "TRUE", "on", "On", "ON"]

def nullWords : List String := ["", "~", "null", "Null", "NULL"]

def isDigitOrLine (c : Char) : Bool := c.isDigit || c == '_'

def withoutLines (cs : List Char) : List Char := cs.filter (· != '_')

def signed (cs : List Char) : Bool × List Char :=
  match cs with
  | '-' :: rest => (true, rest)
  | '+' :: rest => (false, rest)
  | rest => (false, rest)

def inBase (base : Nat) (digits : List Char) : Except Malformed Nat :=
  if digits = [] then .error (.wholeNumber base (.text ""))
  else .ok (digits.foldl (fun n c => base * n + (Hex.digit? c).getD 0) 0)

def inDecimal (digits : List Char) : Except Malformed Nat :=
  if digits.length > digitLimit then .error (.readDigits digits.length) else .ok (natOfDigits digits)

def withSign (negative : Bool) (n : Nat) : Int := if negative then -(n : Int) else n

def isSixty (part : List Char) : Bool :=
  match part with
  | [c] => c.isDigit
  | [c, d] => '0' ≤ c && c ≤ '5' && d.isDigit
  | _ => false

def inSixties (parts : List (List Char)) : Except Malformed Nat := do
  let digits ← parts.mapM fun part => inDecimal (withoutLines part)
  return digits.foldl (fun n digit => 60 * n + digit) 0

def startsWithDigit (cs : List Char) : Bool :=
  match cs with
  | c :: rest => c.isDigit && rest.all isDigitOrLine
  | [] => false

def startsAboveZero (cs : List Char) : Bool := startsWithDigit cs && cs.head? != some '0'

def int? (cs : List Char) : Option (Except Malformed Int) :=
  let (negative, digits) := signed cs
  let signed (n : Except Malformed Nat) : Option (Except Malformed Int) := some (n.map (withSign negative))
  match digits with
  | '0' :: 'b' :: bits =>
    if bits ≠ [] ∧ bits.all (fun c => c == '0' || c == '1' || c == '_') then
      signed (inBase 2 (withoutLines bits))
    else none
  | '0' :: 'x' :: digits =>
    if digits ≠ [] ∧ digits.all (fun c => (Hex.digit? c).isSome || c == '_') then
      signed (inBase 16 (withoutLines digits))
    else none
  | '0' :: octal =>
    if octal.all (fun c => ('0' ≤ c && c ≤ '7') || c == '_') then
      signed (inBase 8 ('0' :: withoutLines octal))
    else none
  | digits =>
    if startsAboveZero digits then signed (inDecimal (withoutLines digits))
    else
      match digits.splitOn ':' with
      | first :: second :: rest =>
        if startsAboveZero first && (second :: rest).all isSixty then
          signed (inSixties (first :: second :: rest))
        else none
      | _ => none

/-- An exponent of a plain scalar always has a sign. -/
def exponent? (cs : List Char) : Option Int :=
  match cs with
  | [] => some 0
  | e :: sign :: digits =>
    if (e = 'e' ∨ e = 'E') ∧ (sign = '+' ∨ sign = '-') ∧ digits ≠ [] ∧ digits.all Char.isDigit then
      some (intOfDigits (sign == '-') digits)
    else none
  | _ => none

def pointed? (negative : Bool) (whole : Nat) (behind : List Char) : Option Binary64 :=
  let fraction := withoutLines (behind.takeWhile isDigitOrLine)
  (exponent? (behind.dropWhile isDigitOrLine)).map fun e =>
    .ofDecimal negative (whole * Nat.pow 10 fraction.length + natOfDigits fraction) (e - fraction.length)

/-- Digits of base sixty added up from the last one, every sum rounded. -/
def sixtiesSum (digits : List Binary64) : Binary64 :=
  (digits.reverse.foldl (fun (sum, base) digit =>
    (sum.addMagnitudes (digit.mulMagnitudes (.ofRatio false base 1)), 60 * base)) (.zero false, 1)).1

def float? (cs : List Char) : Option Binary64 :=
  let (negative, digits) := signed cs
  let whole := digits.takeWhile (· != '.')
  match digits.dropWhile (· != '.') with
  | '.' :: behind =>
    if whole = [] then
      if behind = "inf".toList ∨ behind = "Inf".toList ∨ behind = "INF".toList then
        some (.infinite negative)
      else if cs = '.' :: behind ∧ (behind = "nan".toList ∨ behind = "NaN".toList ∨ behind = "NAN".toList) then
        some .nan
      else if cs = '.' :: behind ∧ (behind.head?.map Char.isDigit).getD false then
        pointed? negative 0 behind
      else none
    else if startsWithDigit whole then pointed? negative (natOfDigits (withoutLines whole)) behind
    else
      match whole.splitOn ':' with
      | first :: second :: rest =>
        if startsWithDigit first && (second :: rest).all isSixty && behind.all isDigitOrLine then
          let parts := (first :: second :: rest).map withoutLines
          let fraction := withoutLines behind
          let digits := parts.dropLast.map fun part => Binary64.ofDecimal false (natOfDigits part) 0
          let last := natOfDigits (parts.getLast?.getD [] ++ fraction)
          some ((sixtiesSum (digits ++ [.ofDecimal false last (-fraction.length)])).withSign negative)
        else none
      | _ => none
  | _ => none

/-! ### Dates -/

def takeDigits? (least most : Nat) (cs : List Char) : Option (Nat × List Char) :=
  let digits := (cs.take most).takeWhile Char.isDigit
  if digits.length < least then none else some (natOfDigits digits, cs.drop digits.length)

def takeChar? (c : Char) (cs : List Char) : Option (List Char) :=
  match cs with
  | d :: rest => if c = d then some rest else none
  | [] => none

/-- A date, maybe with a time of day and the minutes by which its zone is off. -/
structure Date where
  year : Nat
  month : Nat
  day : Nat
  time : Option (Nat × Nat × Nat) := none
  zone : Int := 0
  deriving DecidableEq

namespace Date

def isLeap (year : Nat) : Bool := year % 4 == 0 && (year % 100 != 0 || year % 400 == 0)

def daysIn (year month : Nat) : Nat :=
  if month = 2 then (if isLeap year then 29 else 28)
  else if [4, 6, 9, 11].contains month then 30
  else 31

def timeFault? : Nat × Nat × Nat → Option DatePart
  | (hour, minute, second) =>
    if hour > 23 then some .hour
    else if minute > 59 then some .minute
    else if second > 59 then some .second
    else none

def fault? (date : Date) : Option DatePart :=
  if date.zone.natAbs ≥ 1440 then some (.zone date.zone)
  else if date.year = 0 then some (.year 0)
  else if date.month = 0 ∨ date.month > 12 then some .month
  else if date.day = 0 ∨ date.day > daysIn date.year date.month then some .day
  else date.time.bind timeFault?

/-- A date as the tuple of its numbers. -/
def value (date : Date) : Value :=
  let (hour, minute, second) := date.time.getD (0, 0, 0)
  .tuple ([date.year, date.month, date.day, hour, minute, second].map fun (n : Nat) => .int n)

end Date

def zone? (cs : List Char) : Option Int :=
  match cs with
  | [] => some 0
  | _ =>
    match cs.dropWhile (fun c => c == ' ' || c == '\t') with
    | ['Z'] => some 0
    | sign :: rest => do
      if !(sign == '+' || sign == '-') then none
      let (hours, rest) ← takeDigits? 1 2 rest
      match rest with
      | [] => return withSign (sign == '-') (60 * hours)
      | ':' :: minutes =>
        if minutes.length = 2 ∧ minutes.all Char.isDigit then
          return withSign (sign == '-') (60 * hours + natOfDigits minutes)
        else none
      | _ => none
    | [] => none

def date? (cs : List Char) : Option Date := do
  let (year, rest) ← takeDigits? 4 4 cs
  let rest ← takeChar? '-' rest
  let (month, rest) ← takeDigits? 1 2 rest
  let rest ← takeChar? '-' rest
  let (day, rest) ← takeDigits? 1 2 rest
  if rest = [] then
    if cs.length = 10 then return { year, month, day } else none
  else
    let rest ← match rest with
      | 'T' :: rest | 't' :: rest => some rest
      | ' ' :: _ | '\t' :: _ => some (rest.dropWhile fun c => c == ' ' || c == '\t')
      | _ => none
    let (hour, rest) ← takeDigits? 1 2 rest
    let rest ← takeChar? ':' rest
    let (minute, rest) ← takeDigits? 2 2 rest
    let rest ← takeChar? ':' rest
    let (second, rest) ← takeDigits? 2 2 rest
    let rest := match rest with
      | '.' :: fraction => fraction.dropWhile Char.isDigit
      | rest => rest
    let zone ← zone? rest
    return { year, month, day, time := some (hour, minute, second), zone }

def dateValue (date : Date) : Except Fault Value :=
  match date.fault? with
  | some part => .error (.foreign "ValueError" part.text)
  | none => .ok date.value

def intValue (n : Except Malformed Int) : Except Fault Value :=
  match n with
  | .ok n => .ok (.int n)
  | .error fault => .error (.ofMalformed fault)

/-- What a plain scalar means. The marks of merge entries and of default values stand for nothing by
themselves. -/
def plainValue (text : List Char) : Except Fault Value :=
  let word := String.ofList text
  if nullWords.contains word then .ok .null
  else if falseWords.contains word then .ok (.bool false)
  else if trueWords.contains word then .ok (.bool true)
  else match float? text, int? text, date? text with
  | some x, _, _ => .ok (.float x)
  | none, some n, _ => intValue n
  | none, none, some date => dateValue date
  | none, none, none => if word = "=" ∨ word = "<<" then .error .malformed else .ok (.text word)

end RecordStore.Script.Yaml
