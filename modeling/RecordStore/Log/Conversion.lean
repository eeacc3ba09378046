import RecordStore.Number.Binary64
import RecordStore.Value.Literal

/-!
How one value is shown in a line: marks, a least width, a precision and the letter of a form. Texts are
cut to the precision, whole numbers are filled up to it, and others have as many digits behind the
point. A value that does not fit its form is not shown.
-/

namespace RecordStore.Log

structure Conversion where
  marks : List Char := []
  width : Nat := 0
  precision : Option Nat := none
  form : Char

namespace Conversion

def hasMark (conversion : Conversion) (mark : Char) : Bool := conversion.marks.contains mark

def padded (conversion : Conversion) (cs : List CodePoint) : List CodePoint :=
  let blanks := List.replicate (conversion.width - cs.length) (.char ' ')
  if conversion.hasMark '-' then cs ++ blanks else blanks ++ cs

def cut (conversion : Conversion) (cs : List CodePoint) : List CodePoint :=
  (conversion.precision.map cs.take).getD cs

/-- A number behind its sign and whatever else stands in front, with zeros between if there is room. -/
def filled (conversion : Conversion) (n : Int) (front digits : List Char) : List CodePoint :=
  let sign :=
    if n < 0 then ['-']
    else if conversion.hasMark '+' then ['+']
    else if conversion.hasMark ' ' then [' ']
    else []
  let front := sign ++ front
  let zeros :=
    if conversion.hasMark '0' && !conversion.hasMark '-' then
      List.replicate (conversion.width - (front ++ digits).length) '0'
    else []
  conversion.padded ((front ++ zeros ++ digits).map .char)

def base? (form : Char) : Option Nat :=
  if "diu".toList.contains form then some 10
  else if "xX".toList.contains form then some 16
  else if form = 'o' then some 8
  else none

def whole (conversion : Conversion) (base : Nat) (n : Int) : List CodePoint :=
  let front := if base ≠ 10 ∧ conversion.hasMark '#' then ['0', conversion.form] else []
  let digits := Nat.toDigits base n.natAbs
  let digits := if conversion.form = 'X' then digits.map Char.toUpper else digits
  let zeros := List.replicate (conversion.precision.getD 0 - digits.length) '0'
  conversion.filled n front (zeros ++ digits)

/-! ### Whole numbers with a point -/

/-- The digits of a number rounded to a count of them, and the power of ten of the first. -/
def leadingDigits (count n : Nat) : List Char × Nat :=
  let digits := Nat.toDigits 10 n
  if digits.length ≤ count then
    (digits ++ List.replicate (count - digits.length) '0', digits.length - 1)
  else
    let rounded := Nat.toDigits 10 (Binary64.roundHalfEven n (Nat.pow 10 (digits.length - count)))
    if rounded.length > count then (rounded.take count, digits.length) else (rounded, digits.length - 1)

/-- Digits around a point. Without digits behind it the point is shown only if a mark asks for it. -/
def pointed (conversion : Conversion) (before behind : List Char) : List Char :=
  if behind = [] ∧ !conversion.hasMark '#' then before else before ++ '.' :: behind

/-- Digits with the point behind the first, and a power of ten of at least two digits. -/
def scientific (conversion : Conversion) (digits : List Char) (power : Nat) : List Char :=
  let mark := if conversion.form.isUpper then 'E' else 'e'
  let written := Nat.toDigits 10 power
  conversion.pointed (digits.take 1) (digits.drop 1) ++
    mark :: '+' :: (List.replicate (2 - written.length) '0' ++ written)

/-- Zeros at the end of a fraction, which are lost unless a mark keeps them. -/
def withoutZeros (conversion : Conversion) (digits : List Char) : List Char :=
  if conversion.hasMark '#' then digits else (digits.reverse.dropWhile (· == '0')).reverse

/-- A number in whichever way is shorter, with so many digits in all. -/
def general (conversion : Conversion) (count n : Nat) : List Char :=
  let (digits, power) := leadingDigits count n
  if power < count then
    conversion.pointed (digits.take (power + 1)) (conversion.withoutZeros (digits.drop (power + 1)))
  else conversion.scientific (digits.take 1 ++ conversion.withoutZeros (digits.drop 1)) power

/-- A whole number shown as one with a point, unless it is too large for that. -/
def real? (conversion : Conversion) (n : Int) : Option (List CodePoint) := do
  let nearest ← (Binary64.ofRatio false n.natAbs 1).truncate?
  let precision := conversion.precision.getD 6
  let digits ←
    match conversion.form.toLower with
    | 'e' =>
      let (digits, power) := leadingDigits (precision + 1) nearest.natAbs
      some (conversion.scientific digits power)
    | 'f' => some (conversion.pointed (Nat.toDigits 10 nearest.natAbs) (List.replicate precision '0'))
    | 'g' => some (conversion.general (max precision 1) nearest.natAbs)
    | _ => none
  return conversion.filled n [] digits

/-! ### Values -/

def character? : Value → Option CodePoint
  | .text s =>
    match s.points with
    | [p] => some p
    | _ => none
  | .int n => if 0 ≤ n ∧ n < 0x110000 then some (.ofNat n.toNat) else none
  | _ => none

def inAscii (cs : List Char) : List Char :=
  cs.flatMap fun c => if c.toNat < 0x80 then [c] else Literal.numbered c.toNat

def shown? (conversion : Conversion) (v : Value) : Option (List CodePoint) :=
  match conversion.form with
  | 's' => some (conversion.padded (conversion.cut v.shown.points))
  | 'r' => some (conversion.padded (conversion.cut (v.literal.toList.map .char)))
  | 'a' => some (conversion.padded (conversion.cut ((inAscii v.literal.toList).map .char)))
  | 'c' => (character? v).map fun p => conversion.padded [p]
  | form =>
    match base? form, v with
    | some base, .int n => some (conversion.whole base n)
    | none, .int n => conversion.real? n
    | _, _ => none

end Conversion
end RecordStore.Log
