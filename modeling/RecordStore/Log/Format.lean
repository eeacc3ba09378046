import RecordStore.Log.Conversion
import RecordStore.Text.Digit
import RecordStore.Text.Word

/-!
Formats of log lines: text with fields in it, each a percent sign, a name in parentheses, and how the
field is shown. A format without any field is refused. A line whose format names a field that entries
do not have, or shows one in a way that it cannot be shown, is not written.
-/

namespace RecordStore.Log

structure Line where
  logger : Text
  level : Int
  levelName : String
  message : Text

namespace Line

/-- What lines can show by name, apart from times and places in programs. -/
def fields (line : Line) : List (String × Value) :=
  [("name", .text line.logger), ("levelno", .int line.level), ("levelname", .text line.levelName),
   ("message", .text line.message), ("msg", .text "%s"), ("args", .tuple [.text line.message]),
   ("exc_info", .null), ("exc_text", .null), ("stack_info", .null), ("threadName", .text "MainThread"),
   ("processName", .text "MainProcess")]

end Line

def isMark (c : Char) : Bool := "#0+ -".toList.contains c

/-! ### Which formats are taken -/

/-- Letters of forms, in either case and with the letters that share their other case. -/
def isForm (c : Char) : Bool :=
  "diouxefgcrsa%".toList.contains c.toLower || [0x130, 0x131, 0x17f].contains c.toNat

def afterCount? (cs : List Char) : Option (List Char) :=
  match cs with
  | '*' :: rest => some rest
  | c :: rest => if Text.isDigit c then some (rest.dropWhile Text.isDigit) else none
  | [] => none

def startsField (cs : List Char) : Bool :=
  match cs with
  | '%' :: '(' :: rest =>
    let name := rest.takeWhile Text.isWord
    match rest.drop name.length with
    | ')' :: rest =>
      let rest := rest.dropWhile isMark
      let rest := (afterCount? rest).getD rest
      let rest := match rest with
        | '.' :: behind => (afterCount? behind).getD rest
        | _ => rest
      name ≠ [] && (rest.head?.map isForm).getD false
    | _ => false
  | _ => false

def hasField : List Char → Bool
  | [] => false
  | c :: rest => startsField (c :: rest) || hasField rest

/-! ### Filling -/

def widthLimit : Nat := 10000000

/-- A number below the limit at the front of a text, zero if there is none, and what follows. -/
def takeNumber? (cs : List CodePoint) : Option (Nat × List CodePoint) :=
  let digits := (cs.map CodePoint.toChar).takeWhile Char.isDigit
  let n := Text.natOfDigits digits
  if n < widthLimit then some (n, cs.drop digits.length) else none

def conversion? (cs : List CodePoint) : Option (Conversion × List CodePoint) := do
  let marks := (cs.map CodePoint.toChar).takeWhile isMark
  let (width, rest) ← takeNumber? (cs.drop marks.length)
  let (precision, rest) ← match rest with
    | .char '.' :: behind => (takeNumber? behind).map fun (n, rest) => (some n, rest)
    | rest => some (none, rest)
  let rest := if (rest.head?.map fun p => "hlL".toList.contains p.toChar).getD false then rest.drop 1 else rest
  match rest with
  | form :: rest => return ({ marks, width, precision, form := form.toChar }, rest)
  | [] => none

/-- The field behind a percent sign, filled from a line, and what follows it. -/
def filledField? (line : Line) (cs : List CodePoint) : Option (List CodePoint × List CodePoint) :=
  match cs with
  | .char '(' :: rest => do
    let name := rest.takeWhile (· != .char ')')
    let v ← line.fields.lookup (← (Text.ofPoints name).string?)
    let (conversion, rest) ← conversion? (rest.drop (name.length + 1))
    return (← conversion.shown? v, rest)
  | _ => none

/-- A format filled from a line, if that is possible. -/
def fillFrom (line : Line) : Nat → List CodePoint → Option (List CodePoint)
  | 0, _ => some []
  | _ + 1, [] => some []
  | fuel + 1, .char '%' :: .char '%' :: rest => (fillFrom line fuel rest).map (.char '%' :: ·)
  | fuel + 1, .char '%' :: rest => do
    let (first, rest) ← filledField? line rest
    let others ← fillFrom line fuel rest
    return first ++ others
  | fuel + 1, p :: rest => (fillFrom line fuel rest).map (p :: ·)

def fill (format : Text) (line : Line) : Option Text :=
  let points := format.points
  (fillFrom line points.length points).map Text.ofPoints

end RecordStore.Log
