import RecordStore.Number.Numeral
import RecordStore.Text.Digit
import RecordStore.Value.Access

/-!
Numbered placeholders, and statements as database drivers take them. A placeholder is a dollar sign and a run of
digits; its number names a parameter, counted from one, and a number below one counts from the end.
Drivers that bind by position get the values in the order of the placeholders.
-/

namespace RecordStore.Sql

inductive ParamStyle where
  | numericDollar
  | numeric
  | format
  | extendedFormat
  | qmark
  | other (name : String)
  deriving DecidableEq, Inhabited

namespace ParamStyle

def ofName (name : String) : ParamStyle :=
  if name = "numeric_dollar" then numericDollar
  else if name = "numeric" then numeric
  else if name = "format" then format
  else if name = "pyformat" then extendedFormat
  else if name = "qmark" then qmark
  else other name

def name : ParamStyle → String
  | numericDollar => "numeric_dollar"
  | numeric => "numeric"
  | format => "format"
  | extendedFormat => "pyformat"
  | qmark => "qmark"
  | other name => name

end ParamStyle

/-- A stretch of statement text: characters that stand for themselves, or a placeholder's digits. -/
inductive Stretch where
  | plain (c : Char)
  | placeholder (digits : List Char)
  deriving DecidableEq

def leadingDigits (cs : List Char) : List Char := cs.takeWhile Text.isDigit

/-- Takes statement text apart. `skip` counts characters that belong to a placeholder already found. -/
def stretchesFrom (skip : Nat) : List Char → List Stretch
  | [] => []
  | c :: rest =>
    match skip with
    | n + 1 => stretchesFrom n rest
    | 0 =>
      if c = '$' ∧ leadingDigits rest ≠ [] then
        .placeholder (leadingDigits rest) :: stretchesFrom (leadingDigits rest).length rest
      else .plain c :: stretchesFrom 0 rest

def stretches (cs : List Char) : List Stretch := stretchesFrom 0 cs

def placeholderNumber (digits : List Char) : Except Misuse Nat :=
  if digits.length ≤ digitLimit then .ok (Text.natOfDigits digits)
  else .error (.malformed (.readDigits digits.length))

/-- The largest index that a sequence understands. -/
def indexLimit : Nat := Nat.pow 2 63

/-- The item at an index counted from zero; an index below zero counts from the end. -/
def itemAt (shape : String) (items : List Value) (index : Int) : Except Misuse Value :=
  let place := if index < 0 then index + items.length else index
  if index ≥ indexLimit then .error .hugeIndex
  else if place < 0 then .error (.outOfRange shape)
  else match items[place.toNat]? with
    | some v => .ok v
    | none => .error (.outOfRange shape)

def parameterAt (params : Value) (index : Int) : Except Misuse Value :=
  match params with
  | .map entries =>
    match Value.valueAt? (.int index) entries with
    | some v => .ok v
    | none => .error (.missingKey (.int index))
  | params =>
    match params.elements? with
    | some items => itemAt params.shape items index
    | none => .error (.notIndexable params.shape)

def placeholderValue (params : Value) (digits : List Char) : Except Misuse Value := do
  let number ← placeholderNumber digits
  parameterAt params (number - 1)

def placeholderValues (params : Value) : List Stretch → Except Misuse (List Value)
  | [] => .ok []
  | .plain _ :: rest => placeholderValues params rest
  | .placeholder digits :: rest => do
    let v ← placeholderValue params digits
    let others ← placeholderValues params rest
    return v :: others

/-- The text with a mark in the place of every placeholder and every other character as its own text. -/
def markedText (mark : List Char → List Char) (plain : Char → List Char) : List Stretch → List Char
  | [] => []
  | .plain c :: rest => plain c ++ markedText mark plain rest
  | .placeholder digits :: rest => mark digits ++ markedText mark plain rest

def doublePercent (c : Char) : List Char := if c = '%' then ['%', '%'] else [c]

/-- A statement as the driver gets it: without parameters there are no values at all. -/
structure DriverStatement where
  sql : String
  params : Option (List Value)

def numericMarked (statement : List Stretch) : String :=
  String.ofList (markedText (':' :: ·) ([·]) statement)

def positional (mark : List Char) (plain : Char → List Char) (params : Value) (statement : List Stretch) :
    Except Misuse DriverStatement := do
  let values ← placeholderValues params statement
  return ⟨String.ofList (markedText (fun _ => mark) plain statement), some values⟩

def driverStatement (statement : String) (params : Value) (style : ParamStyle) : Outcome DriverStatement := do
  if !params.holds then return ⟨statement, none⟩
  let parts := stretches statement.toList
  match style with
  | .numericDollar => return ⟨statement, some (← params.elements)⟩
  | .numeric => return ⟨numericMarked parts, some (← params.elements)⟩
  | .format | .extendedFormat => liftM (positional ['%', 's'] doublePercent params parts)
  | .qmark => liftM (positional ['?'] ([·]) params parts)
  | .other name => throw (.ofError (.configuration ("unsupported driver paramstyle '" ++ name ++ "'")))

end RecordStore.Sql
