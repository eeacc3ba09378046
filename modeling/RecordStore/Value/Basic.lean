import RecordStore.Number.Binary64
import RecordStore.Text.Basic

/-!
Values of records, rows and statement parameters. A map keeps the order in which its keys first came;
`put` is the only way an entry gets in, so keys stay distinct.
-/

namespace RecordStore

inductive BytesForm where
  | fixed
  | growable
  | view
  deriving DecidableEq, Inhabited

inductive Value where
  | null
  | bool (b : Bool)
  | int (n : Int)
  | float (x : Binary64)
  | text (s : Text)
  | bytes (form : BytesForm) (data : List UInt8)
  | list (items : List Value)
  | tuple (items : List Value)
  | map (entries : List (Value × Value))
  deriving Inhabited

namespace Value

/-- Nothing, zero and whatever is empty do not hold. -/
def holds : Value → Bool
  | null => false
  | bool b => b
  | int n => n != 0
  | float x => !x.isZero
  | text s => !s.isEmpty
  | bytes _ data => !data.isEmpty
  | list items => !items.isEmpty
  | tuple items => !items.isEmpty
  | map entries => !entries.isEmpty

def isNull : Value → Bool
  | null => true
  | _ => false

def isBytes : Value → Bool
  | bytes .. => true
  | _ => false

def sequence? : Value → Option (List Value)
  | list items => some items
  | tuple items => some items
  | _ => none

def entries? : Value → Option (List (Value × Value))
  | map entries => some entries
  | _ => none

def text? : Value → Option Text
  | text s => some s
  | _ => none

def string? (v : Value) : Option String := v.text?.bind Text.string?

/-- What is met when a value is gone through: the characters of a text, the numbers of bytes, the keys
of a map. -/
def elements? : Value → Option (List Value)
  | text s => some (s.letters.map text)
  | bytes _ data => some (data.map fun b => int b.toNat)
  | list items => some items
  | tuple items => some items
  | map entries => some (entries.map (·.1))
  | _ => none

/-- The name of a value's shape, as messages give it. -/
def shape : Value → String
  | null => "NoneType"
  | bool _ => "bool"
  | int _ => "int"
  | float _ => "float"
  | text _ => "str"
  | bytes .fixed _ => "bytes"
  | bytes .growable _ => "bytearray"
  | bytes .view _ => "memoryview"
  | list _ => "list"
  | tuple _ => "tuple"
  | map _ => "dict"

def isText (v : Value) (s : Text) : Bool :=
  match v with
  | text t => t == s
  | _ => false

def lookup (key : Text) : List (Value × Value) → Option Value
  | [] => none
  | (k, v) :: rest => if k.isText key then some v else lookup key rest

/-- Whether a value can be a key: it cannot change, and neither can what it holds. -/
def isStable : Value → Bool
  | bytes form _ => form != .growable
  | list _ => false
  | map _ => false
  | tuple items => allStable items
  | _ => true
where
  allStable : List Value → Bool
    | [] => true
    | v :: rest => v.isStable && allStable rest

end Value
end RecordStore
