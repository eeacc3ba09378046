import RecordStore.Value.Basic

/-!
Equality of values as keys and parameters are compared: numbers by amount whatever their form, bytes
by content, maps without regard to order. No number that is not a number equals anything.
-/

namespace RecordStore

/-- What a number amounts to, in units of the smallest positive floating-point number. -/
inductive Amount where
  | units (n : Int)
  | infinite (negative : Bool)
  deriving DecidableEq

namespace Value

def amount? : Value → Option Amount
  | bool b => some (.units (if b then Binary64.one else 0))
  | int n => some (.units (n * Binary64.one))
  | float (.finite negative place) => some (.units (Binary64.signedUnits negative place))
  | float (.infinite negative) => some (.infinite negative)
  | _ => none

def sameAmount (a b : Value) : Bool :=
  match a.amount?, b.amount? with
  | some x, some y => x == y
  | _, _ => false

mutual

def equals : Value → Value → Bool
  | null, null => true
  | text s, text t => s == t
  | bytes _ xs, bytes _ ys => xs == ys
  | list xs, list ys => allEqual xs ys
  | tuple xs, tuple ys => allEqual xs ys
  | map xs, map ys => xs.length == ys.length && allHeld xs ys
  | int n, int m => n == m
  | a, b => sameAmount a b

def allEqual : List Value → List Value → Bool
  | [], [] => true
  | x :: xs, y :: ys => equals x y && allEqual xs ys
  | _, _ => false

def allHeld : List (Value × Value) → List (Value × Value) → Bool
  | [], _ => true
  | (k, v) :: rest, ys => (ys.any fun (k', v') => equals k k' && equals v v') && allHeld rest ys

end

def valueAt? (key : Value) : List (Value × Value) → Option Value
  | [] => none
  | (k, v) :: rest => if key.equals k then some v else valueAt? key rest

/-- Sets the value under a key; a key that is there keeps its place and its form. -/
def put (key value : Value) : List (Value × Value) → List (Value × Value)
  | [] => [(key, value)]
  | (k, v) :: rest => if key.equals k then (k, value) :: rest else (k, v) :: put key value rest

/-- A map from entries in order of writing. -/
def entriesOf (entries : List (Value × Value)) : List (Value × Value) :=
  entries.foldl (fun done (k, v) => put k v done) []

def putAll (base changes : List (Value × Value)) : List (Value × Value) :=
  changes.foldl (fun done (k, v) => put k v done) base

def putText (key : Text) (value : Value) (entries : List (Value × Value)) : List (Value × Value) :=
  put (text key) value entries

end Value
end RecordStore
