import RecordStore.Error.Failure
import RecordStore.Text.Search
import RecordStore.Value.Equality

/-!
Looking into values: going through their elements, reading entries of a map, counting, and writing them
out. A value of a shape that does not allow it is a misuse, and so is a number too long to be written.
-/

namespace RecordStore.Value

def elements (v : Value) : Except Misuse (List Value) :=
  match v.elements? with
  | some items => .ok items
  | none => .error (.notIterable v.shape)

def entries (v : Value) : Except Misuse (List (Value × Value)) :=
  match v.entries? with
  | some entries => .ok entries
  | none => .error (.notMap v.shape)

def size (v : Value) : Except Misuse Nat :=
  match v.elements? with
  | some items => .ok items.length
  | none => .error (.notSized v.shape)

def field? (record : Value) (name : Text) : Except Misuse (Option Value) :=
  record.entries.map (lookup name)

def at? (record key : Value) : Except Misuse (Option Value) := do
  let entries ← record.entries
  if key.isStable then return valueAt? key entries else throw (.unstableKey key.shape)

def mentions (v : Value) (name : String) : Except Misuse Bool :=
  match v with
  | map entries => .ok (lookup name entries).isSome
  | list items => .ok (items.any (·.isText name))
  | tuple items => .ok (items.any (·.isText name))
  | text s => .ok (Text.occursIn name s)
  | bytes .view _ => .ok false
  | v => .error (.notIterable v.shape)

def shownText (v : Value) : Except Misuse Text :=
  if v.isWritable then .ok v.shown else .error (.malformed .writtenDigits)

def literalText (v : Value) : Except Misuse String :=
  if v.isWritable then .ok v.literal else .error (.malformed .writtenDigits)

end RecordStore.Value
