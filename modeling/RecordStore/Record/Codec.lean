import RecordStore.Json.Reader
import RecordStore.Json.Writer
import RecordStore.Record.Key
import RecordStore.Schema.RecordType
import RecordStore.Value.Access

/-!
Records and the values that statements bind for them. Bytes are bound as text in the store's hex form,
maps as JSON text, and everything else as it is; reading turns such texts back where the kind of the
field says so. `nesting` is how deep a JSON text may nest, if there is a limit.
-/

namespace RecordStore

def binaryMark : List Char := ['\\', 'x']

namespace Value

def encodedWithin (nesting : Option Nat) : Value → Except Misuse Value
  | bytes _ data => .ok (text (String.ofList (binaryMark ++ Hex.encode data)))
  | map entries => (Json.text nesting (map entries)).map fun s => text s
  | v => .ok v

def encoded (v : Value) : Except Misuse Value := v.encodedWithin (some Json.depthLimit)

def decodedBinary : Value → Except Misuse Value
  | bytes _ data => .ok (bytes .fixed data)
  | text s =>
    match s.chars with
    | '\\' :: 'x' :: digits =>
      match Hex.decode digits with
      | .ok data => .ok (bytes .fixed data)
      | .error position => .error (.malformed (.hexDigit position))
    | _ => .ok (text s)
  | v => .ok v

/-- What a JSON text stands for; a text that is no JSON is left alone. -/
def decodedStructured (nesting : Option Nat) : Value → Except Misuse Value
  | text s =>
    match Json.read nesting s with
    | .ok v => .ok v
    | .error .malformed => .ok (text s)
    | .error .tooDeep => .error .tooDeep
  | v => .ok v

def decoded (nesting : Option Nat) (kind : Kind) (v : Value) : Except Misuse Value :=
  match kind with
  | .binary => v.decodedBinary
  | .structured => v.decodedStructured nesting
  | _ => .ok v

end Value

namespace Field

/-- Array fields convert element by element, unless there is no array at all. -/
def convert (field : Field) (convertOne : Value → Except Misuse Value) (v : Value) : Except Misuse Value :=
  if field.isArray && !v.isNull then do
    let items ← v.elements
    return .list (← items.mapM convertOne)
  else convertOne v

def encode (field : Field) (v : Value) : Except Misuse Value := field.convert Value.encoded v

def decode (field : Field) (nesting : Option Nat) (v : Value) : Except Misuse Value :=
  if field.isInverse then .ok v else field.convert (Value.decoded nesting field.kind) v

def absentValue (field : Field) : Value := if field.isArray then .list [] else .null

end Field

/-- Encoding draws keys; how many were drawn is kept, also when it fails. -/
abbrev Drawing := ExceptT Misuse (StateM Nat)

namespace RecordType

def drawKey (type : RecordType) (source : KeySource) : Drawing Value := do
  let made ← getModify (· + 1)
  return source made type.name.text

def keyOf (type : RecordType) (source : Option KeySource) (record : Value) : Drawing (Option Value) := do
  match ← liftM (record.field? type.key.text) with
  | some key => return some key
  | none => source.mapM type.drawKey

def encodeField (record : Value) (name : Identifier) (field : Field) : Except Misuse (Value × Value) := do
  match ← record.field? name.text with
  | some v => return (.text name.text, ← field.encode v)
  | none => return (.text name.text, field.absentValue)

/-- The stored form of a record: its primary key, when there is one, and every declared field. -/
def encodeRecord (type : RecordType) (source : Option KeySource) (record : Value) : Drawing Value := do
  let key ← type.keyOf source record
  let fields ← liftM (type.fields.mapM fun (name, field) => encodeField record name field)
  return .map ((key.map fun k => (Value.text type.key.text, k)).toList ++ fields)

def decodeField (nesting : Option Nat) (row : Value) (name : Identifier) (field : Field) :
    Except Misuse (Option (Value × Value)) := do
  match ← row.field? name.text with
  | some v => return some (.text name.text, ← field.decode nesting v)
  | none => return none

/-- The record in a row of the store: the declared fields that the row has, and always the key. -/
def decodeRecord (type : RecordType) (nesting : Option Nat) (row : Value) : Except Misuse Value := do
  let fields ← type.fields.mapM fun (name, field) => decodeField nesting row name field
  let key ← row.field? type.key.text
  return .map (fields.filterMap id ++ [(.text type.key.text, key.getD .null)])

end RecordType
end RecordStore
