import RecordStore.Error.Failure

/-!
Kinds of stored values and the column types that hold them. A scalar field takes the type of the
primary keys.
-/

namespace RecordStore

inductive Kind where
  | scalar
  | binary
  | text
  | number
  | boolean
  | timestamp
  | structured
  deriving DecidableEq, Inhabited

namespace Kind

def all : List Kind := [scalar, binary, text, number, boolean, timestamp, structured]

def name : Kind → String
  | scalar => "scalar"
  | binary => "binary"
  | text => "text"
  | number => "number"
  | boolean => "boolean"
  | timestamp => "timestamp"
  | structured => "structured"

def ofName? (s : String) : Option Kind := all.find? (·.name == s)

def ofValue? : Value → Option Kind
  | .text (.whole s) => ofName? s
  | _ => none

def ofValue (v : Value) : Except Misuse Kind :=
  match ofValue? v with
  | some kind => .ok kind
  | none => .error (.malformed (.kind v))

def ownType? : Kind → Option String
  | scalar => none
  | binary => some "bytea"
  | text => some "text"
  | number => some "double precision"
  | boolean => some "boolean"
  | timestamp => some "timestamp"
  | structured => some "jsonb"

def ownType (kind : Kind) : Except Misuse String :=
  match kind.ownType? with
  | some type => .ok type
  | none => .error (.missingKey (.text kind.name))

/-- The column type of a kind, where primary keys are of kind `key`. -/
def storageType (kind key : Kind) : Except Misuse String :=
  match kind with
  | scalar => key.ownType
  | kind => kind.ownType

def keyKinds : List Kind := [text, number]

def assignedKeyType : Kind → Except Misuse String
  | text => .ok "text default gen_random_uuid()::text"
  | number => .ok "bigint generated by default as identity"
  | kind => .error (.missingKey (.text kind.name))

def forKeys (v : Value) : Except AdapterError Kind :=
  match (ofValue? v).filter keyKinds.contains with
  | some kind => .ok kind
  | none => .error <| .schema .invalidPrimaryKey
      [("allowed", .text (", ".intercalate (keyKinds.map name))), ("primary_key_type", v)]

end Kind
end RecordStore
