import RecordStore.Schema.Identifier
import RecordStore.Schema.Kind
import RecordStore.Value.Equality

/-!
Record types: the name of a table, its primary key and its fields in order of declaration. Field names
are distinct and the key is none of them; both are part of the type.
-/

namespace RecordStore

/-- What is known of one field. A field can hold a sequence of values, link to records of another
type, and repeat a link that is declared there. -/
structure Field where
  kind : Kind := .scalar
  isArray : Bool := false
  link : Option String := none
  isInverse : Bool := false
  deriving DecidableEq, Inhabited

namespace Field

def ofKey : Field := {}

def columnType (field : Field) (key : Kind) : Except Misuse String := do
  let type ← field.kind.storageType key
  return if field.isArray then type ++ "[]" else type

end Field

structure RecordType where
  name : Identifier
  key : Identifier
  fields : List (Identifier × Field)
  nodup_fields : (fields.map (·.1.text)).Nodup
  key_not_field : key.text ∉ fields.map (·.1.text)

namespace RecordType

def fieldNames (type : RecordType) : List Identifier := type.fields.map (·.1)

def declared? (type : RecordType) (name : String) : Option Field :=
  (type.fields.find? (·.1.text == name)).map (·.2)

def field? (type : RecordType) (name : String) : Option Field :=
  if name = type.key.text then some .ofKey else type.declared? name

def field (type : RecordType) (name : Value) : Except AdapterError Field :=
  match name.string?.bind type.field? with
  | some field => .ok field
  | none => .error (.unknownField name type.name.text)

def hasField (type : RecordType) (name : Value) : Bool :=
  (name.string?.bind type.field?).isSome

def column (type : RecordType) (name : Value) : Except AdapterError (Identifier × Field) := do
  let identifier ← Identifier.ofValue name
  let field ← type.field name
  return (identifier, field)

/-- Field names in order of their characters, in which inserts name their columns. -/
def sortedFields (type : RecordType) : List Identifier :=
  type.fieldNames.mergeSort fun a b => !(b.text < a.text)

/-- Adds a field; a field of the same name is replaced where it stands. -/
def putField (name : Identifier) (field : Field) : List (Identifier × Field) → List (Identifier × Field)
  | [] => [(name, field)]
  | (n, f) :: rest =>
    if n.text = name.text then (n, field) :: rest else (n, f) :: putField name field rest

theorem names_putField (name : Identifier) (field : Field) (fields : List (Identifier × Field)) :
    (putField name field fields).map (·.1.text) =
      if name.text ∈ fields.map (·.1.text) then fields.map (·.1.text)
      else fields.map (·.1.text) ++ [name.text] := by
  induction fields with
  | nil => rfl
  | cons entry rest ih =>
    obtain ⟨n, f⟩ := entry
    by_cases h : n.text = name.text
    · simp [putField, h]
    · have h' : name.text ≠ n.text := fun e => h e.symm
      simp only [putField, h, if_false, List.map_cons, ih, List.mem_cons, h', false_or]
      split <;> simp

def merged (definitions : List (Identifier × Field)) : List (Identifier × Field) :=
  definitions.foldl (fun done (name, field) => putField name field done) []

theorem nodup_foldl_putField (definitions done : List (Identifier × Field))
    (h : (done.map (·.1.text)).Nodup) :
    ((definitions.foldl (fun done (name, field) => putField name field done) done).map (·.1.text)).Nodup := by
  induction definitions generalizing done with
  | nil => exact h
  | cons entry rest ih =>
    refine ih _ ?_
    rw [names_putField]
    split
    · exact h
    · rename_i hmem
      exact List.nodup_append.2 ⟨h, by simp, by
        intro a ha b hb
        simp only [List.mem_singleton] at hb
        exact fun e => hmem (hb ▸ e ▸ ha)⟩

theorem nodup_merged (definitions : List (Identifier × Field)) :
    ((merged definitions).map (·.1.text)).Nodup :=
  nodup_foldl_putField definitions [] List.nodup_nil

def identifiers : List (Value × Field) → Except AdapterError (List (Identifier × Field))
  | [] => .ok []
  | (name, field) :: rest => do
    let identifier ← Identifier.ofValue name
    let others ← identifiers rest
    return (identifier, field) :: others

def definition (name : Value) (field : Field) : Except Misuse (Value × Field) :=
  if name.isStable then .ok (name, field) else .error (.unstableKey name.shape)

/-- A record type from the values that name it. Names are checked in the order table, key, fields; of
two fields with one name the later definition counts, at the place of the earlier. -/
def ofValues (name key : Value) (definitions : List (Value × Field)) : Outcome RecordType := do
  let table ← Identifier.ofValue name
  let keyName ← Identifier.ofValue key
  let fields ← identifiers definitions
  if h : keyName.text ∈ (merged fields).map (·.1.text) then
    throw (.ofError (.invalidOption key
      ("the primary key must not be declared as a field of '" ++ table.text ++ "'")))
  else
    return ⟨table, keyName, merged fields, nodup_merged fields, h⟩

end RecordType
end RecordStore
