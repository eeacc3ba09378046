import RecordStore.Sql.Binding

/-!
Inserting records that are encoded already. All rows name the same columns in the same order: the
primary key, then the fields in order of their names. The key column is left out unless every record
has a key; then the store assigns the keys and returns them, row by row.
-/

namespace RecordStore.Mutation
open Sql

structure Insert where
  table : Identifier
  columns : List Identifier
  rows : List (List Slot)
  /-- The column whose values the store assigns and returns. -/
  returning : Option Identifier

namespace Insert

def rowFragment (row : List Slot) : Fragment :=
  .text "(" :: (Fragment.ofSlots row ++ [.text ")"])

def fragment (insert : Insert) : Fragment :=
  .text ("insert into " ++ insert.table.quoted ++ " (") :: (Fragment.ofIdentifiers insert.columns ++
    .text ") values " :: Fragment.join ", " (insert.rows.map rowFragment) ++
    match insert.returning with
    | some key => [.text (" returning " ++ key.quoted)]
    | none => [])

def sql (insert : Insert) : String := Fragment.sql insert.fragment

def returnsKeys (insert : Insert) : Bool := insert.returning.isSome

end Insert

def allHaveKeys (type : RecordType) : List Value → Except Misuse Bool
  | [] => .ok true
  | record :: rest => do
    match ← record.field? type.key.text with
    | none | some .null => return false
    | some _ => allHaveKeys type rest

def bindRow (columns : List Identifier) (record : Value) : Binding (List Slot) :=
  columns.mapM fun column => do
    bind ((← record.field? column.text).getD .null)

def insert (type : RecordType) (records : Value) : Binding Insert := do
  if !records.holds then Binding.misuse (.malformed .noRecords)
  let records ← records.elements
  let keyed ← allHaveKeys type records
  let columns := if keyed then type.key :: type.sortedFields else type.sortedFields
  let rows ← records.mapM (bindRow columns)
  return { table := type.name, columns, rows, returning := if keyed then none else some type.key }

def required (row : Value) (name : String) : Except Misuse Value :=
  match row with
  | .map entries =>
    match Value.lookup name entries with
    | some v => .ok v
    | none => .error (.missingKey (.text name))
  | row => .error (.notIndexable row.shape)

def withReturnedKey (type : RecordType) (record row : Value) : Except Misuse Value := do
  match record with
  | .map entries => return .map (Value.putText type.key.text (← required row type.key.text) entries)
  | record => throw (.notIterable record.shape)

/-- Writes returned keys into the records, row by row; there have to be as many rows as records. -/
def assignReturnedKeys (type : RecordType) (records rows : Value) : Except Misuse (List Value) := do
  let got ← rows.size
  let expected ← records.size
  if got ≠ expected then throw (.malformed (.returnedKeys expected got))
  let records ← records.elements
  let rows ← rows.elements
  (records.zip rows).mapM fun (record, row) => withReturnedKey type record row

end RecordStore.Mutation
