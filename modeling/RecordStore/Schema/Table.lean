import RecordStore.Schema.RecordType

/-!
The statements that make room for records of a type: the table is created unless it is there, then
every field's column is added unless it is there. Nothing is ever changed or dropped.
-/

namespace RecordStore.Schema

structure Column where
  name : Identifier
  type : String
  deriving DecidableEq

namespace Column

def text (column : Column) : String := column.name.quoted ++ " " ++ column.type

end Column

inductive Statement where
  | createTable (table : Identifier) (key : Column) (columns : List Column)
  | addColumn (table : Identifier) (column : Column)
  deriving DecidableEq

namespace Statement

def sql : Statement → String
  | createTable table key columns =>
    "create table if not exists " ++ table.quoted ++ " (" ++
      ", ".intercalate ((key.text ++ " primary key") :: columns.map Column.text) ++ ")"
  | addColumn table column =>
    "alter table " ++ table.quoted ++ " add column if not exists " ++ column.text

end Statement

def keyType (kind : Kind) (assigned : Bool) : Except Misuse String :=
  if assigned then kind.assignedKeyType else kind.storageType .text

def columns (type : RecordType) (key : Kind) : Except Misuse (List Column) :=
  type.fields.mapM fun (name, field) => return ⟨name, ← field.columnType key⟩

def statements (type : RecordType) (key : Kind) (assigned : Bool) : Except Misuse (List Statement) := do
  let keyColumn : Column := ⟨type.key, ← keyType key assigned⟩
  let columns ← columns type key
  return .createTable type.name keyColumn columns :: columns.map (.addColumn type.name)

end RecordStore.Schema
