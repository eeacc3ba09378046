import RecordStore.Sql.Binding
import RecordStore.Sql.Condition

/-!
Deleting records by primary key, or all of them when no keys are asked for.
-/

namespace RecordStore.Mutation
open Sql

structure Delete where
  table : Identifier
  keyColumn : Identifier
  /-- The keys of the records to delete; without them it is every record. -/
  keys : Option (List Slot)

namespace Delete

def fragment (delete : Delete) : Fragment :=
  .text ("delete from " ++ delete.table.quoted) ::
    match delete.keys with
    | some slots => .text " where " :: (Test.oneOf delete.keyColumn slots).fragment
    | none => []

def sql (delete : Delete) : String := Fragment.sql delete.fragment

end Delete

def delete (type : RecordType) (keys : Value) : Binding (Option Delete) := do
  if keys.isNull then return some ⟨type.name, type.key, none⟩
  if !keys.holds then return none
  let slots ← (← keys.elements).mapM bindEncoded
  return some ⟨type.name, type.key, some slots⟩

end RecordStore.Mutation
