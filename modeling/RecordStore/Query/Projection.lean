import RecordStore.Record.Codec
import RecordStore.Sql.Fragment

/-!
What a query selects. Fields that all hold are the wanted ones; as soon as one does not hold, the fields
are the unwanted ones. The primary key is always selected, and first.
-/

namespace RecordStore.Query
open Sql

inductive Projection where
  | everything
  | columns (names : List Identifier)
  deriving DecidableEq

namespace Projection

def fragment : Projection → Fragment
  | everything => .ofText "*"
  | columns names => .ofIdentifiers names

def sql (projection : Projection) : String := Fragment.sql projection.fragment

end Projection

/-- The field that a value names. A value that could not be a key is refused first. -/
def knownField (type : RecordType) (name : Value) : Outcome Field :=
  if name.isStable then liftM (type.field name) else Outcome.misuse (.unstableKey name.shape)

def wantedColumns (type : RecordType) (names : List Value) : List Identifier :=
  (names.filter (!·.isText type.key.text)).filterMap fun name => name.string?.bind Identifier.ofText?

def otherColumns (type : RecordType) (names : List Value) : List Identifier :=
  type.fieldNames.filter fun column => !names.any (·.isText column.text)

def projection (type : RecordType) (fields : Value) : Outcome Projection := do
  if !fields.holds then return .everything
  let names ← fields.elements
  for name in names do
    discard (knownField type name)
  let entries ← fields.entries
  let columns := if entries.all (·.2.holds) then wantedColumns type names else otherColumns type names
  return .columns (type.key :: columns)

end RecordStore.Query
