import RecordStore.Query.Projection
import RecordStore.Sql.Condition

/-!
The order of found rows. An array column is ordered by the number of its elements.
-/

namespace RecordStore.Query
open Sql

inductive Direction where
  | ascending
  | descending
  deriving DecidableEq

namespace Direction

def word : Direction → String
  | ascending => "asc"
  | descending => "desc"

def ofValue? : Value → Option Direction
  | .bool true => some ascending
  | .bool false => some descending
  | .int 1 => some ascending
  | .int 0 => some descending
  | .int (-1) => some descending
  | .text (.whole "asc") => some ascending
  | .text (.whole "ASC") => some ascending
  | .text (.whole "desc") => some descending
  | .text (.whole "DESC") => some descending
  | _ => none

def ofValue (name direction : Value) : Outcome Direction :=
  match ofValue? direction with
  | some direction => .ok direction
  | none => do
    let shown ← name.shownText
    let literal ← direction.literalText
    Outcome.refuse (.invalidOption (.text ("sort." ++ shown)) ("unknown direction " ++ literal))

end Direction

structure SortKey where
  operand : Operand
  direction : Direction
  deriving DecidableEq

namespace SortKey

def text (key : SortKey) : String := key.operand.text ++ " " ++ key.direction.word

end SortKey

def sortKey (type : RecordType) (name direction : Value) : Outcome SortKey := do
  let (column, field) ← type.column name
  let direction ← Direction.ofValue name direction
  return ⟨⟨column, field.isArray⟩, direction⟩

/-- What found rows are ordered by, the first key deciding first. -/
def order (type : RecordType) (sort : Value) : Outcome (List SortKey) := do
  if !sort.holds then return []
  let entries ← sort.entries
  entries.mapM fun (name, direction) => sortKey type name direction

def orderText (keys : List SortKey) : String :=
  if keys.isEmpty then "" else "order by " ++ ", ".intercalate (keys.map SortKey.text)

end RecordStore.Query
