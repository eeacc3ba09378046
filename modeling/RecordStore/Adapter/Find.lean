import RecordStore.Adapter.Basic
import RecordStore.Query.Find
import RecordStore.Value.Number

/-!
Finding records: the page and the number of all fitting records are asked for at the same time.
-/

namespace RecordStore.Adapter

structure FindStatements where
  select : String
  count : String
  params : List Value

def findStatements (type : RecordType) (keys options : Value) : Outcome FindStatements :=
  let (search, params) := (Query.search type (if keys.isNull then none else some keys) options).runFrom []
  search.map fun search => ⟨search.selectSql, search.countSql, params⟩

/-- Whether a search is restricted to no keys at all. -/
def asksForNone (keys : Value) : Bool := !keys.isNull && !keys.holds

/-- The number in the only column of the only row; no rows count as zero. -/
def readCount (rows : List Value) : Except Misuse Int :=
  match rows with
  | [] => .ok 0
  | row :: _ => do
    match ← row.entries with
    | [] => throw .noColumns
    | (_, v) :: _ => v.toInt

def foundIn (type : RecordType) (nesting : Option Nat) (rows total : List Value) : Except Misuse Found := do
  let count ← readCount total
  let records ← rows.mapM (type.decodeRecord nesting)
  return { records, count }

def findTasks (channel : Channel) (statements : FindStatements) : List (Run StatementResult) :=
  [execute channel statements.select statements.params "select",
   execute channel statements.count statements.params "count"]

def find (adapter : Adapter) (party : Party) (typeName keys options : Value) : Run Found := do
  let type ← ofOutcome (adapter.recordType typeName)
  if asksForNone keys then return {}
  let statements ← ofOutcome (findStatements type keys options)
  let channel ← executor party
  match ← joined (findTasks channel statements) with
  | [rows, total] => ofMisuse (foundIn type adapter.nesting rows.rows total.rows)
  | _ => return {}

end RecordStore.Adapter
