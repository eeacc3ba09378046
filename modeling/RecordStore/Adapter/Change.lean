import RecordStore.Adapter.Basic
import RecordStore.Mutation.Delete
import RecordStore.Mutation.Insert
import RecordStore.Mutation.Update
import RecordStore.Store.Diagnosis

/-!
Creating, updating and deleting records. Records are created by one statement for all of them. Updates
are one statement each: all statements of a batch run to their end, and then the first failure is
raised; an update of a column that the store does not have changes nothing.
-/

namespace RecordStore.Adapter

/-! ### Creating -/

def encodeAll (adapter : Adapter) (type : RecordType) (records : List Value) : Run (List Value) := do
  let made := (← look).keysMade
  let (encoded, made) := (records.mapM (type.encodeRecord adapter.keySource)).run.run made
  change fun state => { state with keysMade := made }
  ofMisuse encoded

/-- A failure of an insert: a key that exists is a conflict, everything else stays what it is. -/
def insertFailure (failure : Failure) : Failure :=
  match failure.storeError? with
  | none => failure
  | some error =>
    if error.sqlstate? = some uniqueViolation then
      let report := (error.detail? "error_message").getD (.text "")
      (Failure.ofError { family := .conflict, code := .uniqueViolation,
                         details := [("error_message", report)] }).withCause failure
    else failure

def buildInsert (type : RecordType) (encoded : List Value) : Outcome (Mutation.Insert × List Value) :=
  let (insert, params) := (Mutation.insert type (.list encoded)).runFrom []
  insert.map fun insert => (insert, params)

def createdRecords (type : RecordType) (nesting : Option Nat) (insert : Mutation.Insert)
    (encoded rows : List Value) : Except Misuse (List Value) := do
  let stored ←
    if insert.returnsKeys then Mutation.assignReturnedKeys type (.list encoded) (.list rows) else pure encoded
  stored.mapM (type.decodeRecord nesting)

def create (adapter : Adapter) (party : Party) (typeName records : Value) : Run (List Value) := do
  let type ← ofOutcome (adapter.recordType typeName)
  if !records.holds then return []
  let encoded ← adapter.encodeAll type (← ofMisuse records.elements)
  let (insert, params) ← ofOutcome (buildInsert type encoded)
  let result ← tryCatch (do
      let channel ← executor party
      execute channel insert.sql params "insert")
    fun failure => throw (insertFailure failure)
  ofMisuse (createdRecords type adapter.nesting insert encoded result.rows)

/-! ### Updating -/

abbrev UpdateStatement := Option (String × List Value)

def updateStatement (type : RecordType) (update : Value) : Outcome UpdateStatement :=
  let (result, params) := (Mutation.update type update).runFrom []
  result.map fun update => update.map fun update => (update.sql, params)

def namesUnknownColumn (error : AdapterError) : Bool :=
  error.sqlstate? == some undefinedColumn || error.code == .undefinedColumn

def updateTask (party : Party) : UpdateStatement → Run (Option Int)
  | none => return some 0
  | some (sql, params) =>
    tryCatch (do
        let channel ← executor party
        return (← execute channel sql params "update").rowCount)
      fun failure =>
        match failure.storeError?.filter namesUnknownColumn with
        | some error => do
          let report := (error.detail? "error_message").getD (.text "")
          log .warning ("Update skipped, unknown column: " ++ report.shown)
          return some 0
        | none => throw failure

/-- The statements of a batch, all built before any of them runs. -/
def updateStatements (type : RecordType) (updates : Value) : Outcome (List UpdateStatement) := do
  (← updates.elements).mapM (updateStatement type)

def updatedCount (results : List (Outcome (Option Int))) : Outcome Int := do
  match (← results.mapM id).mapM id with
  | some counts => return counts.foldr (· + ·) 0
  | none => Outcome.misuse .noCount

def update (adapter : Adapter) (party : Party) (typeName updates : Value) : Run Int := do
  let type ← ofOutcome (adapter.recordType typeName)
  if !updates.holds then return 0
  let statements ← ofOutcome (updateStatements type updates)
  ofOutcome (updatedCount (← settled (statements.map (updateTask party))))

/-! ### Deleting -/

def deleteStatement (type : RecordType) (keys : Value) : Outcome (Option (String × List Value)) :=
  let (result, params) := (Mutation.delete type keys).runFrom []
  result.map fun delete => delete.map fun delete => (Sql.Fragment.sql delete.fragment, params)

def delete (adapter : Adapter) (party : Party) (typeName keys : Value) : Run (Option Int) := do
  let type ← ofOutcome (adapter.recordType typeName)
  match ← ofOutcome (deleteStatement type keys) with
  | none => return some 0
  | some (sql, params) =>
    let channel ← executor party
    return (← execute channel sql params "delete").rowCount

end RecordStore.Adapter
