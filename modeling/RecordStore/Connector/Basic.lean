import RecordStore.Connector.Options
import RecordStore.Sql.Placeholder
import RecordStore.Store.Call
import RecordStore.Store.Diagnosis

/-!
A connector keeps an engine, which hands out connections, and the transactions that were begun on it.
The engine is made when it is needed and given up when the connector is closed.
-/

namespace RecordStore

/-- What the database driver returned for a statement. A statement that returns no rows has none. -/
structure DriverResult where
  rows : Option (List Value) := none
  rowCount : Option Int := none
  deriving Inhabited

inductive EngineCall where
  | create (name : String) (options : List (Value × Value))
  | disposeEngine
  /-- Takes a connection and begins a transaction on it, for one statement. -/
  | checkout
  | connect
  | begin (connection : Nat)
  | commit (connection : Nat)
  | rollback (connection : Nat)
  | close (connection : Nat)
  | exec (connection : Nat) (statement : Sql.DriverStatement)

namespace EngineCall

def Answer : EngineCall → Type
  | .create .. => Outcome Sql.ParamStyle
  | .disposeEngine => Outcome Unit
  | .checkout => Outcome Nat
  | .connect => Outcome Nat
  | .begin _ => Outcome Unit
  | .commit _ => Outcome Unit
  | .rollback _ => Outcome Unit
  | .close _ => Outcome Unit
  | .exec .. => Outcome DriverResult

end EngineCall

/-- A transaction holds one connection from its start to its end. -/
structure Transaction where
  connection : Option Nat := none
  begun : Bool := false
  /-- How many statements have come for the connection. They have it one at a time, in the order in which they came. -/
  came : Nat := 0
  /-- How many of them are through with it. -/
  served : Nat := 0
  finished : Bool := false
  deriving DecidableEq, Inhabited

namespace Transaction

def isActive (transaction : Transaction) : Bool := transaction.begun && !transaction.finished

end Transaction

structure Connector where
  toolkit : Connector.Toolkit
  url : String := ""
  options : Value := .null
  dialect : String := ""
  driver : String := ""
  /-- How the driver of the engine writes the places of values, while there is an engine. -/
  engine : Option Sql.ParamStyle := none
  transactions : List Transaction := []
  deriving Inhabited

namespace Connector

abbrev Link := Task Connector EngineCall EngineCall.Answer

abbrev Linked := ExceptT Failure Link

def look : Linked Connector := ExceptT.lift Task.get

def change (f : Connector → Connector) : Linked Unit := ExceptT.lift (Task.modify f)

def debug (message : String) : Linked Unit := ExceptT.lift (Task.log .debug Log.connectorLogger message)

def warn (message : String) : Linked Unit := ExceptT.lift (Task.log .warning Log.connectorLogger message)

def create (name : String) (options : List (Value × Value)) : Linked Sql.ParamStyle :=
  ExceptT.mk (Task.perform (EngineCall.create name options))

def disposeEngine : Linked Unit := ExceptT.mk (Task.perform EngineCall.disposeEngine)

def checkout : Linked Nat := ExceptT.mk (Task.perform EngineCall.checkout)

def connect : Linked Nat := ExceptT.mk (Task.perform EngineCall.connect)

def begin (connection : Nat) : Linked Unit := ExceptT.mk (Task.perform (EngineCall.begin connection))

def commit (connection : Nat) : Linked Unit := ExceptT.mk (Task.perform (EngineCall.commit connection))

def rollback (connection : Nat) : Linked Unit := ExceptT.mk (Task.perform (EngineCall.rollback connection))

def close (connection : Nat) : Linked Unit := ExceptT.mk (Task.perform (EngineCall.close connection))

def exec (connection : Nat) (statement : Sql.DriverStatement) : Linked DriverResult :=
  ExceptT.mk (Task.perform (EngineCall.exec connection statement))

def ofOutcome {α : Type} (outcome : Outcome α) : Linked α := ExceptT.mk (pure outcome)

def ofMisuse {α : Type} (result : Except Misuse α) : Linked α := ofOutcome (liftM result)

/-- Whatever fails inside is raised as an error of the adapter. -/
def diagnosing {α : Type} (sql operation : String) (body : Linked α) : Linked α :=
  tryCatch body fun failure => throw (failure.raisedAs sql operation)

def createEngine : Linked Unit := do
  let connector ← look
  let target ← ofOutcome (target connector.toolkit connector.url)
  change fun connector => { connector with dialect := target.dialect, driver := target.driver }
  let options ← ofMisuse (engineOptions target connector.options)
  let style ← create target.name options
  change fun connector => { connector with engine := some style }
  debug ("SQLAlchemy engine created for " ++ target.dialect ++ "+" ++ target.driver)

/-- The engine, made anew if there is none, and how its driver writes the places of values. -/
def engineStyle : Linked Sql.ParamStyle := do
  match (← look).engine with
  | some style => return style
  | none =>
    createEngine
    return ((← look).engine).getD .extendedFormat

def resultOf (result : DriverResult) : Except Misuse StatementResult := do
  let rows ← (result.rows.getD []).mapM fun row => return .map (← entriesOf row)
  match result.rowCount.filter (0 ≤ ·) with
  | some n => return ⟨rows, some n⟩
  | none => return ⟨rows, some rows.length⟩

def runStatement (connection : Option Nat) (sql : String) (params : Value) (style : Sql.ParamStyle) :
    Linked StatementResult := do
  let statement ← ofOutcome (Sql.driverStatement sql params style)
  let count ← ofMisuse params.size
  debug ("Executing: " ++ sql ++ " (" ++ toString count ++ " params)")
  match connection with
  | none => throw (.ofMisuse .noConnection)
  | some connection => ofMisuse (resultOf (← exec connection statement))

/-- Runs one statement on a connection of its own, in a transaction of its own. After a failure of the
statement the transaction is rolled back; a failed commit ends it by itself. -/
def execute (sql : String) (params : Value) (operation : String) : Linked StatementResult :=
  diagnosing sql operation do
    discard engineStyle
    let connection ← checkout
    let result ← tryCatch (do
        let style ← engineStyle
        runStatement (some connection) sql params style)
      fun failure => do
        rollback connection
        throw failure
    commit connection
    return result

def dispose : Linked Unit := do
  let connector ← look
  if connector.engine.isSome then
    disposeEngine
    change fun connector => { connector with engine := none }
    debug ("SQLAlchemy engine disposed for " ++ connector.dialect)

end Connector
end RecordStore
