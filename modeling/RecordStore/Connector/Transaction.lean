import RecordStore.Connector.Basic

/-!
Transactions. One takes a connection when it starts and gives it back when it ends, or when its start
fails. Statements on it run one at a time, and after its end it refuses everything.
-/

namespace RecordStore.Connector

def transaction (n : Nat) : Linked Transaction := do
  return (← look).transactions.getD n {}

def changeTransaction (n : Nat) (f : Transaction → Transaction) : Linked Unit :=
  change fun connector => { connector with transactions := connector.transactions.modify n f }

def newTransaction : Linked Nat := do
  let n := (← look).transactions.length
  change fun connector => { connector with transactions := connector.transactions ++ [{}] }
  return n

def closeConnection (n : Nat) : Linked Unit := do
  match (← transaction n).connection with
  | none => return
  | some connection =>
    tryCatch (close connection) fun _ => warn "Failed to close SQLAlchemy connection"
    changeTransaction n fun t => { t with connection := none, begun := false }

def start (n : Nat) : Linked Unit :=
  diagnosing "" "transaction begin" <|
    tryCatch (do
        discard engineStyle
        let connection ← connect
        changeTransaction n fun t => { t with connection := some connection }
        begin connection
        changeTransaction n fun t => { t with begun := true })
      fun failure => do
        closeConnection n
        throw failure

def requireActive (n : Nat) : Linked Unit := do
  if !(← transaction n).isActive then throw (.ofError .transactionClosed)

/-- Whether it is the turn of the statement that came after so many others. -/
def hasTurn (n number : Nat) (connector : Connector) : Bool := (connector.transactions.getD n {}).served == number

/-- Runs a statement in a transaction, after those that came before it. -/
def executeIn (n : Nat) (sql : String) (params : Value) (operation : String) : Linked StatementResult := do
  requireActive n
  let number := (← transaction n).came
  changeTransaction n fun t => { t with came := t.came + 1 }
  ExceptT.lift (Task.waitFor (hasTurn n number))
  let result ← (ExceptT.lift <| ExceptT.run <| diagnosing sql operation do
    let connection := (← transaction n).connection
    let style ← engineStyle
    runStatement connection sql params style : Linked (Outcome StatementResult))
  changeTransaction n fun t => { t with served := t.served + 1 }
  ofOutcome result

def executeAllIn (n : Nat) (statements : List (String × Value)) (operation : String) :
    Link (List (Outcome StatementResult)) :=
  Task.settled (statements.map fun (sql, params) => (executeIn n sql params operation).run)

/-- Ends a transaction with a commit or a rollback. It is over whether that succeeds or not. -/
def finish (n : Nat) (operation : String) (ending : Nat → Linked Unit) : Linked Unit := do
  requireActive n
  let connection := (← transaction n).connection
  let result ← (ExceptT.lift <| ExceptT.run <| diagnosing "" operation do
    match connection with
    | some connection => ending connection
    | none => throw (.ofMisuse .noConnection) : Linked (Outcome Unit))
  changeTransaction n fun t => { t with finished := true }
  closeConnection n
  ofOutcome result

def commitTransaction (n : Nat) : Linked Unit := finish n "transaction commit" commit

def rollbackTransaction (n : Nat) : Linked Unit := finish n "transaction rollback" rollback

def beginTransaction : Linked Nat := do
  let n ← newTransaction
  start n
  return n

def openFor (url : String) (options : Value) : Linked Unit := do
  change fun connector => { toolkit := connector.toolkit, url, options }
  createEngine

/-- How a connector does what an adapter asks of the store. -/
def answer : (c : StoreCall) → Link c.Answer
  | .open url options => (openFor url (.map options)).run
  | .execute .pool sql params operation => (execute sql (.list params) operation).run
  | .execute (.transaction n) sql params operation => (executeIn n sql (.list params) operation).run
  | .begin => beginTransaction.run
  | .commit n => (commitTransaction n).run
  | .rollback n => (rollbackTransaction n).run
  | .dispose => dispose.run

end RecordStore.Connector
