import RecordStore.Adapter.Basic
import RecordStore.Connector.Transaction
import RecordStore.Script.Rule
import RecordStore.Script.Url
import RecordStore.Store.Loop

/-!
A store and an engine that answer by rules and remember what they were asked. Transactions and
connections are numbered from zero in the order in which they are handed out. With the engine, a
connector does what the store is asked for, and a statement may let others go on before it ends.
-/

namespace RecordStore.Script

inductive Event where
  | store (call : StoreCall)
  | create (name : String) (options : List (Value × Value))
  | disposeEngine
  | connection (number : Nat) (word : String)
  | exec (number : Nat) (statement : Sql.DriverStatement)
  /-- A statement that let others go on in the meantime has ended. -/
  | ended (number : Nat) (statement : Sql.DriverStatement)

structure State where
  rules : List Rule := []
  events : List Event := []
  logs : List Log.Entry := []
  transactions : Nat := 0
  connections : Nat := 0
  style : Sql.ParamStyle := .extendedFormat
  suspends : Bool := false
  usesEngine : Bool := false
  connector : Connector := { toolkit }
  adapter : AdapterState := {}

abbrev Scripted := StateM State

def remember (event : Event) : Scripted Unit :=
  modify fun state => { state with events := state.events ++ [event] }

def ruled (text : String) (params : List Value) : Scripted (Outcome DriverResult) :=
  modifyGet fun state =>
    let (result, rules) := answerBy text params state.rules
    (result, { state with rules })

def ruledWord (word : String) : Scripted (Outcome Unit) := do
  return (← ruled word []).map fun _ => ()

def resultOf (result : DriverResult) : StatementResult := ⟨result.rows.getD [], result.rowCount⟩

def answerRuled : (call : StoreCall) → Scripted call.Answer
  | .open .. => return (.ok () : Outcome Unit)
  | .execute _ sql params _ => return (← ruled sql params).map resultOf
  | .begin => do
    match ← ruledWord "transaction" with
    | .error failure => return (.error failure : Outcome Nat)
    | .ok () => modifyGet fun state =>
      ((.ok state.transactions : Outcome Nat), { state with transactions := state.transactions + 1 })
  | .commit _ => ruledWord "commit"
  | .rollback _ => ruledWord "rollback"
  | .dispose => ruledWord "dispose"

def answerStore (call : StoreCall) : Scripted call.Answer := do
  remember (.store call)
  answerRuled call

def onConnection (number : Nat) (word : String) : Scripted (Outcome Unit) := do
  remember (.connection number word)
  ruledWord word

def newConnection (word : String) : Scripted (Outcome Nat) := do
  let number ← modifyGet fun state =>
    (state.connections, { state with connections := state.connections + 1 })
  return (← onConnection number word).map fun _ => number

def answerEngine : (call : EngineCall) → Scripted call.Answer
  | .create name options => do
    remember (.create name options)
    return (.ok (← get).style : Outcome Sql.ParamStyle)
  | .disposeEngine => do
    remember .disposeEngine
    ruledWord "dispose"
  | .checkout => newConnection "begin"
  | .connect => newConnection "connect"
  | .begin n => onConnection n "begin"
  | .commit n => onConnection n "commit"
  | .rollback n => onConnection n "rollback"
  | .close n => onConnection n "close"
  | .exec n statement => do
    remember (.exec n statement)
    ruled statement.sql (statement.params.getD [])

/-! ### Tasks on the store -/

/-- A task that works with the scripts. All that it may have to wait for is others to go on. -/
abbrev Work := Task.Pausing State

variable {α : Type}

def atOnce (action : Scripted α) : Work α := do
  let (result, state) := action.run (← Task.get)
  Task.modify fun _ => state
  return result

def engineTask : (call : EngineCall) → Work call.Answer
  | .exec n statement => do
    let result ← atOnce (answerEngine (.exec n statement))
    if (← Task.get).suspends && result.isOk then
      Task.Pausing.pause
      atOnce (remember (.ended n statement))
    return result
  | call => atOnce (answerEngine call)

def write (entry : Log.Entry) (state : State) : State := { state with logs := state.logs ++ [entry] }

def ofLink (task : Connector.Link α) : Work α :=
  task.within ⟨State.connector, fun connector state => { state with connector }, write, engineTask⟩

def storeTask (call : StoreCall) : Work call.Answer := do
  if (← Task.get).usesEngine then ofLink (Connector.answer call) else atOnce (answerStore call)

def ofJob (task : Adapter.Job α) : Work α :=
  task.within ⟨State.adapter, fun adapter state => { state with adapter }, write, storeTask⟩

/-- What a task comes to when its own tasks run one after the other, also where they let others go on. -/
def alone (task : Work α) : Scripted α := Task.run ⟨fun _ => (() : Id Unit), fun _ => (() : Id Unit)⟩ task

end RecordStore.Script
