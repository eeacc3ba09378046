import RecordStore.Settings.Basic
import RecordStore.Store.Call
import RecordStore.Schema.RecordType
import RecordStore.Value.Access

/-!
An adapter stores records of several types. What it is made of never changes; what changes is whether it
is connected, which transactions were begun from it and which of them are still open, and how many keys
were made.
-/

namespace RecordStore

structure Adapter where
  types : List (Value × RecordType)
  settings : Settings := {}
  /-- How deep a JSON text in the store may nest, if there is a limit. -/
  nesting : Option Nat := none
  randomBytes : RandomBytes := fun _ => []

/-- Work in one transaction; after its end it runs no more statements. -/
structure Session where
  transaction : Nat
  isOpen : Bool := true
  deriving DecidableEq, Inhabited

structure AdapterState where
  /-- Whether there is a store to connect to, or it has to be opened first. -/
  hasStore : Bool := false
  connected : Bool := false
  sessions : List Session := []
  keysMade : Nat := 0
  deriving DecidableEq, Inhabited

/-- Who runs an operation: the adapter itself, or one of its sessions. -/
inductive Party where
  | plain
  | session (number : Nat)
  deriving DecidableEq, Inhabited

namespace AdapterState

def session? (state : AdapterState) (n : Nat) : Option Session := state.sessions[n]?

def channel? (state : AdapterState) : Party → Option Channel
  | .plain => if state.connected then some .pool else none
  | .session n => ((state.session? n).filter (·.isOpen)).map fun s => .transaction s.transaction

def closeSession (n : Nat) (state : AdapterState) : AdapterState :=
  { state with sessions := state.sessions.modify n fun s => { s with isOpen := false } }

def addSession (transaction : Nat) (state : AdapterState) : AdapterState :=
  { state with sessions := state.sessions ++ [{ transaction }] }

end AdapterState

namespace Adapter

abbrev Job := Task AdapterState StoreCall StoreCall.Answer

abbrev Run := ExceptT Failure Job

def look : Run AdapterState := ExceptT.lift Task.get

def change (f : AdapterState → AdapterState) : Run Unit := ExceptT.lift (Task.modify f)

def log (level : Log.Level) (message : Text) : Run Unit :=
  ExceptT.lift (Task.log level Log.adapterLogger message)

def ofOutcome {α : Type} (outcome : Outcome α) : Run α := ExceptT.mk (pure outcome)

def ofMisuse {α : Type} (result : Except Misuse α) : Run α := ofOutcome (liftM result)

def refuse {α : Type} (error : AdapterError) : Run α := throw (.ofError error)

def openStore (url : String) (options : List (Value × Value)) : Run Unit :=
  ExceptT.mk (Task.perform (StoreCall.open url options))

def execute (channel : Channel) (sql : String) (params : List Value) (operation : String) :
    Run StatementResult :=
  ExceptT.mk (Task.perform (StoreCall.execute channel sql params operation))

def beginOnStore : Run Nat := ExceptT.mk (Task.perform StoreCall.begin)

def commit (transaction : Nat) : Run Unit := ExceptT.mk (Task.perform (StoreCall.commit transaction))

def rollback (transaction : Nat) : Run Unit := ExceptT.mk (Task.perform (StoreCall.rollback transaction))

def disposeStore : Run Unit := ExceptT.mk (Task.perform StoreCall.dispose)

/-- Where a party's statements run; one that may run none is refused. -/
def executor (party : Party) : Run Channel := do
  match (← look).channel? party with
  | some channel => return channel
  | none => refuse .notConnected

def settled {α : Type} (tasks : List (Run α)) : Run (List (Outcome α)) :=
  ExceptT.lift (Task.settled (tasks.map ExceptT.run))

def joined {α : Type} (tasks : List (Run α)) : Run (List α) :=
  ExceptT.mk (Task.joined (tasks.map ExceptT.run))

/-- Adds a record type under a key; one under the same key is replaced where it stands. -/
def putType (key : Value) (type : RecordType) : List (Value × RecordType) → List (Value × RecordType)
  | [] => [(key, type)]
  | (k, t) :: rest => if key.equals k then (k, type) :: rest else (k, t) :: putType key type rest

def typesOf (types : List (Value × RecordType)) : List (Value × RecordType) :=
  types.foldl (fun done (key, type) => putType key type done) []

def typeAt? (key : Value) : List (Value × RecordType) → Option RecordType
  | [] => none
  | (k, type) :: rest => if key.equals k then some type else typeAt? key rest

def recordType (adapter : Adapter) (name : Value) : Outcome RecordType :=
  if !name.isStable then Outcome.misuse (.unstableKey name.shape)
  else match typeAt? name adapter.types with
    | some type => .ok type
    | none => Outcome.refuse (.unknownType name)

def keySource (adapter : Adapter) : Option KeySource :=
  adapter.settings.generator.map (·.source adapter.randomBytes)

end Adapter
end RecordStore
