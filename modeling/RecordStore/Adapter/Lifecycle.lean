import RecordStore.Adapter.Basic
import RecordStore.Schema.Table

/-!
The life of an adapter: connecting, making room for its record types, beginning and ending transactions,
and disconnecting.
-/

namespace RecordStore.Adapter

def ensureType (party : Party) (key : Kind) (assigned : Bool) (type : RecordType) : Run Unit := do
  let statements ← ofMisuse (Schema.statements type key assigned)
  for statement in statements do
    let channel ← executor party
    discard (execute channel statement.sql [] "create table")
  log .debug ("Table " ++ type.name.text ++ " created/verified")

def ensureSchema (adapter : Adapter) (party : Party) (key : Option Kind) : Run Unit := do
  let key ← match key with
    | some key => pure key
    | none => ofOutcome (liftM adapter.settings.keyKind)
  let assigned := adapter.settings.generator.isNone
  discard (joined (adapter.types.map fun (_, type) => ensureType party key assigned type))

def requiredUrl (adapter : Adapter) : Outcome String :=
  match adapter.settings.url.filter (!·.isEmpty) with
  | some url => .ok url
  | none => Outcome.refuse (.invalidOption (.text "url") "a connection URL is required")

def connectKind (adapter : Adapter) : Outcome Kind := do
  let key ← adapter.settings.keyKind
  if key = .number ∧ (adapter.settings.generator.map KeyGenerator.isRandom).getD false then
    throw (.ofError (.invalidOption (.text "generate_primary_key")
      "number keys need a numeric generator, or None for store-assigned keys"))
  return key

def generalError (message : String) : AdapterError :=
  { family := .general, code := .failed, ownMessage := some message }

def connectedMessage (adapter : Adapter) : String :=
  "PostgresAdapter connected (" ++ toString adapter.types.length ++ " record types)"

def connect (adapter : Adapter) : Party → Run Unit
  | .session _ => refuse (generalError "A transaction adapter is already connected")
  | .plain => do
    let key ← ofOutcome adapter.connectKind
    if !(← look).hasStore then
      let url ← ofOutcome adapter.requiredUrl
      openStore url adapter.settings.engineOptions
      change fun state => { state with hasStore := true }
    change fun state => { state with connected := true }
    if adapter.settings.ensureSchema then adapter.ensureSchema .plain (some key)
    log .info adapter.connectedMessage

def beginTransaction : Party → Run Nat
  | .session _ => refuse (generalError "Nested transactions are not supported")
  | .plain => do
    if !(← look).connected then refuse .notConnected
    let transaction ← beginOnStore
    let number := (← look).sessions.length
    change (·.addSession transaction)
    return number

/-- Ends the transaction of a session, which runs no statements from then on. -/
def endTransaction (n : Nat) (withRollback : Bool) : Run Unit := do
  match ((← look).session? n).filter (·.isOpen) with
  | none => refuse .transactionClosed
  | some session =>
    change (·.closeSession n)
    if withRollback then
      rollback session.transaction
      log .debug "Transaction rolled back"
    else
      commit session.transaction
      log .debug "Transaction committed"

def finish (party : Party) (withRollback : Bool) : Run Unit :=
  match party with
  | .session n => endTransaction n withRollback
  | .plain => throw (.ofMisuse .noTransaction)

def leave (n : Nat) (failed : Bool) : Run Unit := do
  if (((← look).session? n).filter (·.isOpen)).isSome then
    if failed then
      tryCatch (endTransaction n true) fun failure =>
        log .warning ("Failed to rollback transaction: " ++ failure.text)
    else endTransaction n false

/-- Ends a block of work in a session with what the work came to. A failure of the work comes out of the block also where
the rollback fails; after work that went well a failure of the commit does. -/
def exitBlock {α : Type} (n : Nat) (work : Outcome α) : Run α := do
  match work with
  | .ok result =>
    leave n false
    return result
  | .error failure =>
    leave n true
    throw failure

def disconnect : Party → Run Unit
  | .session n => do
    if (((← look).session? n).filter (·.isOpen)).isSome then endTransaction n true
  | .plain => do
    change fun state => { state with connected := false }
    if (← look).hasStore then disposeStore
    log .info "PostgresAdapter disconnected"

end RecordStore.Adapter
