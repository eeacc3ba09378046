import RecordStore.Error.Failure
import RecordStore.Store.Result
import RecordStore.Store.Task

/-!
What an adapter asks of the store: to open it, to run a statement on any connection or in a transaction,
to begin, commit and roll back transactions, and to close all connections.
-/

namespace RecordStore

/-- Where a statement runs: on any connection, or in one transaction. -/
inductive Channel where
  | pool
  | transaction (number : Nat)
  deriving DecidableEq, Inhabited

inductive StoreCall where
  | open (url : String) (options : List (Value × Value))
  | execute (channel : Channel) (sql : String) (params : List Value) (operation : String)
  | begin
  | commit (transaction : Nat)
  | rollback (transaction : Nat)
  | dispose

namespace StoreCall

/-- A transaction that begins gets a number. -/
def Answer : StoreCall → Type
  | .open .. => Outcome Unit
  | .execute .. => Outcome StatementResult
  | .begin => Outcome Nat
  | .commit _ => Outcome Unit
  | .rollback _ => Outcome Unit
  | .dispose => Outcome Unit

end StoreCall
end RecordStore
