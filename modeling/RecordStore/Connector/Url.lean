import RecordStore.Error.Failure

/-!
Which engine a database URL asks for. URLs and the names in them are read by the database toolkit; a
bare URL of the store's own dialect gets the store's own driver.
-/

namespace RecordStore.Connector

/-- Which engine a URL asks for. `name` is the dialect with its driver, as the engine is told. -/
structure Target where
  name : String
  dialect : String
  driver : String
  deriving DecidableEq, Inhabited

structure Toolkit where
  nameIn : String → Outcome String
  targetOf : String → Outcome Target
  deriving Inhabited

def defaultName : String := "postgresql+psycopg"

def target (toolkit : Toolkit) (url : String) : Outcome Target := do
  let name ← toolkit.nameIn url
  toolkit.targetOf (if name = "postgresql" then defaultName else name)

end RecordStore.Connector
