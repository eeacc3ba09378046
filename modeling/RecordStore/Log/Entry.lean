import RecordStore.Text.Basic

/-!
What is logged while an adapter works: a level, the logger's name and a message.
-/

namespace RecordStore.Log

inductive Level where
  | debug
  | info
  | warning
  | error
  | critical
  deriving DecidableEq, Inhabited

namespace Level

def all : List Level := [debug, info, warning, error, critical]

def number : Level → Int
  | debug => 10
  | info => 20
  | warning => 30
  | error => 40
  | critical => 50

def name : Level → String
  | debug => "DEBUG"
  | info => "INFO"
  | warning => "WARNING"
  | error => "ERROR"
  | critical => "CRITICAL"

end Level

structure Entry where
  level : Level
  logger : String
  message : Text
  deriving DecidableEq, Inhabited

def root : String := "pgadapter"

def settingsLogger : String := root ++ ".configuration.adapter_config"

def connectorLogger : String := root ++ ".storage.backends.relational.sqlalchemy_connector"

def adapterLogger : String := root ++ ".storage.backends.relational.postgres_backend"

end RecordStore.Log
