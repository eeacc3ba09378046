import RecordStore.Record.Key
import RecordStore.Schema.Kind

/-!
The settings of an adapter, and why there may be none.
-/

namespace RecordStore

structure Settings where
  url : Option String := none
  keyType : String := "text"
  /-- Makes keys for records without one; without a generator the store assigns keys. -/
  generator : Option KeyGenerator := some .random
  ensureSchema : Bool := true
  engineOptions : List (Value × Value) := []

namespace Settings

/-- What is set, one by one, and the names under which it is given. -/
inductive Setting where
  | url
  | keyType
  | generator
  | ensureSchema
  | engineOptions
  deriving DecidableEq

def Setting.name : Setting → String
  | url => "url"
  | keyType => "primary_key_type"
  | generator => "generate_primary_key"
  | ensureSchema => "ensure_schema"
  | engineOptions => "engine_options"

def keyKind (settings : Settings) : Except AdapterError Kind := Kind.forKeys (.text settings.keyType)

/-- Why there are no settings: something is wrong with the configuration, or anything else was raised. -/
inductive Refusal where
  | unfit (report : Text)
  | missingFile (path : Text)
  | invalidFile (path report : Text)
  | notMapping (path : Text)
  | sectionNotMapping (path : Text)
  | raised (failure : Failure)

namespace Refusal

def reason : Refusal → Text
  | unfit report => report
  | missingFile path => "Config file not found: " ++ path
  | invalidFile path report => "Invalid YAML in " ++ path ++ ": " ++ report
  | notMapping path => path ++ " must contain a mapping"
  | sectionNotMapping path => "'adapter' section in " ++ path ++ " must be a mapping"
  | raised failure => failure.text

def failure : Refusal → Failure
  | raised failure => failure
  | refusal => .ofError (.configuration refusal.reason)

end Refusal
end Settings
end RecordStore
