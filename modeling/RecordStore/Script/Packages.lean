import RecordStore.Script.EnvFile
import RecordStore.Script.Validation
import RecordStore.Script.Yaml.Document

/-!
Stand-ins for the packages that settings are loaded with. Objects are values; a key of a mapping that is
no text is known by its literal.
-/

namespace RecordStore.Script

def keyOf : Value → Key String
  | .text s => .name s
  | v => .other v.literal

def mappingOf (entries : List (Value × Value)) : Mapping String Value :=
  entries.foldl (fun done (k, v) => done.set (keyOf k) v) .empty

def readYaml (nesting : Option Nat) (text : String) : Except Settings.Fault Value :=
  match Yaml.read nesting text with
  | .ok v => .ok v
  | .error .malformed => .error (.own "malformed")
  | .error (.raised failure) => .error (.raised failure)

def packages (environmentFile : Option String) (nesting : Option Nat) : Settings.Packages String Value where
  holds := Value.holds
  mapping? v := v.entries?.map mappingOf
  ofText := .text
  loadDotenv := EnvFile.load environmentFile
  readText := readYaml nesting
  refusedEarly? _ := none
  validate := validate

end RecordStore.Script
