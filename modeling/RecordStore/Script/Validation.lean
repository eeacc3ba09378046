import RecordStore.Settings.Load
import RecordStore.Value.Equality

/-!
A stand-in for the validation of settings. Texts may come as bytes in UTF-8, and truth values as the
numbers zero and one or as one of a few words in any case. All settings that do not fit are reported
together, in the order in which they are declared; names that are no setting are ignored.
-/

namespace RecordStore.Script

open Settings (Setting textOfBytes?)

def string? : Value → Option String
  | .text s => s.string?
  | .bytes .fixed data => textOfBytes? data
  | .bytes .growable data => textOfBytes? data
  | _ => none

def falseWords : List String := ["0", "off", "f", "false", "n", "no"]

def trueWords : List String := ["1", "on", "t", "true", "y", "yes"]

def boolOfText? (s : String) : Option Bool :=
  let s := s.toLower
  if trueWords.contains s then some true
  else if falseWords.contains s then some false
  else none

def boolOfInt? (n : Int) : Option Bool :=
  if n = 0 then some false else if n = 1 then some true else none

def bool? : Value → Option Bool
  | .bool b => some b
  | .text s => s.string?.bind boolOfText?
  | .bytes .fixed data => (textOfBytes? data).bind boolOfText?
  | .int n => boolOfInt? n
  | .float x => if x.isWhole then x.truncate?.bind boolOfInt? else none
  | _ => none

/-- Options by name; a name may come as bytes. -/
def options? : Value → Option (List (Value × Value))
  | .map entries => do
    let named ← entries.mapM fun (k, v) => (string? k).map fun name => (Value.text name, v)
    return Value.entriesOf named
  | _ => none

def set? (settings : Settings) (setting : Setting) (v : Value) : Option Settings :=
  match setting with
  | .url => if v.isNull then some { settings with url := none }
    else (string? v).map fun url => { settings with url := some url }
  | .keyType => (string? v).map fun keyType => { settings with keyType }
  | .generator => if v.isNull then some { settings with generator := none } else none
  | .ensureSchema => (bool? v).map fun ensureSchema => { settings with ensureSchema }
  | .engineOptions => (options? v).map fun engineOptions => { settings with engineOptions }

def allSettings : List Setting := [.url, .keyType, .generator, .ensureSchema, .engineOptions]

def unfit (values : List (Value × Value)) : List Setting :=
  allSettings.filter fun setting =>
    match Value.lookup setting.name values with
    | some v => (set? {} setting v).isNone
    | none => false

def given (values : List (Value × Value)) : Settings :=
  allSettings.foldl (fun settings setting =>
    match Value.lookup setting.name values with
    | some v => (set? settings setting v).getD settings
    | none => settings) {}

def validate (named : List (Text × Value)) : Except Settings.Fault Settings :=
  let values := named.map fun (name, v) => (Value.text name, v)
  match unfit values with
  | [] => .ok (given values)
  | settings => .error (.own (", ".intercalate (settings.map Setting.name)))

end RecordStore.Script
