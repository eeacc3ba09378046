import RecordStore.Connector.Url
import RecordStore.Value.Access

/-!
The options that an engine is made with: those given, with connections checked before use unless the
options say otherwise, and with notices kept out of the log in the way the driver understands.
-/

namespace RecordStore.Connector

def entryOf (position : Nat) (v : Value) : Except Misuse (Value × Value) :=
  match v.elements? with
  | none => .error (.notEntry position)
  | some [key, value] => if key.isStable then .ok (key, value) else .error (.unstableKey key.shape)
  | some items => .error (.malformed (.entryWidth position items.length))

def entriesFrom (position : Nat) : List Value → Except Misuse (List (Value × Value))
  | [] => .ok []
  | v :: rest => do
    let entry ← entryOf position v
    let others ← entriesFrom (position + 1) rest
    return entry :: others

/-- The entries of a map, or of a value whose elements are entries. -/
def entriesOf (v : Value) : Except Misuse (List (Value × Value)) :=
  match v with
  | .map entries => .ok entries
  | v => do
    let items ← v.elements
    return Value.entriesOf (← entriesFrom 0 items)

def withDefault (key : String) (value : Value) (entries : List (Value × Value)) : List (Value × Value) :=
  if (Value.lookup key entries).isSome then entries else Value.putText key value entries

def entriesUnder (key : String) (entries : List (Value × Value)) : Except Misuse (List (Value × Value)) :=
  match Value.lookup key entries with
  | some v => entriesOf v
  | none => .ok []

def connectArguments (driver : String) (options : List (Value × Value)) :
    Except Misuse (List (Value × Value)) := do
  let arguments ← entriesUnder "connect_args" options
  if driver = "asyncpg" then
    let settings ← entriesUnder "server_settings" arguments
    let settings := withDefault "client_min_messages" (.text "error") settings
    return Value.putText "server_settings" (.map settings) arguments
  else if "psycopg".toList.isPrefixOf driver.toList then
    return withDefault "options" (.text "-c client_min_messages=error") arguments
  else return arguments

def engineOptions (target : Target) (given : Value) : Except Misuse (List (Value × Value)) := do
  let options ← entriesOf (if given.holds then given else .map [])
  let options := withDefault "pool_pre_ping" (.bool true) options
  let arguments ← connectArguments target.driver options
  let options := Value.putText "connect_args" (.map arguments) options
  if options.any fun (name, _) => name.text?.isNone then throw (.notText "option")
  if (Value.lookup "url" options).isSome then throw (.takenName "url")
  return options

end RecordStore.Connector
