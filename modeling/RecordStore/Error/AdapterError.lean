import RecordStore.Error.Code
import RecordStore.Value.Literal

/-!
The adapter's own errors. A schema error says that a request names what no record type declares, a
conflict that an insert met a key that exists, and a store error is anything else the store reported,
with the store's own state code where there was one.
-/

namespace RecordStore

inductive ErrorFamily where
  | general
  | schema
  | conflict
  | store (sqlstate : Option Text)
  deriving DecidableEq, Inhabited

namespace ErrorFamily

def name : ErrorFamily → String
  | general => "AdapterException"
  | schema => "SchemaError"
  | conflict => "ConflictError"
  | store _ => "StoreError"

end ErrorFamily

structure AdapterError where
  family : ErrorFamily
  code : ErrorCode
  /-- A message given with the error; without one the code's template is filled. -/
  ownMessage : Option Text := none
  details : List (String × Value) := []
  deriving Inhabited

namespace AdapterError

def detail? (error : AdapterError) (name : String) : Option Value :=
  (error.details.find? (·.1 == name)).map (·.2)

/-- A template is left as it is written when one of its holes has nothing to fill it. -/
def message (error : AdapterError) : Text :=
  match error.ownMessage.filter (!·.isEmpty) with
  | some message => message
  | none =>
    let template := error.code.template
    (TemplatePart.fill? (fun name => (error.detail? name).map Value.shown) template).getD
      (TemplatePart.written template)

def text (error : AdapterError) : Text :=
  "error_code=" ++ error.code.number ++ ", error_message=" ++ error.message

def sqlstate? (error : AdapterError) : Option Text :=
  match error.family with
  | .store sqlstate => sqlstate
  | _ => none

def isStore (error : AdapterError) : Bool :=
  match error.family with
  | .store _ => true
  | _ => false

def schema (code : ErrorCode) (details : List (String × Value)) : AdapterError :=
  { family := .schema, code, details }

def store (code : ErrorCode) (details : List (String × Value)) (sqlstate : Option Text) : AdapterError :=
  { family := .store sqlstate, code, details }

def configuration (reason : Text) : AdapterError :=
  { family := .general, code := .configuration, details := [("config_error", .text reason)] }

def invalidOption (option : Value) (reason : Text) : AdapterError :=
  schema .invalidOption [("option", option), ("reason", .text reason)]

def invalidIdentifier (name : Value) : AdapterError :=
  schema .invalidIdentifier [("identifier", name)]

def unknownField (field : Value) (typeName : String) : AdapterError :=
  schema .unknownField [("field", field), ("type_name", .text typeName)]

def unknownType (typeName : Value) : AdapterError :=
  schema .unknownType [("type_name", typeName)]

def notConnected : AdapterError := store .notConnected [] none

def transactionClosed : AdapterError := store .transactionClosed [] none

end AdapterError
end RecordStore
