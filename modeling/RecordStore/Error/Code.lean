import RecordStore.Text.Basic

/-!
The codes of the adapter's own errors. Each has a number and a message template whose holes are filled
from the details of the error.
-/

namespace RecordStore

inductive TemplatePart where
  | text (s : String)
  | hole (name : String)
  deriving DecidableEq

inductive ErrorCode where
  | configuration
  | unknownField
  | unknownType
  | invalidIdentifier
  | invalidPrimaryKey
  | invalidOption
  | failed
  | connectionFailed
  | notConnected
  | execution
  | uniqueViolation
  | undefinedColumn
  | transactionClosed
  deriving DecidableEq, Inhabited

namespace ErrorCode

def all : List ErrorCode :=
  [configuration, unknownField, unknownType, invalidIdentifier, invalidPrimaryKey, invalidOption, failed,
   connectionFailed, notConnected, execution, uniqueViolation, undefinedColumn, transactionClosed]

def name : ErrorCode → String
  | configuration => "COMMON_CONFIG_ERROR"
  | unknownField => "SCHEMA_UNKNOWN_FIELD"
  | unknownType => "SCHEMA_UNKNOWN_TYPE"
  | invalidIdentifier => "SCHEMA_INVALID_IDENTIFIER"
  | invalidPrimaryKey => "SCHEMA_INVALID_PRIMARY_KEY"
  | invalidOption => "SCHEMA_INVALID_OPTION"
  | failed => "DB_FAILED"
  | connectionFailed => "DB_CONNECTION_FAILED"
  | notConnected => "DB_NOT_CONNECTED"
  | execution => "DB_EXECUTION_ERROR"
  | uniqueViolation => "DB_CONSTRAINT_VIOLATION"
  | undefinedColumn => "DB_UNDEFINED_COLUMN"
  | transactionClosed => "DB_TRANSACTION_CLOSED"

def ofName? (name : String) : Option ErrorCode := all.find? (·.name == name)

def number : ErrorCode → String
  | configuration => "100001"
  | unknownField => "200001"
  | unknownType => "200002"
  | invalidIdentifier => "200003"
  | invalidPrimaryKey => "200004"
  | invalidOption => "200005"
  | failed => "300001"
  | connectionFailed => "300002"
  | notConnected => "300003"
  | execution => "300004"
  | uniqueViolation => "300005"
  | undefinedColumn => "300006"
  | transactionClosed => "300007"

def template : ErrorCode → List TemplatePart
  | configuration => [.text "Configuration error: ", .hole "config_error"]
  | unknownField =>
    [.text "Field '", .hole "field", .text "' is not declared on record type '", .hole "type_name", .text "'"]
  | unknownType => [.text "Record type '", .hole "type_name", .text "' is not declared"]
  | invalidIdentifier => [.text "Invalid identifier '", .hole "identifier", .text "'"]
  | invalidPrimaryKey =>
    [.text "The primary key type must be one of ", .hole "allowed", .text ", got '",
      .hole "primary_key_type", .text "'"]
  | invalidOption => [.text "Invalid option '", .hole "option", .text "': ", .hole "reason"]
  | failed => [.text "Database operation failed: ", .hole "error_message"]
  | connectionFailed => [.text "Database connection failed: ", .hole "error_message"]
  | notConnected => [.text "The adapter is not connected. Call connect() first"]
  | execution => [.text "Failed to execute ", .hole "operation", .text ": ", .hole "error_message"]
  | uniqueViolation => [.text "Unique constraint violated: ", .hole "error_message"]
  | undefinedColumn => [.text "Undefined column: ", .hole "error_message"]
  | transactionClosed => [.text "The transaction has already ended"]

end ErrorCode

namespace TemplatePart

/-- A template as it is written, its holes in curly brackets. -/
def written : List TemplatePart → String
  | [] => ""
  | text s :: rest => s ++ written rest
  | hole name :: rest => "\x7b" ++ name ++ "\x7d" ++ written rest

def fill? (value? : String → Option Text) : List TemplatePart → Option Text
  | [] => some ""
  | text s :: rest => (fill? value? rest).map fun others => s ++ others
  | hole name :: rest => do
    let s ← value? name
    let rest ← fill? value? rest
    return s ++ rest

end TemplatePart
end RecordStore
