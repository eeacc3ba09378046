import RecordStore.Value.Literal

/-!
Values used in a way that their shape does not allow, and texts that do not have the form they should.
-/

namespace RecordStore

inductive Malformed where
  | hexDigit (position : Nat)
  | kind (name : Value)
  | wholeNumber (base : Nat) (source : Value)
  | notANumber
  /-- More digits than a number may have to be written. -/
  | writtenDigits
  | readDigits (count : Nat)
  | returnedKeys (expected got : Nat)
  | noRecords
  | entryWidth (position width : Nat)
  | level (name : Text)
  | logFormat (format : Text)
  deriving Inhabited

inductive Misuse where
  | notMap (shape : String)
  | noConnection
  /-- A value other than a text was used as the name of a logger. -/
  | notName (shape : String)
  | noTransaction
  | notIterable (shape : String)
  | notSized (shape : String)
  | notIndexable (shape : String)
  | unstableKey (shape : String)
  | unwritable (shape : String)
  | notJoinable (position : Nat) (shape : String)
  | notText (shape : String)
  | takenName (name : String)
  | notNumber (shape : String)
  | noCount
  | notEntry (position : Nat)
  | missingKey (key : Value)
  | outOfRange (shape : String)
  | hugeIndex
  | noColumns
  | infiniteNumber
  | notUtf8
  | tooDeep
  | malformed (fault : Malformed)
  deriving Inhabited

namespace Malformed

def text : Malformed → Text
  | hexDigit position =>
    "non-hexadecimal number found in fromhex() arg at position " ++ toString position
  | kind name => name.literal ++ " is not a valid ValueKind"
  | wholeNumber base source =>
    "invalid literal for int() with base " ++ toString base ++ ": " ++ (source.literal.take 200).toString
  | notANumber => "cannot convert float NaN to integer"
  | writtenDigits =>
    "Exceeds the limit (4300 digits) for integer string conversion; " ++
      "use sys.set_int_max_str_digits() to increase the limit"
  | readDigits count =>
    "Exceeds the limit (4300 digits) for integer string conversion: value has " ++ toString count ++
      " digits; use sys.set_int_max_str_digits() to increase the limit"
  | returnedKeys expected got =>
    "expected " ++ toString expected ++ " returned keys, got " ++ toString got
  | noRecords => "build_insert requires at least one record"
  | entryWidth position width =>
    "dictionary update sequence element #" ++ toString position ++ " has length " ++ toString width ++
      "; 2 is required"
  | level name => "Unknown level: " ++ (Value.text name).literal
  | logFormat format => "Invalid format '" ++ format ++ "' for '%' style"

end Malformed

namespace Misuse

def rangeText (shape : String) : String :=
  if shape = "list" then "list index out of range"
  else if shape = "tuple" then "tuple index out of range"
  else if shape = "str" then "string index out of range"
  else if shape = "bytearray" then "bytearray index out of range"
  else if shape = "memoryview" then "index out of bounds on dimension 1"
  else "index out of range"

def text : Misuse → Text
  | notMap shape => "'" ++ shape ++ "' object has no attribute 'items'"
  | noConnection => "'NoneType' object has no attribute 'exec_driver_sql'"
  | notName shape => "'" ++ shape ++ "' object has no attribute 'startswith'"
  | noTransaction => "not a transaction"
  | notIterable shape => "'" ++ shape ++ "' object is not iterable"
  | notSized shape => "object of type '" ++ shape ++ "' has no len()"
  | notIndexable shape => "'" ++ shape ++ "' object is not subscriptable"
  | unstableKey shape => "unhashable type: '" ++ shape ++ "'"
  | unwritable shape => "Object of type " ++ shape ++ " is not JSON serializable"
  | notJoinable position shape =>
    "sequence item " ++ toString position ++ ": expected str instance, " ++ shape ++ " found"
  | notText shape => "expected str instance, " ++ shape ++ " found"
  | takenName name => "got multiple values for argument '" ++ name ++ "'"
  | notNumber shape =>
    "int() argument must be a string, a bytes-like object or a real number, not '" ++ shape ++ "'"
  | noCount => "unsupported operand type(s) for +: 'int' and 'NoneType'"
  | notEntry position =>
    "cannot convert dictionary update sequence element #" ++ toString position ++ " to a sequence"
  | missingKey key => key.literal
  | outOfRange shape => rangeText shape
  | hugeIndex => "cannot fit 'int' into an index-sized integer"
  | noColumns => "the row has no columns"
  | infiniteNumber => "cannot convert float infinity to integer"
  | notUtf8 => "invalid UTF-8"
  | tooDeep => "maximum recursion depth exceeded"
  | malformed fault => fault.text

end Misuse
end RecordStore
