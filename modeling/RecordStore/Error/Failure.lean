import RecordStore.Error.AdapterError
import RecordStore.Error.Misuse

/-!
Everything that can end an operation: an error of the adapter, a misused value, or a failure that the
database driver reported. A failure may wrap another one and may have come from another one, and the
driver may have marked it with a state code and a detail.
-/

namespace RecordStore

/-- Where a reported failure comes from. The driver's classes below its common one are told apart only
as far as their treatment differs; the name is kept for the caller. -/
inductive Origin where
  | integrity
  | operational
  | interface
  | driver (name : String)
  | toolkit (name : String)
  | foreign (name : String)
  deriving DecidableEq, Inhabited

namespace Origin

def driverNames : List String :=
  ["ProgrammingError", "DataError", "InternalError", "NotSupportedError", "DatabaseError", "DBAPIError"]

def toolkitNames : List String := ["SQLAlchemyError", "InvalidRequestError", "TimeoutError", "ArgumentError"]

def name : Origin → String
  | integrity => "IntegrityError"
  | operational => "OperationalError"
  | interface => "InterfaceError"
  | driver name => name
  | toolkit name => name
  | foreign name => name

def ofName (name : String) : Origin :=
  if name = "IntegrityError" then integrity
  else if name = "OperationalError" then operational
  else if name = "InterfaceError" then interface
  else if driverNames.contains name then driver name
  else if toolkitNames.contains name then toolkit name
  else foreign name

end Origin

inductive Nature where
  | adapter (error : AdapterError)
  | misuse (misuse : Misuse)
  | reported (origin : Origin) (message : Text)
  deriving Inhabited

/-- What a driver wrote onto a failure. -/
structure Marks where
  sqlstate : Option Value := none
  pgcode : Option Value := none
  detail : Option Value := none
  deriving Inhabited

inductive Failure where
  | mk (nature : Nature) (marks : Marks) (wrapped cause : Option Failure)

namespace Failure

instance : Inhabited Failure := ⟨.mk default {} none none⟩

def nature : Failure → Nature
  | mk nature .. => nature

def marks : Failure → Marks
  | mk _ marks .. => marks

def wrapped : Failure → Option Failure
  | mk _ _ wrapped _ => wrapped

def cause : Failure → Option Failure
  | mk _ _ _ cause => cause

def ofError (error : AdapterError) : Failure := mk (.adapter error) {} none none

def ofMisuse (misuse : Misuse) : Failure := mk (.misuse misuse) {} none none

/-- What raising an error comes to. A detail that cannot be written stands in the way of its message. -/
def raising (error : AdapterError) : Failure :=
  if error.details.all (·.2.isWritable) then ofError error else ofMisuse (.malformed .writtenDigits)

def withCause (failure : Failure) (cause : Failure) : Failure :=
  match failure with
  | mk nature marks wrapped _ => mk nature marks wrapped (some cause)

def error? (failure : Failure) : Option AdapterError :=
  match failure.nature with
  | .adapter error => some error
  | _ => none

def storeError? (failure : Failure) : Option AdapterError :=
  failure.error?.filter (·.isStore)

def text (failure : Failure) : Text :=
  match failure.nature with
  | .adapter error => error.text
  | .misuse misuse => misuse.text
  | .reported _ message => message

end Failure

abbrev Outcome (α : Type) := Except Failure α

namespace Outcome

def refuse {α : Type} (error : AdapterError) : Outcome α := .error (.raising error)

def misuse {α : Type} (misuse : Misuse) : Outcome α := .error (.ofMisuse misuse)

end Outcome

instance : MonadLift (Except Misuse) (Except Failure) where
  monadLift
    | .ok a => .ok a
    | .error misuse => .error (.ofMisuse misuse)

instance : MonadLift (Except AdapterError) (Except Failure) where
  monadLift
    | .ok a => .ok a
    | .error error => .error (.raising error)

end RecordStore
