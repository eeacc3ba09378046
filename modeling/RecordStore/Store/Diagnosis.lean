import RecordStore.Error.Failure
import RecordStore.Text.Search
import RecordStore.Value.Access

/-!
What a failure of the database driver means. The store's own state code decides first; it is looked for
on the failure, on the failure it wraps and on the one that came from, and the first code found counts.
-/

namespace RecordStore

def uniqueViolation : String := "23505"

def undefinedColumn : String := "42703"

namespace Failure

def codeOf? (mark : Option Value) : Option Text :=
  (mark.bind Value.text?).filter (!·.isEmpty)

def ownSqlstate? (failure : Failure) : Option Text :=
  let sqlstate := match failure.error?.bind AdapterError.sqlstate? with
    | some code => some (.text code)
    | none => failure.marks.sqlstate
  (codeOf? sqlstate).or (codeOf? failure.marks.pgcode)

/-- The failures on which a state code is looked for. -/
def codeCarriers (failure : Failure) : List Failure :=
  failure :: match failure.wrapped with
    | none => []
    | some wrapped => wrapped :: wrapped.cause.toList

def sqlstate? (failure : Failure) : Option Text := failure.codeCarriers.findSome? ownSqlstate?

def joinedLines (position : Nat) : List Value → Except Misuse (List Text)
  | [] => .ok []
  | .text s :: rest => (joinedLines (position + 1) rest).map (s :: ·)
  | v :: _ => .error (.notJoinable position v.shape)

/-- What a failure is reported with: the driver's detail, else what the wrapped failure says, else what
the failure says itself. -/
def report (failure : Failure) : Except Misuse Text :=
  match failure.marks.detail.filter Value.holds with
  | some (.list lines) => (joinedLines 0 lines).map (Text.intercalate "\n")
  | some detail => detail.shownText
  | none => .ok ((failure.wrapped.getD failure).text)

def isDriver (failure : Failure) : Bool :=
  match failure.nature with
  | .reported (.foreign _) _ => false
  | .reported .. => true
  | _ => false

def isIntegrity (failure : Failure) : Bool :=
  match failure.nature with
  | .reported .integrity _ => true
  | _ => false

def isOperational (failure : Failure) : Bool :=
  match failure.nature with
  | .reported .operational _ | .reported .interface _ => true
  | _ => false

def speaksOfConnection (report : Text) : Bool :=
  let report := report.chars.map Char.toLower
  ["connect", "timeout", "timed out"].any fun word => Text.contains word.toList report

def codeFor (failure : Failure) (sqlstate : Option Text) (report : Text) : ErrorCode :=
  if sqlstate = some undefinedColumn then .undefinedColumn
  else if failure.isIntegrity then .execution
  else if failure.isOperational && sqlstate.isNone && speaksOfConnection report then .connectionFailed
  else if failure.isDriver || sqlstate.isSome then .execution
  else .failed

/-- A failure as an error of the adapter. The adapter's own errors stay what they are. -/
def diagnosed (failure : Failure) (sql operation : String) : Except Misuse Failure :=
  match failure.error? with
  | some _ => .ok failure
  | none => do
    let report ← failure.report
    let sqlstate := failure.sqlstate?
    let details : List (String × Value) :=
      [("error_message", .text report), ("sql", .text sql), ("operation", .text operation)]
    return .ofError (.store (codeFor failure sqlstate report) details sqlstate)

/-- What is raised in the place of a failure: its diagnosis, come from it, or the misuse that stood in
the way of one. -/
def raisedAs (failure : Failure) (sql operation : String) : Failure :=
  match failure.diagnosed sql operation with
  | .ok diagnosis => diagnosis.withCause failure
  | .error misuse => .ofMisuse misuse

end Failure
end RecordStore
