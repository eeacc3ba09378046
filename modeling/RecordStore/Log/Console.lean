import RecordStore.Error.Misuse
import RecordStore.Log.Entry
import RecordStore.Log.Format
import RecordStore.Text.Upper

/-!
The log of the whole package as it is shown. Until it is configured nothing is shown; configuring it
again only changes the level. A level of zero leaves the decision to the level above, which lets
warnings through, and entries without a positive level are never shown.
-/

namespace RecordStore.Log

def insideName (name : Text) : Text :=
  if name = root ∨ (root ++ ".").toList <+: name.chars then name else root ++ "." ++ name

/-- The name of the logger that a value asks for. Names outside the package are moved into it, and a
value that holds nothing asks for the package's own logger. -/
def loggerName (name : Value) : Except Misuse Text :=
  if !name.holds then .ok root
  else match name with
    | .text name => .ok (insideName name)
    | v => .error (.notName v.shape)

def levelNumbers : List (String × Int) :=
  [("CRITICAL", 50), ("FATAL", 50), ("ERROR", 40), ("WARN", 30), ("WARNING", 30), ("INFO", 20),
   ("DEBUG", 10), ("NOTSET", 0)]

def levelName (number : Int) : String :=
  match Level.all.find? (·.number == number) with
  | some level => level.name
  | none => if number = 0 then "NOTSET" else "Level " ++ toString number

/-- The level that a value asks for: a whole number, or the name of a level in any case. -/
def levelOf (level : Value) : Except Misuse Int :=
  match level with
  | .int n => .ok n
  | .bool b => .ok (if b then 1 else 0)
  | .text name =>
    match (Text.upper name).string?.bind (levelNumbers.lookup ·) with
    | some number => .ok number
    | none => .error (.malformed (.level ("Level " ++ Text.upper name)))
  | v => .error (.notNumber v.shape)

def defaultFormat : String := "%(asctime)s %(levelname)s %(name)s: %(message)s"

def formatOf (format : Value) : Except Misuse Text :=
  if !format.holds then .ok "%(message)s"
  else match format with
    | .text s => if hasField s.chars then .ok s else .error (.malformed (.logFormat s))
    | v => .error (.notText v.shape)

structure Console where
  level : Int := 0
  format : Option Text := none
  deriving Inhabited

namespace Console

def levelAbove : Int := Level.warning.number

def effectiveLevel (console : Console) : Int :=
  if console.level = 0 then levelAbove else console.level

/-- Sets the level and, the first time, the format. The level stays set when the format is refused. -/
def configure (console : Console) (level format : Value) : Except Misuse Unit × Console :=
  match levelOf level with
  | .error misuse => (.error misuse, console)
  | .ok level =>
    let console := { console with level }
    if console.format.isSome then (.ok (), console)
    else match formatOf format with
      | .error misuse => (.error misuse, console)
      | .ok format => (.ok (), { console with format := some format })

def shows (console : Console) (level : Int) : Bool := 0 < level && console.effectiveLevel ≤ level

def entryLevel (level : Value) : Except Misuse Int :=
  match level with
  | .int n => .ok n
  | .bool b => .ok (if b then 1 else 0)
  | v => .error (.notNumber v.shape)

def output (console : Console) (logger : Text) (level : Int) (message : Text) : Text :=
  match console.format with
  | none => ""
  | some format =>
    if console.shows level then
      match fill format ⟨logger, level, levelName level, message⟩ with
      | some line => line ++ "\n"
      | none => ""
    else ""

end Console
end RecordStore.Log
