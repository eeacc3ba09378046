import RecordStore.Connector.Url
import RecordStore.Text.Word
import RecordStore.Value.Number

/-!
A stand-in for the toolkit that reads database URLs: the name before the colon and the two slashes is
the dialect with its driver, and of the rest only the number behind the host has to be right.
-/

namespace RecordStore.Script

def defaultDrivers : List (String × String) :=
  [("sqlite", "pysqlite"), ("mysql", "mysqldb"), ("mariadb", "mysqldb"), ("oracle", "oracledb"),
   ("mssql", "pyodbc")]

def isNameChar (c : Char) : Bool := Text.isWord c || c == '+'

def slashes : List Char := [':', '/', '/']

def splitName? (cs : List Char) : Option (List Char × List Char) :=
  let name := cs.takeWhile isNameChar
  let rest := cs.drop name.length
  if name ≠ [] ∧ slashes.isPrefixOf rest then some (name, rest.drop 3) else none

def afterLastAt? (cs : List Char) : Option (List Char) :=
  let tail := cs.reverse.takeWhile (· != '@')
  if tail.length < cs.length then some tail.reverse else none

/-- What follows user name and password. A password may hold slashes and ends at the first at sign. -/
def afterUser (cs : List Char) : List Char :=
  let user := cs.takeWhile fun c => c != ':' && c != '/'
  let rest := cs.drop user.length
  match rest with
  | ':' :: behind =>
    match behind.dropWhile (· != '@') with
    | _ :: after => after
    | [] => ((afterLastAt? user).map (· ++ rest)).getD cs
  | _ => ((afterLastAt? user).map (· ++ rest)).getD cs

def afterHost (cs : List Char) : List Char :=
  let plain (cs : List Char) : List Char := cs.dropWhile fun c => c != '/' && c != ':' && c != '?'
  match cs with
  | '[' :: rest =>
    let inside := rest.takeWhile fun c => c != '/' && c != '?'
    let tail := inside.reverse.takeWhile (· != ']')
    if tail.length + 1 < inside.length then tail.reverse ++ rest.drop inside.length else plain cs
  | _ => plain cs

def hostNumber (cs : List Char) : List Char :=
  match afterHost (afterUser cs) with
  | ':' :: rest => rest.takeWhile fun c => c != '/' && c != '?'
  | _ => []

def targetOf (name : String) : Outcome Connector.Target :=
  match name.toList.splitOn '+' with
  | dialect :: driver :: _ => .ok ⟨name, .ofList dialect, .ofList driver⟩
  | _ =>
    match defaultDrivers.lookup name with
    | some driver => .ok ⟨name, name, driver⟩
    | none =>
      .error (.mk (.reported (.toolkit "NoSuchModuleError")
        ("Can't load plugin: sqlalchemy.dialects:" ++ name)) {} none none)

def nameIn (url : String) : Outcome String := do
  match splitName? url.toList with
  | none =>
    throw (.mk (.reported (.toolkit "ArgumentError")
      "Could not parse SQLAlchemy URL from given URL string") {} none none)
  | some (name, rest) =>
    let number := hostNumber rest
    if number ≠ [] then
      discard (liftM (wholeOf number (.text (String.ofList number))) : Outcome Int)
    return String.ofList name

def toolkit : Connector.Toolkit := { nameIn, targetOf }

end RecordStore.Script
