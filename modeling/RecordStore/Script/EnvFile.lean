import RecordStore.Settings.Load
import RecordStore.Text.Blank

/-!
A stand-in for the reader of files that set environment variables: one assignment a line, with an optional word "export" in front.
Values may stand in quotes, where they may have escapes and span lines; without quotes a comment ends
them. A line that is no assignment is skipped. A dollar sign with a name in curly brackets stands for
the value of a variable, or for the default behind a colon and a dash.
-/

namespace RecordStore.Script.EnvFile
open Text

structure Assignment where
  name : List Char
  value : Option (List Char)
  deriving DecidableEq

def withPlainLineEnds : List Char → List Char
  | '\r' :: '\n' :: rest => '\n' :: withPlainLineEnds rest
  | '\r' :: rest => '\n' :: withPlainLineEnds rest
  | c :: rest => c :: withPlainLineEnds rest
  | [] => []

def isLineEnd (c : Char) : Bool := c == '\n'

def isSpace (c : Char) : Bool := isBlank c && !isLineEnd c

def skipSpaces (cs : List Char) : List Char := cs.dropWhile isSpace

def skipLine (cs : List Char) : List Char := (cs.dropWhile (!isLineEnd ·)).drop 1

/-- Behind the word that may stand before an assignment. -/
def skipExport (cs : List Char) : List Char :=
  if "export".toList.isPrefixOf cs then
    let rest := cs.drop 6
    if (rest.head?.map isSpace).getD false then skipSpaces rest else cs
  else cs

def isKeyChar (c : Char) : Bool := c != '=' && c != '#' && !isBlank c

def key (cs : List Char) : Except (List Char) (Option (List Char) × List Char) :=
  match cs with
  | '#' :: _ => .ok (none, cs)
  | '\'' :: rest =>
    let name := rest.takeWhile (· != '\'')
    match rest.drop name.length with
    | _ :: behind => if name = [] then .error cs else .ok (some name, behind)
    | [] => .error cs
  | _ =>
    let name := cs.takeWhile isKeyChar
    if name = [] then .error cs else .ok (some name, cs.drop name.length)

def quotedUpTo? (mark : Char) : List Char → Option (List Char × List Char)
  | [] => none
  | '\\' :: c :: rest =>
    if c = mark then
      match quotedUpTo? mark rest with
      | some (inner, behind) => some ('\\' :: c :: inner, behind)
      | none => some (['\\'], rest)
    else (quotedUpTo? mark (c :: rest)).map fun (inner, behind) => ('\\' :: inner, behind)
  | c :: rest =>
    if c = mark then some ([], rest)
    else (quotedUpTo? mark rest).map fun (inner, behind) => (c :: inner, behind)

def escaped? (c : Char) : Option Char :=
  [('\\', 92), ('\'', 39), ('"', 34), ('a', 7), ('b', 8), ('f', 12), ('n', 10), ('r', 13), ('t', 9),
    ('v', 11)].lookup c |>.map Char.ofNat

def isQuoteOrBackslash (c : Char) : Bool := c == '\\' || c == '\''

def unescape (meaning? : Char → Option Char) : List Char → List Char
  | '\\' :: c :: rest =>
    match meaning? c with
    | some d => d :: unescape meaning? rest
    | none => '\\' :: unescape meaning? (c :: rest)
  | c :: rest => c :: unescape meaning? rest
  | [] => []

def beforeComment : List Char → List Char
  | [] => []
  | c :: rest =>
    if isBlank c && ((c :: rest).dropWhile isBlank).head? == some '#' then [] else c :: beforeComment rest

def withoutTrailingBlanks (cs : List Char) : List Char := (cs.reverse.dropWhile isBlank).reverse

/-- Reads of parts give what was read and what is left, or only what is left where they fail. -/
def value (cs : List Char) : Except (List Char) (List Char × List Char) :=
  match cs with
  | '\'' :: rest =>
    match quotedUpTo? '\'' rest with
    | some (inner, behind) =>
      .ok (unescape (fun c => if isQuoteOrBackslash c then some c else none) inner, behind)
    | none => .error cs
  | '"' :: rest =>
    match quotedUpTo? '"' rest with
    | some (inner, behind) => .ok (unescape escaped? inner, behind)
    | none => .error cs
  | _ =>
    let line := cs.takeWhile (!isLineEnd ·)
    .ok (withoutTrailingBlanks (beforeComment line), cs.drop line.length)

def lineEnd (cs : List Char) : Except (List Char) (List Char) :=
  let rest := skipSpaces cs
  let rest := match rest with
    | '#' :: _ => rest.dropWhile (!isLineEnd ·)
    | _ => rest
  match rest with
  | c :: rest => if isLineEnd c then .ok rest else .error (c :: rest)
  | [] => .ok []

def assignment (cs : List Char) : Except (List Char) (Option Assignment × List Char) := do
  let (name, rest) ← key (skipExport cs)
  let rest := skipSpaces rest
  let (value, rest) ← match rest with
    | '=' :: rest => (value (skipSpaces rest)).map fun (v, rest) => (some v, rest)
    | _ => .ok (none, rest)
  let rest ← lineEnd rest
  return (name.map fun name => ⟨name, value⟩, rest)

def assignmentsFrom : Nat → List Char → List Assignment
  | 0, _ => []
  | fuel + 1, cs =>
    match cs.dropWhile isBlank with
    | [] => []
    | cs =>
      match assignment cs with
      | .ok (found, rest) => found.toList ++ assignmentsFrom fuel rest
      | .error rest => assignmentsFrom fuel (skipLine rest)

def assignments (cs : List Char) : List Assignment :=
  assignmentsFrom (cs.length + 1) (withPlainLineEnds cs)

/-! ### Variables inside values -/

inductive Piece where
  | plain (c : Char)
  | reference (name default : List Char)
  deriving DecidableEq

def closing : Char := '\x7d'

def braced? (cs : List Char) : Option (List Char × List Char × List Char) :=
  let name := cs.takeWhile fun c => c != closing && c != ':'
  match cs.drop name.length with
  | ':' :: '-' :: rest =>
    let default := rest.takeWhile (· != closing)
    match rest.drop default.length with
    | _ :: behind => some (name, default, behind)
    | [] => none
  | c :: behind => if c = closing then some (name, [], behind) else none
  | [] => none

def piecesFrom : Nat → List Char → List Piece
  | 0, _ => []
  | _ + 1, [] => []
  | fuel + 1, c :: rest =>
    match c, rest with
    | '$', '\x7b' :: inner =>
      match braced? inner with
      | some (name, default, behind) => .reference name default :: piecesFrom fuel behind
      | none => .plain c :: piecesFrom fuel rest
    | _, _ => .plain c :: piecesFrom fuel rest

def pieces (cs : List Char) : List Piece := piecesFrom cs.length cs

def expanded (lookup : List Char → Option (List Char)) (value : List Char) : List Char :=
  (pieces value).flatMap fun
    | .plain c => [c]
    | .reference name default => (lookup name).getD default

/-! ### Variables of the process -/

/-- What the assignments of a file come to, each with the variables in its value replaced. A variable
of the process is never overridden, in values either. -/
def resolved (environment : List (String × String)) (assignments : List Assignment) :
    List (String × Option String) :=
  assignments.foldl (fun done assignment =>
    let lookup (name : List Char) : Option (List Char) :=
      let name := String.ofList name
      ((environment.lookup name).map String.toList).or
        ((done.lookup name).map fun value => (value.getD "").toList)
    let value := assignment.value.map fun value => String.ofList (expanded lookup value)
    (String.ofList assignment.name, value) :: done) []

def added (environment : List (String × String)) (text : String) : List (String × String) :=
  let values := resolved environment (assignments text.toList)
  let names := (values.reverse.map (·.1)).eraseDups.filter fun name => (environment.lookup name).isNone
  names.filterMap fun name => (values.lookup name).join.map fun value => (name, value)

def fault? (name value : String) : Option Text :=
  if name.toList.contains (Char.ofNat 0) || value.toList.contains (Char.ofNat 0) then some "embedded null byte"
  else if name.toList.contains '=' then some "illegal environment variable name"
  else none

def load (file : Option String) (environment : Settings.Environment) : Except Failure Settings.Environment :=
  let known := environment.filterMap fun (name, value) => do return (← name.string?, ← value.string?)
  let added := (file.map (added known)).getD []
  match added.findSome? fun (name, value) => fault? name value with
  | some fault => .error (.mk (.reported (.foreign "ValueError") fault) {} none none)
  | none => .ok (environment ++ added.map fun (name, value) => (.whole name, .whole value))

end RecordStore.Script.EnvFile
