import RecordStore.Value.Equality
import RecordStore.Script.Yaml.Node
import RecordStore.Script.Yaml.Scalar

/-!
A stand-in for the reader of YAML files: the value of a text. Keys of mappings cannot be lists or mappings, of two entries with one key the
last value wins, and a merge entry puts the entries of other mappings behind those of its own.
-/

namespace RecordStore.Script.Yaml

def isAllowed (c : Char) : Bool :=
  let n := c.toNat
  n == 9 || n == 10 || n == 13 || (0x20 ≤ n && n ≤ 0x7e) || n == 0x85 || (0xa0 ≤ n && n ≤ 0xd7ff) ||
    (0xe000 ≤ n && n ≤ 0xfffd) || 0x10000 ≤ n

def withPlainLineEnds : List Char → List Char
  | '\r' :: '\n' :: rest => '\n' :: withPlainLineEnds rest
  | '\r' :: rest => '\n' :: withPlainLineEnds rest
  | c :: rest => c :: withPlainLineEnds rest
  | [] => []

def standardName? (tag : List Char) : Option String :=
  if Reading.standardTag.isPrefixOf tag then
    some (String.ofList (tag.drop Reading.standardTag.length))
  else none

def boolWord? (text : List Char) : Option Bool :=
  let word := String.ofList (text.map Char.toLower)
  if ["yes", "true", "on"].contains word then some true
  else if ["no", "false", "off"].contains word then some false
  else none

def taggedFloat (text : List Char) : Except Fault Value :=
  let digits := (signed (withoutLines text)).2
  match float? text, Numeral.read? digits with
  | some x, _ => .ok (.float x)
  | none, some n => .ok (.float (n.toBinary64.withSign (signed text).1))
  | none, none => 
    .error (.foreign "ValueError" ("could not convert string to float: " ++ (Value.text (String.ofList digits).toLower).literal))

def taggedScalar (tag text : List Char) : Except Fault Value :=
  match standardName? tag with
  | some "str" => .ok (.text (String.ofList text))
  | some "null" => .ok .null
  | some "bool" =>
    match boolWord? text with
    | some b => .ok (.bool b)
    | none => .error (.raised (.ofMisuse (.missingKey (.text (String.ofList text)))))
  | some "int" =>
    let digits := String.ofList (signed (withoutLines text)).2
    intValue ((int? text).getD (.error (.wholeNumber 10 (.text digits))))
  | some "float" => taggedFloat text
  | _ => .error .malformed

def isMergeKey : Node → Bool
  | .scalar none text true => text == ['<', '<']
  | _ => false

def isPlainTag (tag : Option (List Char)) (name : String) : Bool :=
  match tag with
  | none => true
  | some tag => tag == ['!'] || standardName? tag == some name

def isDefaultKey : Node → Bool
  | .scalar none text true => text == ['=']
  | _ => false

mutual

def valueOf : Node → Except Fault Value
  | .scalar none text plain => if plain then plainValue text else .ok (.text (String.ofList text))
  | .scalar (some tag) text _ => taggedScalar tag text
  | .sequence tag items =>
    if isPlainTag tag "seq" then (valuesOf items).map .list else .error .malformed
  | .mapping tag entries =>
    if isPlainTag tag "map" then do
      let merged ← mergeValues entries
      let own ← entryValues entries
      return .map (Value.entriesOf (merged ++ own))
    else .error .malformed

def valuesOf : List Node → Except Fault (List Value)
  | [] => .ok []
  | node :: rest => do
    let v ← valueOf node
    let others ← valuesOf rest
    return v :: others

def entryValues : List (Node × Node) → Except Fault (List (Value × Value))
  | [] => .ok []
  | (key, value) :: rest => do
    if isMergeKey key then entryValues rest
    else
      let k ← if isDefaultKey key then pure (.text "=") else valueOf key
      if !k.isStable then throw .malformed
      let v ← valueOf value
      let others ← entryValues rest
      return (k, v) :: others

/-- What the merge entries of a mapping bring in: nothing but mappings, and lists of them. -/
def mergeValues : List (Node × Node) → Except Fault (List (Value × Value))
  | [] => .ok []
  | (key, value) :: rest => do
    let first ←
      if isMergeKey key then
        match value with
        | .mapping _ entries => do
          let merged ← mergeValues entries
          let own ← entryValues entries
          pure (merged ++ own)
        | .sequence _ items => mergeItems items
        | .scalar .. => throw .malformed
      else pure []
    let others ← mergeValues rest
    return first ++ others

def mergeItems : List Node → Except Fault (List (Value × Value))
  | [] => .ok []
  | .mapping _ entries :: rest => do
    let merged ← mergeValues entries
    let own ← entryValues entries
    let others ← mergeItems rest
    return others ++ (merged ++ own)
  | _ :: _ => .error .malformed

end

/-- The value of a text; a text without a document means nothing. `nesting` is how deep lists and
mappings may nest, if there is a limit. -/
def read (nesting : Option Nat) (s : String) : Except Fault Value := do
  let cs := withPlainLineEnds s.toList
  if !cs.all isAllowed then throw .malformed
  match ← Node.ofText nesting cs with
  | some node => valueOf node
  | none => return .null

end RecordStore.Script.Yaml
