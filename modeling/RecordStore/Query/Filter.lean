import RecordStore.Sql.Binding
import RecordStore.Sql.Condition

/-!
Filters: maps from operators to what they ask for, compiled to conditions. Entries all have to hold and
are compiled in their order; an entry that is null asks for nothing. Values only ever get into the
statement by being bound.
-/

namespace RecordStore.Query
open Sql

inductive Operator where
  | fits
  | within
  | present
  | contains
  | every
  | either
  | negation
  deriving DecidableEq

namespace Operator

def all : List Operator := [fits, within, present, contains, every, either, negation]

def name : Operator → String
  | fits => "match"
  | within => "range"
  | present => "exists"
  | contains => "contains"
  | every => "and"
  | either => "or"
  | negation => "not"

def ofValue? (key : Value) : Option Operator :=
  key.string?.bind fun s => all.find? (·.name == s)

def ofValue (key : Value) : Except AdapterError Operator :=
  match ofValue? key with
  | some operator => .ok operator
  | none => .error (.invalidOption key ("expected one of " ++ ", ".intercalate (all.map name)))

end Operator

/-- A column equals a value or one of several; an array column holds every one of them. -/
def matchTest (type : RecordType) (name value : Value) : Binding Test := do
  let (column, field) ← type.column name
  if field.isArray then
    match value.sequence?.getD [value] with
    | [] => return .always
    | values => return .holdsAll column (← values.mapM bindElement)
  else
    match value.sequence? with
    | some [] => return .never
    | some values => return .oneOf column (← values.mapM bindEncoded)
    | none => return .equal column (← bindEncoded value)

def rangeEnds (name bounds : Value) : Outcome (Value × Value) :=
  match bounds.sequence? with
  | some [lower, upper] => .ok (lower, upper)
  | _ => do
    let shown ← name.shownText
    Outcome.refuse (.invalidOption (.text ("range." ++ shown)) "expected a [lower, upper] pair")

/-- A column, or the length of an array column, lies between two bounds. -/
def rangeTests (type : RecordType) (name bounds : Value) : Binding (List Test) := do
  let (lower, upper) ← Binding.ofOutcome (rangeEnds name bounds)
  let (column, field) ← type.column name
  let operand : Operand := ⟨column, field.isArray⟩
  let least ← if lower.isNull then pure [] else do pure [Test.atLeast operand (← bindEncoded lower)]
  let most ← if upper.isNull then pure [] else do pure [Test.atMost operand (← bindEncoded upper)]
  return least ++ most

def existsTest (type : RecordType) (name wanted : Value) : Except AdapterError Test := do
  let (column, field) ← type.column name
  return match field.isArray, wanted.holds with
    | true, true => .hasElements column
    | true, false => .hasNoElements column
    | false, true => .isSet column
    | false, false => .isUnset column

/-- A value stands somewhere in a text column or in an element of an array column, whatever the case.
Pattern characters inside the value keep their meaning. -/
def containsTest (type : RecordType) (name value : Value) : Binding Test := do
  let field ← type.field name
  let column ← Identifier.ofValue name
  let shown ← value.shownText
  let pattern ← bind (.text ("%" ++ shown ++ "%"))
  return if field.isArray then .anyLike column pattern else .like column pattern

def eachEntry (rule : Value → Value → Binding (List Test)) (v : Value) : Binding (List Condition) := do
  let entries ← v.entries
  let tests ← entries.mapM fun (name, value) => rule name value
  return tests.flatten.map .test

/-- How an operator that tests columns is compiled. The others join filters. -/
def columnConditions (type : RecordType) : Operator → Option (Value → Binding (List Condition))
  | .fits => some (eachEntry fun name value => do pure [← matchTest type name value])
  | .within => some (eachEntry (rangeTests type))
  | .present => some (eachEntry fun name value => do pure [← existsTest type name value])
  | .contains => some (eachEntry fun name value => do pure [← containsTest type name value])
  | _ => none

/-- What becomes of values in place of filters that can be gone through but are no maps: those that
hold nothing ask for nothing. -/
def emptyFilters : List Value → Binding (List Condition)
  | [] => return []
  | v :: rest => if v.holds then Binding.misuse (.notMap v.shape) else emptyFilters rest

mutual

def conditions (type : RecordType) : Value → Binding (List Condition)
  | .map entries => entryConditions type entries
  | v => if v.holds then Binding.misuse (.notMap v.shape) else return []

def entryConditions (type : RecordType) : List (Value × Value) → Binding (List Condition)
  | [] => return []
  | (key, v) :: rest => do
    let operator ← Operator.ofValue key
    let first ←
      if v.isNull then pure []
      else
        match columnConditions type operator, operator with
        | some compile, _ => compile v
        | none, .either => do pure (Condition.joined? .any (← children type v))
        | none, .negation => do pure ((Condition.conjunction? (← conditions type v)).map .negated).toList
        | none, _ => do pure (Condition.joined? .all (← children type v))
    let others ← entryConditions type rest
    return first ++ others

def children (type : RecordType) : Value → Binding (List Condition)
  | .map entries => do return (Condition.conjunction? (← entryConditions type entries)).toList
  | .list items => childConditions type items
  | .tuple items => childConditions type items
  | v => do emptyFilters (← v.elements)

def childConditions (type : RecordType) : List Value → Binding (List Condition)
  | [] => return []
  | v :: rest => do
    let first ← conditions type v
    let others ← childConditions type rest
    return (Condition.conjunction? first).toList ++ others

end

def whereText? (conditions : List Condition) : Option String :=
  (Condition.whereFragment? conditions).map Fragment.sql

end RecordStore.Query
