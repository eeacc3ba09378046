import RecordStore.Sql.Binding

/-!
Updating one record. Replacing sets a column, pushing appends to an array and pulling takes elements out
of it; a column named by several of them gets one assignment that nests them in that order. Columns are
not looked up in the record type: the store reports those it does not have.
-/

namespace RecordStore.Mutation
open Sql

inductive Expression where
  | column (name : Identifier)
  | value (slot : Slot)
  | concat (base : Expression) (items : Slot)
  | append (base : Expression) (item : Slot)
  | without (base : Expression) (items : List Slot)
  | remove (base : Expression) (item : Slot)

namespace Expression

def fragment : Expression → Fragment
  | column name => .ofIdentifier name
  | value slot => slot.fragment
  | concat base items => .text "array_cat(" :: (base.fragment ++ .text ", " :: items.fragment ++ [.text ")"])
  | append base item => .text "array_append(" :: (base.fragment ++ .text ", " :: item.fragment ++ [.text ")"])
  | without base items =>
    .text "array(select x from unnest(" :: (base.fragment ++
      .text ") as x where x not in (" :: Fragment.ofSlots items ++ [.text "))"])
  | remove base item => .text "array_remove(" :: (base.fragment ++ .text ", " :: item.fragment ++ [.text ")"])

end Expression

/-- The expression of each column that is set, in the order in which columns were first named. -/
abbrev Assignments := List (Identifier × Expression)

namespace Assignments

def expression? (column : Identifier) (assignments : Assignments) : Option Expression :=
  (List.find? (·.1 == column) assignments).map (·.2)

def set (column : Identifier) (expression : Expression) : Assignments → Assignments
  | [] => [(column, expression)]
  | (c, e) :: rest => if c = column then (c, expression) :: rest else (c, e) :: set column expression rest

/-- What a column will hold: what it was set to so far, or what it holds. -/
def current (assignments : Assignments) (column : Identifier) : Expression :=
  (assignments.expression? column).getD (.column column)

end Assignments

structure Update where
  table : Identifier
  assignments : Assignments
  keyColumn : Identifier
  key : Slot

namespace Update

def assignmentFragment (column : Identifier) (expression : Expression) : Fragment :=
  .text (column.quoted ++ " = ") :: expression.fragment

def fragment (update : Update) : Fragment :=
  .text ("update " ++ update.table.quoted ++ " set ") ::
    (Fragment.join ", " (update.assignments.map fun (column, e) => assignmentFragment column e) ++
      .text (" where " ++ update.keyColumn.quoted ++ " = ") :: update.key.fragment)

def sql (update : Update) : String := Fragment.sql update.fragment

end Update

def partEntries (update : Value) (part : String) : Except Misuse (List (Value × Value)) := do
  let value := (← update.field? part).getD .null
  if value.holds then value.entries else return []

def replace (type : RecordType) (assignments : Assignments) (name value : Value) : Binding Assignments := do
  if name.isText type.key.text then
    Binding.refuse (.invalidOption (.text ("replace." ++ name.shown)) "the primary key cannot be changed")
  let column ← Identifier.ofValue name
  return assignments.set column (.value (← bindArrayOrValue value))

def push (assignments : Assignments) (name value : Value) : Binding Assignments := do
  let column ← Identifier.ofValue name
  let base := assignments.current column
  if value.sequence?.isSome then
    return assignments.set column (.concat base (← bindArrayOrValue value))
  else
    return assignments.set column (.append base (← bindEncoded value))

/-- Taking out no elements changes nothing. Several elements are bound before the name is looked at. -/
def pull (assignments : Assignments) (name value : Value) : Binding Assignments := do
  match value.sequence? with
  | some [] => return assignments
  | some items =>
    let slots ← items.mapM bindEncoded
    let column ← Identifier.ofValue name
    return assignments.set column (.without (assignments.current column) slots)
  | none =>
    let column ← Identifier.ofValue name
    let base := assignments.current column
    return assignments.set column (.remove base (← bindEncoded value))

def applyPart (step : Assignments → Value → Value → Binding Assignments) (update : Value) (part : String)
    (assignments : Assignments) : Binding Assignments := do
  let entries ← partEntries update part
  entries.foldlM (fun done (name, value) => step done name value) assignments

def updateKey (type : RecordType) (update : Value) : Outcome Value := do
  match ← update.field? type.key.text with
  | none | some .null =>
    throw (.ofError (.invalidOption (.text type.key.text) "every update needs the primary key of its record"))
  | some key => return key

def update (type : RecordType) (update : Value) : Binding (Option Update) := do
  let key ← Binding.ofOutcome (updateKey type update)
  let replaced ← applyPart (replace type) update "replace" []
  let pushed ← applyPart push update "push" replaced
  let assignments ← applyPart pull update "pull" pushed
  if assignments.isEmpty then return none
  return some { table := type.name, assignments, keyColumn := type.key, key := ← bind key }

end RecordStore.Mutation
