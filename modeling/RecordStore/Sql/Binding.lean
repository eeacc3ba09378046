import RecordStore.Record.Codec
import RecordStore.Sql.Fragment

/-!
The values bound to a statement. A statement has one list of them, every part of the statement appends
to that list, and the slot of a value carries the place that the value got; so slots are numbered in
the order of binding. Values bound before a failure stay bound.
-/

namespace RecordStore.Sql

abbrev ParameterList := List Value

/-- Building of statement text that binds values and may fail. -/
abbrev Binding := ExceptT Failure (StateM ParameterList)

namespace Binding

def runFrom {α : Type} (build : Binding α) (values : ParameterList) : Outcome α × ParameterList :=
  (ExceptT.run build).run values

def refuse {α : Type} (error : AdapterError) : Binding α := throw (.ofError error)

def misuse {α : Type} (misuse : Misuse) : Binding α := throw (.ofMisuse misuse)

def ofOutcome {α : Type} (outcome : Outcome α) : Binding α := ExceptT.mk (pure outcome)

instance : MonadLift (Except Misuse) Binding where
  monadLift result := ofOutcome (liftM result)

instance : MonadLift (Except AdapterError) Binding where
  monadLift result := ofOutcome (liftM result)

end Binding

def bind (value : Value) (cast : String := "") : Binding Slot :=
  modifyGet fun values => (⟨values.length + 1, cast⟩, values ++ [value])

def bindEncoded (value : Value) : Binding Slot := do
  bind (← value.encoded)

/-- The type that an array element is cast to, so that the array gets a usable type. -/
def elementCast : Value → String
  | .bytes .. => "::bytea"
  | .int _ => "::int"
  | .float x => if x.isWhole then "::int" else ""
  | _ => ""

def bindElement (value : Value) : Binding Slot := do
  bind (← value.encoded) (elementCast value)

def bindArrayOrValue (value : Value) : Binding Slot := do
  match value.sequence? with
  | some items => bind (.list (← liftM (items.mapM Value.encoded)))
  | none => bindEncoded value

end RecordStore.Sql
