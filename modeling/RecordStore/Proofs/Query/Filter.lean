import RecordStore.Query.Filter

/-!
# Filters step by step

The rules by which filters are compiled, with their steps in plain sequence.
-/

namespace RecordStore.Query
open Sql

variable {type : RecordType}

def rangeEnd (bound : Value) (test : Slot → Test) : Binding (List Test) :=
  if bound.isNull then pure [] else do return [test (← bindEncoded bound)]

theorem rangeTests_eq (name bounds : Value) :
    rangeTests type name bounds = (do
      let (lower, upper) ← Binding.ofOutcome (rangeEnds name bounds)
      let (column, field) ← (liftM (type.column name) : Binding (Identifier × Field))
      let least ← rangeEnd lower (.atLeast ⟨column, field.isArray⟩)
      let most ← rangeEnd upper (.atMost ⟨column, field.isArray⟩)
      return least ++ most) := by
  refine bind_congr fun (lower, upper) => bind_congr fun (column, field) => ?_
  unfold rangeEnd
  dsimp only
  cases lower.isNull <;> cases upper.isNull <;> simp

/-- The operators that test columns, each with the rule that it goes through entries with. -/
inductive ColumnRule (type : RecordType) : Operator → (Value → Value → Binding (List Test)) → Prop where
  | fits : ColumnRule type .fits fun name value => do return [← matchTest type name value]
  | within : ColumnRule type .within (rangeTests type)
  | present : ColumnRule type .present fun name value => do return [← existsTest type name value]
  | contains : ColumnRule type .contains fun name value => do return [← containsTest type name value]

theorem columnConditions_rule {operator : Operator} {compile : Value → Binding (List Condition)}
    (h : columnConditions type operator = some compile) :
    ∃ rule, ColumnRule type operator rule ∧ compile = eachEntry rule := by
  cases operator with
  | fits =>
    cases h
    exact ⟨_, .fits, rfl⟩
  | within =>
    cases h
    exact ⟨_, .within, rfl⟩
  | present =>
    cases h
    exact ⟨_, .present, rfl⟩
  | contains =>
    cases h
    exact ⟨_, .contains, rfl⟩
  | every => cases h
  | either => cases h
  | negation => cases h

/-- What becomes of one entry. -/
def operatorConditions (type : RecordType) (operator : Operator) (v : Value) : Binding (List Condition) :=
  if v.isNull then pure []
  else
    match columnConditions type operator, operator with
    | some compile, _ => compile v
    | none, .either => do return Condition.joined? .any (← children type v)
    | none, .negation => do return ((Condition.conjunction? (← conditions type v)).map .negated).toList
    | none, _ => do return Condition.joined? .all (← children type v)

theorem entryConditions_cons (key v : Value) (rest : List (Value × Value)) :
    entryConditions type ((key, v) :: rest) = (do
      let operator ← (liftM (Operator.ofValue key) : Binding Operator)
      let first ← operatorConditions type operator v
      let others ← entryConditions type rest
      return first ++ others) := by
  rw [entryConditions]
  refine bind_congr fun operator => ?_
  unfold operatorConditions
  cases v.isNull with
  | true => simp
  | false => cases operator <;> simp [columnConditions]

theorem conditions_other {v : Value} (noMap : ∀ entries, v = .map entries → False) :
    conditions type v = if v.holds then Binding.misuse (.notMap v.shape) else pure [] := by
  rw [conditions]
  exact noMap

theorem children_other {v : Value} (noMap : ∀ entries, v = .map entries → False)
    (noList : ∀ items, v = .list items → False) (noTuple : ∀ items, v = .tuple items → False) :
    children type v = (do emptyFilters (← (liftM v.elements : Binding (List Value)))) := by
  rw [children]
  · exact noMap
  · exact noList
  · exact noTuple

/-- A record type with a text and an array of texts. -/
def articleSample : RecordType where
  name := ⟨"article", by decide⟩
  key := ⟨"slug", by decide⟩
  fields := [(⟨"heading", by decide⟩, { kind := .text }), (⟨"labels", by decide⟩, { kind := .text, isArray := true })]
  nodup_fields := by decide
  key_not_field := by decide

end RecordStore.Query
