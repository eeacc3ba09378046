import RecordStore.Query.Filter
import RecordStore.Query.Order
import RecordStore.Query.Page

/-!
Finding records takes two statements: one selects a page of the rows, the other counts all rows that
the conditions let through. Both have the same conditions and share one list of bound values.
-/

namespace RecordStore.Query
open Sql

/-- The parts of a search. `keys` are the slots of the primary keys it is restricted to. -/
structure Search where
  table : Identifier
  keyColumn : Identifier
  keys : Option (List Slot)
  filter : List Condition
  projection : Projection
  order : List SortKey
  page : Page

namespace Search

def conditions (search : Search) : List Condition :=
  match search.keys with
  | some slots => .test (.oneOf search.keyColumn slots) :: search.filter
  | none => search.filter

def whereClause (search : Search) : Fragment :=
  match Condition.whereFragment? search.conditions with
  | some fragment => .text " where " :: fragment
  | none => []

def source (search : Search) : Fragment :=
  .text (" from " ++ search.table.quoted) :: search.whereClause

def clause (text : String) : Fragment := if text.isEmpty then [] else .ofText (" " ++ text)

def selectFragment (search : Search) : Fragment :=
  .text "select " :: search.projection.fragment ++ search.source ++
    clause (orderText search.order) ++ clause search.page.text

def countFragment (search : Search) : Fragment := .text "select count(*)" :: search.source

def selectSql (search : Search) : String := Fragment.sql search.selectFragment

def countSql (search : Search) : String := Fragment.sql search.countFragment

end Search

/-- The filter among the options of a search: the entries of operators, in the operators' own order. -/
def filterEntries (options : Value) : Outcome (List (Value × Value)) := do
  let found ← Operator.all.mapM fun operator => do
    if ← options.mentions operator.name then
      match options with
      | .map entries =>
        return (Value.lookup operator.name entries).map fun v => (Value.text operator.name, v)
      | v => throw (.ofMisuse (.notIndexable v.shape))
    else return none
  return found.filterMap id

def optionValue (options : Value) (name : String) : Except Misuse Value :=
  (options.field? name).map (·.getD .null)

def search (type : RecordType) (keys : Option Value) (options : Value) : Binding Search := do
  let options := if options.holds then options else .map []
  let slots ← keys.mapM fun keys => do (← keys.elements).mapM bindEncoded
  let filter ← entryConditions type (← Binding.ofOutcome (filterEntries options))
  let projection ← Binding.ofOutcome (projection type (← optionValue options "fields"))
  let order ← Binding.ofOutcome (order type (← optionValue options "sort"))
  let page ← Binding.ofOutcome (Page.ofOptions options)
  return { table := type.name, keyColumn := type.key, keys := slots, filter, projection, order, page }

end RecordStore.Query
