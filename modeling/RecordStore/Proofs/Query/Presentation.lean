import RecordStore.Adapter.Find
import RecordStore.Proofs.Query.SearchLexemes
import RecordStore.Proofs.Query.SearchShape
import RecordStore.Proofs.Query.SearchText

/-!
# Conditions and presentation

Both statements of a search have the same conditions. Columns, order and page stand in the selecting one only and bind
nothing, so options that agree on the operators count the same, whichever way their entries are arranged and whatever else
they hold.
-/

namespace RecordStore.Sql.Fragment

theorem sql_append (first second : Fragment) : sql (first ++ second) = first.sql ++ second.sql := by
  rw [sql, List.map_append, String.join_append]
  rfl

theorem sql_text (s : String) (rest : Fragment) : sql (.text s :: rest) = s ++ rest.sql := String.join_cons

end RecordStore.Sql.Fragment

namespace RecordStore.Query
open Sql Binding
open Adapter (FindStatements findStatements)

variable {type : RecordType} {options options' : Value}

/-! ### Options -/

/-- Values that have the same under every of these names, null standing for what is missing. -/
def AgreeOn (names : List String) (options options' : Value) : Prop :=
  ∀ name ∈ names, options.fieldValue name = options'.fieldValue name

def filterNames : List String := Operator.all.map Operator.name

def presentationNames : List String := ["fields", "sort", "limit", "offset"]

theorem fieldValue_holding (options : Value) (name : String) :
    (if options.holds then options else .map []).fieldValue name = options.fieldValue name := by
  rw [Value.fieldValue, ownEntries_holding, Value.fieldValue]

theorem ofValue_name (operator : Operator) : Operator.ofValue (.text operator.name) = .ok operator := by
  cases operator <;> rfl

/-- An operator with nothing to ask for may as well be left out. -/
theorem entryConditions_asked (operators : List Operator) (options : Value) :
    entryConditions type (operators.filterMap fun operator =>
        (Value.lookup operator.name options.ownEntries).map fun v => (.text operator.name, v)) =
      entryConditions type (operators.map fun operator => (.text operator.name, options.fieldValue operator.name)) := by
  induction operators with
  | nil => rfl
  | cons operator rest ih =>
    rw [List.map_cons]
    cases found : Value.lookup operator.name options.ownEntries with
    | none =>
      have missing : options.fieldValue operator.name = .null := by rw [Value.fieldValue, found]; rfl
      rw [List.filterMap_cons_none (by rw [found]; rfl), ih, missing, entryConditions, ofValue_name]
      exact (bind_pure _).symm
    | some v =>
      have there : options.fieldValue operator.name = v := by rw [Value.fieldValue, found]; rfl
      rw [List.filterMap_cons_some (by rw [found]; rfl), there, entryConditions, entryConditions, ih]

theorem AgreeOn.entryConditions (same : AgreeOn filterNames options options') :
    entryConditions type (operatorEntries options) = entryConditions type (operatorEntries options') := by
  unfold operatorEntries
  rw [entryConditions_asked, entryConditions_asked]
  refine congrArg _ (List.map_congr_left fun operator member => ?_)
  rw [same operator.name (List.mem_map_of_mem member)]

/-! ### Presentation -/

/-- How found rows are presented: which columns of them, in which order, and which page. -/
structure Presentation where
  projection : Projection
  order : List SortKey
  page : Page

/-- The count that a value stands for; null stands for none. -/
def Counts (v : Value) (n : Nat) : Prop := v = .null ∧ n = 0 ∨ v = .int n

/-- The presentation that options ask for. -/
structure Presentation.Asked (type : RecordType) (options : Value) (presentation : Presentation) : Prop where
  projection : Query.projection type (options.fieldValue "fields") = .ok presentation.projection
  order : Query.order type (options.fieldValue "sort") = .ok presentation.order
  limit : Counts (options.fieldValue "limit") presentation.page.limit
  offset : Counts (options.fieldValue "offset") presentation.page.offset

namespace Presentation

def orderClause (presentation : Presentation) : String :=
  if presentation.order = [] then "" else " order by " ++ ", ".intercalate (presentation.order.map SortKey.text)

def countClause (word : String) (n : Nat) : String := if n = 0 then "" else " " ++ word ++ " " ++ toString n

/-- What stands behind the conditions. -/
def clauses (presentation : Presentation) : String :=
  presentation.orderClause ++ countClause "limit" presentation.page.limit ++ countClause "offset" presentation.page.offset

theorem Asked.unique {first second : Presentation} (asked : first.Asked type options) (other : second.Asked type options')
    (same : AgreeOn presentationNames options options') : first = second := by
  have counted : ∀ {v : Value} {n m : Nat}, Counts v n → Counts v m → n = m := by
    rintro v n m (⟨rfl, rfl⟩ | rfl) (⟨null, rfl⟩ | int)
    · rfl
    · cases int
    · cases null
    · exact Int.ofNat.inj (Value.int.inj int)
  obtain ⟨columns, keys, ⟨limit, offset⟩⟩ := first
  obtain ⟨columns', keys', ⟨limit', offset'⟩⟩ := second
  have projected := asked.projection
  have ordered := asked.order
  have limited := asked.limit
  have skipped := asked.offset
  rw [same _ (by decide)] at projected ordered limited skipped
  obtain rfl : columns = columns' := Except.ok.inj (projected.symm.trans other.projection)
  obtain rfl : keys = keys' := Except.ok.inj (ordered.symm.trans other.order)
  obtain rfl : limit = limit' := counted limited other.limit
  obtain rfl : offset = offset' := counted skipped other.offset
  rfl

end Presentation

/-- The clause that restricts a statement to rows that pass all conditions. -/
def restriction (conditions : List Condition) : String :=
  match whereText? conditions with
  | some text => " where " ++ text
  | none => ""

/-- The two statements of a search with these conditions and this presentation. -/
structure States (type : RecordType) (conditions : List Condition) (presentation : Presentation)
    (statements : FindStatements) : Prop where
  count : statements.count = "select count(*) from " ++ type.name.quoted ++ restriction conditions
  select : statements.select = "select " ++ presentation.projection.sql ++ " from " ++ type.name.quoted ++
    restriction conditions ++ presentation.clauses

namespace Search

theorem sql_order (keys : List SortKey) : (clause (orderText keys)).sql =
    if keys = [] then "" else " order by " ++ ", ".intercalate (keys.map SortKey.text) := by
  cases keys with
  | nil => rfl
  | cons key rest =>
    rw [if_neg (List.cons_ne_nil _ _)]
    refine String.ext ?_
    rw [Fragment.toList_sql, orderText, if_neg (by simp), chars_clause (by simp), String.toList_append, String.toList_append,
      ← List.append_assoc]
    rfl

theorem sql_page (page : Page) : (clause page.text).sql =
    Presentation.countClause "limit" page.limit ++ Presentation.countClause "offset" page.offset := by
  have counted : ∀ word n, (Presentation.countClause word n).toList = countChars word n := by
    intro word n
    unfold Presentation.countClause countChars
    split
    · rfl
    · simp only [String.toList_append, List.append_assoc]
  refine String.ext ?_
  rw [Fragment.toList_sql, Page.chars_clause_text, String.toList_append, counted, counted]

theorem sql_source (search : Search) :
    search.source.sql = " from " ++ search.table.quoted ++ restriction search.conditions := by
  rw [source, Fragment.sql_text, whereClause, restriction, whereText?]
  cases Condition.whereFragment? search.conditions with
  | none => rfl
  | some fragment => exact congrArg _ (Fragment.sql_text _ _)

theorem states (search : Search) (table : search.table = type.name) (params : List Value) :
    States type search.conditions ⟨search.projection, search.order, search.page⟩
      ⟨search.selectSql, search.countSql, params⟩ := by
  constructor
  · rw [countSql, countFragment, Fragment.sql_text, sql_source, table, ← String.append_assoc, ← String.append_assoc]
    rfl
  · rw [selectSql, selectFragment, Fragment.sql_append, Fragment.sql_append, Fragment.sql_append, sql_source, sql_order,
      sql_page, table, Fragment.sql_text]
    simp only [Projection.sql, Presentation.clauses, Presentation.orderClause, String.append_assoc]

end Search

/-! ### Two searches -/

variable {keys : Value} {statements statements' : FindStatements}

/-- What the statements of a search come from, the presentation apart from the conditions. -/
theorem findStatements_parts (built : findStatements type keys options = .ok statements) :
    ∃ (search : Search) (middle : ParameterList),
      ((if keys.isNull then none else some keys).mapM bindKeys).runFrom [] = (.ok search.keys, middle) ∧
      (entryConditions type (operatorEntries options)).runFrom middle = (.ok search.filter, statements.params) ∧
      search.keyColumn = type.key ∧ Presentation.Asked type options ⟨search.projection, search.order, search.page⟩ ∧
      States type search.conditions ⟨search.projection, search.order, search.page⟩ statements := by
  unfold findStatements at built
  rcases ran : (search type (if keys.isNull then none else some keys) options).runFrom [] with ⟨outcome, params⟩
  rw [ran] at built
  obtain ⟨search, rfl, rfl⟩ := map_ok built
  have parts := search_parts ran
  obtain ⟨middle, entries, bound, found, compiled⟩ := parts.bound
  have filter : entries = operatorEntries options := by
    rw [filterEntries_ok found, operatorEntries, ownEntries_holding, operatorEntries]
  refine ⟨search, middle, bound, filter ▸ compiled, parts.keyColumn, ?_, search.states parts.table params⟩
  obtain ⟨fields, named, projected⟩ := parts.projection
  obtain ⟨sort, sorted, ordered⟩ := parts.order
  obtain ⟨limit, offset⟩ := ofOptions_ok parts.page
  rw [optionValue_ok named, fieldValue_holding] at projected
  rw [optionValue_ok sorted, fieldValue_holding] at ordered
  exact ⟨projected, ordered, fieldValue_holding options _ ▸ count_ok limit, fieldValue_holding options _ ▸ count_ok offset⟩

/-- Two searches with options that agree on the operators have the same conditions and values; what else the options ask
for shows in the selecting statement only, around its conditions. Options that agree on that as well are one search. -/
theorem searches_differ_in_presentation (same : AgreeOn filterNames options options')
    (built : findStatements type keys options = .ok statements) (built' : findStatements type keys options' = .ok statements') :
    statements.count = statements'.count ∧ statements.params = statements'.params ∧
      (∃ conditions presentation presentation',
        Presentation.Asked type options presentation ∧ States type conditions presentation statements ∧
        Presentation.Asked type options' presentation' ∧ States type conditions presentation' statements') ∧
      (AgreeOn presentationNames options options' → statements = statements') := by
  obtain ⟨search, middle, bound, compiled, column, asked, states⟩ := findStatements_parts built
  obtain ⟨search', middle', bound', compiled', column', asked', states'⟩ := findStatements_parts built'
  obtain ⟨slots, rfl⟩ := Prod.mk.inj (bound.symm.trans bound')
  rw [same.entryConditions] at compiled
  obtain ⟨filter, params⟩ := Prod.mk.inj (compiled.symm.trans compiled')
  have conditions : search.conditions = search'.conditions := by
    rw [Search.conditions, Search.conditions, column, column', Except.ok.inj slots, Except.ok.inj filter]
  rw [← conditions] at states'
  have count : statements.count = statements'.count := states.count.trans states'.count.symm
  refine ⟨count, params, ⟨_, _, _, asked, states, asked', states'⟩, fun agree => ?_⟩
  have presented := asked.unique asked' agree
  rw [← presented] at states'
  have select : statements.select = statements'.select := states.select.trans states'.select.symm
  cases statements
  cases statements'
  rw [FindStatements.mk.injEq]
  exact ⟨select, count, params⟩

/-- The headings of the articles with some label, a page of them at a time. -/
def headingOptions : Value := .map [(.text "fields", .map [(.text "heading", .bool true)]), (.text "limit", .int 5),
  (.text "not", .map [(.text "match", .map [(.text "labels", .text "a")])]),
  (.text "range", .map [(.text "labels", .list [.int 1, .null])])]

/-- The same articles, all of their columns and the longest list of labels first. -/
def orderedOptions : Value := .map [(.text "range", .map [(.text "labels", .list [.int 1, .null])]), (.text "comment", .int 1),
  (.text "exists", .null), (.text "sort", .map [(.text "labels", .bool false)]), (.text "offset", .int 0),
  (.text "not", .map [(.text "match", .map [(.text "labels", .text "a")])])]

theorem ordered_as_headings : AgreeOn filterNames headingOptions orderedOptions ∧ ∃ statements statements',
    findStatements articleSample .null headingOptions = .ok statements ∧
      findStatements articleSample .null orderedOptions = .ok statements' ∧ statements.params = [.int 1, .text "a"] ∧
      statements.count = statements'.count ∧ statements.params = statements'.params ∧
      statements.select = "select \"slug\", \"heading\" from \"article\" where coalesce(array_length(\"labels\", 1), 0) >= $1 " ++
        "and not (\"labels\" @> array[$2]) limit 5" := by
  have same : AgreeOn filterNames headingOptions orderedOptions := by
    intro name member
    simp only [filterNames, Operator.all, List.map_cons, List.map_nil, List.mem_cons, List.not_mem_nil, or_false] at member
    rcases member with rfl | rfl | rfl | rfl | rfl | rfl | rfl <;> rfl
  have alike := @searches_differ_in_presentation articleSample headingOptions orderedOptions .null _ _ same rfl rfl
  exact ⟨same, _, _, rfl, rfl, rfl, alike.1, alike.2.1, rfl⟩

end RecordStore.Query
