import Mathlib.Data.List.Basic
import Mathlib.Logic.Function.Basic
import RecordStore.Proofs.Error.Outcome
import RecordStore.Schema.Table

/-!
# What becomes of a database in which room is made

A table is created with its columns unless it is there, and a column is added unless the table has one of its name. So a
table that was made room in has all columns that it had, of the types that they had, and those of the declared fields that
it did not have. Making room a second time changes nothing.
-/

namespace RecordStore.Schema

/-- A table: the types of its columns, by their names. -/
@[ext]
structure Table where
  type? : String → Option String

/-- The tables that are there, by their names. -/
@[ext]
structure Database where
  table? : String → Option Table

namespace Table

def empty : Table := ⟨fun _ => none⟩

/-- A column is added unless there is one of its name. -/
def add (table : Table) (column : Column) : Table :=
  ⟨fun name => (table.type? name).or (if column.name.text = name then some column.type else none)⟩

def addAll (table : Table) (columns : List Column) : Table := columns.foldl add table

end Table

namespace Statement

def table : Statement → Identifier
  | createTable table _ _ => table
  | addColumn table _ => table

/-- What becomes of the table that a statement is about. Without the table no column can be added to it. -/
def effect : Statement → Option Table → Option Table
  | createTable _ key columns, none => some (Table.empty.addAll (key :: columns))
  | createTable _ _ _, some table => some table
  | addColumn _ column, table => table.map (·.add column)

end Statement

namespace Database

/-- A statement can be performed unless it adds a column to a table that is not there. -/
def Allows (db : Database) : Statement → Prop
  | .createTable .. => True
  | .addColumn table _ => (db.table? table.text).isSome

def perform (db : Database) (statement : Statement) : Database :=
  ⟨Function.update db.table? statement.table.text (statement.effect (db.table? statement.table.text))⟩

def performAll (db : Database) (statements : List Statement) : Database := statements.foldl perform db

theorem table?_perform_own (db : Database) (statement : Statement) :
    (db.perform statement).table? statement.table.text = statement.effect (db.table? statement.table.text) :=
  Function.update_self ..

theorem table?_perform_other {db : Database} {statement : Statement} {name : String} (apart : name ≠ statement.table.text) :
    (db.perform statement).table? name = db.table? name :=
  Function.update_of_ne apart ..

/-- What becomes of a table depends on the statements about it alone, in their order. -/
theorem table?_performAll (db : Database) (statements : List Statement) (name : String) :
    (db.performAll statements).table? name =
      (statements.filter (·.table.text = name)).foldl (fun table statement => statement.effect table) (db.table? name) := by
  induction statements generalizing db with
  | nil => rfl
  | cons statement rest ih =>
    refine (ih (db.perform statement)).trans ?_
    by_cases own : statement.table.text = name
    · subst own
      rw [List.filter_cons_of_pos (by simp), List.foldl_cons, table?_perform_own]
    · rw [List.filter_cons_of_neg (by simpa using own), table?_perform_other (Ne.symm own)]

end Database

theorem Statement.isSome_effect {statement : Statement} {table : Option Table} (there : table.isSome) :
    (statement.effect table).isSome := by
  cases table with
  | none => cases there
  | some table => cases statement <;> rfl

/-- A table that was created stays. -/
theorem Database.isSome_performAll {db : Database} {statements : List Statement} {table : Identifier} {key : Column}
    {columns : List Column} (created : .createTable table key columns ∈ statements) :
    ((db.performAll statements).table? table.text).isSome := by
  have stays (later : List Statement) (now : Option Table) (there : now.isSome) :
      (later.foldl (fun table statement => statement.effect table) now).isSome := by
    induction later generalizing now with
    | nil => exact there
    | cons statement rest ih => exact ih _ (Statement.isSome_effect there)
  -- Right after the statement the table is there, whatever was before.
  obtain ⟨before, after, rfl⟩ := List.append_of_mem created
  rw [table?_performAll, List.filter_append, List.filter_cons_of_pos (by simp [Statement.table]), List.foldl_append,
    List.foldl_cons]
  generalize (before.filter _).foldl _ (db.table? table.text) = first
  exact stays _ _ (by cases first <;> rfl)

theorem Database.allows_of_isSome {db : Database} {statement : Statement} (there : (db.table? statement.table.text).isSome) :
    db.Allows statement := by
  cases statement with
  | createTable => trivial
  | addColumn => exact there

/-! ### Adding columns -/

/-- The type of the first column with a name. -/
def typeOf? (columns : List Column) (name : String) : Option String :=
  (columns.find? (·.name.text = name)).map (·.type)

theorem typeOf?_cons (column : Column) (rest : List Column) (name : String) :
    typeOf? (column :: rest) name = (if column.name.text = name then some column.type else none).or (typeOf? rest name) := by
  rw [typeOf?, List.find?_cons]
  by_cases own : column.name.text = name
  · simp [own]
  · simp [own, typeOf?]

theorem Table.type?_addAll (table : Table) (columns : List Column) (name : String) :
    (table.addAll columns).type? name = (table.type? name).or (typeOf? columns name) := by
  induction columns generalizing table with
  | nil => exact Option.or_none.symm
  | cons column rest ih =>
    refine (ih (table.add column)).trans ?_
    rw [typeOf?_cons, Table.add, Option.or_assoc]

/-- Columns that are there already are not added. -/
theorem Table.addAll_there {table : Table} {columns : List Column}
    (there : ∀ name, (typeOf? columns name).isSome → (table.type? name).isSome) : table.addAll columns = table := by
  refine Table.ext (funext fun name => ?_)
  rw [type?_addAll]
  cases own : table.type? name with
  | some type => rfl
  | none =>
    cases new : typeOf? columns name with
    | none => rfl
    | some type =>
      have known := there name (by rw [new]; rfl)
      rw [own] at known
      cases known

/-! ### Making room for the records of a type -/

variable {type : RecordType} {key : Kind} {assigned : Bool} {columns : List Column} {statements : List Statement}

theorem mem_columns (made : Schema.columns type key = .ok columns) {column : Column} :
    column ∈ columns ↔ ∃ field, (column.name, field) ∈ type.fields ∧ field.columnType key = .ok column.type := by
  rw [mem_mapM made]
  constructor
  · rintro ⟨⟨name, field⟩, member, made⟩
    obtain ⟨text, typed, same⟩ := bind_ok made
    obtain rfl := pure_ok same
    exact ⟨field, member, typed⟩
  · rintro ⟨field, member, typed⟩
    refine ⟨(column.name, field), member, ?_⟩
    dsimp only
    rw [typed]
    rfl

/-- The statements for a type create its table with a column for each field, and then add each of these columns. -/
theorem statements_made (made : Schema.statements type key assigned = .ok statements) : ∃ keyText columns,
    keyType key assigned = .ok keyText ∧ Schema.columns type key = .ok columns ∧
      statements = .createTable type.name ⟨type.key, keyText⟩ columns :: columns.map (.addColumn type.name) := by
  obtain ⟨keyText, keyed, made⟩ := bind_ok made
  obtain ⟨columns, all, made⟩ := bind_ok made
  exact ⟨keyText, columns, keyed, all, (pure_ok made).symm⟩

theorem storageType_total {key : Kind} (allowed : key ∈ Kind.keyKinds) (kind : Kind) :
    ∃ text, kind.storageType key = .ok text := by
  cases kind with
  | scalar =>
    cases key with
    | scalar => exact absurd allowed (by decide)
    | _ => exact ⟨_, rfl⟩
  | _ => exact ⟨_, rfl⟩

theorem keyType_total {key : Kind} (allowed : key ∈ Kind.keyKinds) (assigned : Bool) :
    ∃ text, keyType key assigned = .ok text := by
  cases assigned with
  | false => exact storageType_total (by decide) key
  | true =>
    cases key with
    | text | number => exact ⟨_, rfl⟩
    | _ => exact absurd allowed (by decide)

theorem columnType_total {key : Kind} (allowed : key ∈ Kind.keyKinds) (field : Field) :
    ∃ text, field.columnType key = .ok text := by
  obtain ⟨text, typed⟩ := storageType_total allowed field.kind
  refine ⟨if field.isArray then text ++ "[]" else text, ?_⟩
  unfold Field.columnType
  rw [typed]
  rfl

/-- Every record type has its statements, whichever of the kinds that keys may have its key is of. -/
theorem statements_total {key : Kind} (allowed : key ∈ Kind.keyKinds) (assigned : Bool) (type : RecordType) :
    ∃ statements, Schema.statements type key assigned = .ok statements := by
  obtain ⟨text, keyed⟩ := keyType_total allowed assigned
  have columns : ∃ columns, Schema.columns type key = .ok columns := by
    apply mapM_total
    rintro ⟨name, field⟩ _
    obtain ⟨column, typed⟩ := columnType_total allowed field
    refine ⟨⟨name, column⟩, ?_⟩
    dsimp only
    rw [typed]
    rfl
  obtain ⟨columns, all⟩ := columns
  unfold Schema.statements
  rw [keyed, all]
  exact ⟨_, rfl⟩

/-- What is not the statement that creates the table comes after it. -/
theorem created_before (made : Schema.statements type key assigned = .ok statements) {before after : List Statement}
    {statement : Statement} (split : statements = before ++ statement :: after) :
    (∃ key columns, statement = .createTable type.name key columns) ∨
      ∃ key columns, .createTable type.name key columns ∈ before := by
  obtain ⟨keyText, columns, -, -, rfl⟩ := statements_made made
  cases before with
  | nil => exact .inl ⟨_, _, (List.cons.inj split).1.symm⟩
  | cons first rest =>
    obtain ⟨rfl, -⟩ := List.cons.inj split
    exact .inr ⟨_, _, List.mem_cons_self⟩

theorem table_of_statements (made : Schema.statements type key assigned = .ok statements) :
    ∀ statement ∈ statements, statement.table = type.name := by
  obtain ⟨keyText, columns, -, -, rfl⟩ := statements_made made
  intro statement member
  rcases List.mem_cons.1 member with rfl | later
  · rfl
  · obtain ⟨column, -, rfl⟩ := List.mem_map.1 later
    rfl

/-- A table after the statements that make room in it. -/
def withRoom (key : Column) (columns : List Column) : Option Table → Table
  | none => Table.empty.addAll (key :: columns)
  | some table => table.addAll columns

theorem isSome_withRoom {key : Column} (before : Option Table) {name : String} (declared : (typeOf? columns name).isSome) :
    ((withRoom key columns before).type? name).isSome := by
  cases before with
  | none =>
    rw [withRoom, Table.type?_addAll, typeOf?_cons, Option.isSome_or, Option.isSome_or, declared, Bool.or_true, Bool.or_true]
  | some table => rw [withRoom, Table.type?_addAll, Option.isSome_or, declared, Bool.or_true]

theorem foldl_addColumn (name : Identifier) (columns : List Column) (table : Table) :
    (columns.map (.addColumn name)).foldl (fun table statement => Statement.effect statement table) (some table) =
      some (table.addAll columns) := by
  induction columns generalizing table with
  | nil => rfl
  | cons column rest ih => exact ih (table.add column)

/-- A table that was created has all the columns that are added to it later. -/
theorem foldl_statements (name : Identifier) (key : Column) (columns : List Column) (before : Option Table) :
    (Statement.createTable name key columns :: columns.map (.addColumn name)).foldl
      (fun table statement => statement.effect table) before = some (withRoom key columns before) := by
  cases before with
  | none =>
    rw [List.foldl_cons, Statement.effect, foldl_addColumn]
    exact congrArg some (Table.addAll_there fun name => isSome_withRoom none)
  | some table => exact foldl_addColumn name columns table

theorem withRoom_again (key : Column) (columns : List Column) (before : Option Table) :
    withRoom key columns (some (withRoom key columns before)) = withRoom key columns before :=
  Table.addAll_there fun _ => isSome_withRoom before

/-- A table that was made room in for the records of a type: every field has its column, the columns that were there are as
they were, and the others have the types that the fields tell. Only a new table gets a key column. -/
structure HasRoom (type : RecordType) (key : Kind) (assigned : Bool) (before : Option Table) (after : Table) : Prop where
  declared : ∀ entry ∈ type.fields, (after.type? entry.1.text).isSome
  keyed : before = none → ∃ text, keyType key assigned = .ok text ∧ after.type? type.key.text = some text
  kept : ∀ name text, before.bind (·.type? name) = some text → after.type? name = some text
  added : ∀ name text, before.bind (·.type? name) = none → after.type? name = some text →
    (∃ entry ∈ type.fields, entry.1.text = name ∧ entry.2.columnType key = .ok text) ∨
      before = none ∧ name = type.key.text ∧ keyType key assigned = .ok text

theorem typeOf?_some (made : Schema.columns type key = .ok columns) {name text : String}
    (found : typeOf? columns name = some text) :
    ∃ entry ∈ type.fields, entry.1.text = name ∧ entry.2.columnType key = .ok text := by
  obtain ⟨column, first, rfl⟩ := Option.map_eq_some_iff.1 found
  obtain ⟨field, member, typed⟩ := (mem_columns made).1 (List.mem_of_find?_eq_some first)
  exact ⟨_, member, by simpa using List.find?_some first, typed⟩

theorem typeOf?_declared (made : Schema.columns type key = .ok columns) {entry : Identifier × Field}
    (member : entry ∈ type.fields) : (typeOf? columns entry.1.text).isSome := by
  obtain ⟨i, place⟩ := List.mem_iff_getElem?.1 member
  obtain ⟨column, found, typed⟩ := (mapM_ok_iff.1 made).2 i _ place
  obtain ⟨text, -, same⟩ := bind_ok typed
  obtain rfl := pure_ok same
  rw [typeOf?, Option.isSome_map, List.find?_isSome]
  exact ⟨_, List.mem_of_getElem? found, by simp⟩

theorem hasRoom_withRoom {keyText : String} (keyed : keyType key assigned = .ok keyText)
    (made : Schema.columns type key = .ok columns) (before : Option Table) :
    HasRoom type key assigned before (withRoom ⟨type.key, keyText⟩ columns before) where
  declared entry member := isSome_withRoom before (typeOf?_declared made member)
  keyed fresh := by
    subst fresh
    refine ⟨keyText, keyed, ?_⟩
    rw [withRoom, Table.type?_addAll, typeOf?_cons, if_pos rfl]
    rfl
  kept name text had := by
    cases before with
    | none => cases had
    | some table =>
      rw [withRoom, Table.type?_addAll]
      change table.type? name = some text at had
      rw [had]
      rfl
  added name text lacked has := by
    cases before with
    | none =>
      rw [withRoom, Table.type?_addAll, typeOf?_cons] at has
      change (if type.key.text = name then some keyText else none).or (typeOf? columns name) = some text at has
      split at has
      · rename_i own
        cases has
        exact .inr ⟨rfl, own.symm, keyed⟩
      · exact .inl (typeOf?_some made has)
    | some table =>
      rw [withRoom, Table.type?_addAll] at has
      change table.type? name = none at lacked
      rw [lacked] at has
      exact .inl (typeOf?_some made has)

/-! ### Several types -/

/-- A database in which room was made for the records of some types, and nothing else was done. -/
structure Prepared (types : List RecordType) (key : Kind) (assigned : Bool) (before after : Database) : Prop where
  room : ∀ type ∈ types, ∃ table, after.table? type.name.text = some table ∧
    HasRoom type key assigned (before.table? type.name.text) table
  others : ∀ name, name ∉ types.map (·.name.text) → after.table? name = before.table? name

section Several

variable {types : List RecordType} {all : List (List Statement)} {db : Database}

theorem filter_others (made : types.mapM (Schema.statements · key assigned) = .ok all) {name : String}
    (absent : name ∉ types.map (·.name.text)) : all.flatten.filter (·.table.text = name) = [] := by
  rw [List.filter_eq_nil_iff]
  intro statement member
  obtain ⟨own, among, inside⟩ := List.mem_flatten.1 member
  obtain ⟨type, listed, built⟩ := (mem_mapM made).1 among
  rw [table_of_statements built statement inside, decide_eq_true_iff]
  rintro rfl
  exact absent (List.mem_map_of_mem listed)

/-- The statements about a table are those for its type. -/
theorem filter_own (distinct : (types.map (·.name.text)).Nodup)
    (made : types.mapM (Schema.statements · key assigned) = .ok all) (member : type ∈ types)
    (own : Schema.statements type key assigned = .ok statements) :
    all.flatten.filter (·.table.text = type.name.text) = statements := by
  have whole {type : RecordType} {statements : List Statement} (built : Schema.statements type key assigned = .ok statements) :
      statements.filter (·.table.text = type.name.text) = statements :=
    List.filter_eq_self.2 fun statement inside => by rw [table_of_statements built statement inside, decide_eq_true rfl]
  induction types generalizing all with
  | nil => cases member
  | cons first rest ih =>
    rw [List.mapM_cons] at made
    obtain ⟨here, built, made⟩ := bind_ok made
    obtain ⟨others, more, made⟩ := bind_ok made
    cases made
    obtain ⟨apart, distinct⟩ := List.nodup_cons.1 distinct
    rw [List.flatten_cons, List.filter_append]
    rcases List.mem_cons.1 member with rfl | later
    · cases built.symm.trans own
      rw [whole own, filter_others more apart, List.append_nil]
    · have none : here.filter (·.table.text = type.name.text) = [] := by
        rw [List.filter_eq_nil_iff]
        intro statement inside
        rw [table_of_statements built statement inside, decide_eq_true_iff]
        intro same
        exact apart (List.mem_map.2 ⟨type, later, same.symm⟩)
      rw [none, List.nil_append]
      exact ih distinct more later

theorem table?_own (distinct : (types.map (·.name.text)).Nodup)
    (made : types.mapM (Schema.statements · key assigned) = .ok all) (member : type ∈ types) :
    ∃ keyText columns, keyType key assigned = .ok keyText ∧ Schema.columns type key = .ok columns ∧
      ∀ db : Database, (db.performAll all.flatten).table? type.name.text =
        some (withRoom ⟨type.key, keyText⟩ columns (db.table? type.name.text)) := by
  obtain ⟨i, place⟩ := List.mem_iff_getElem?.1 member
  obtain ⟨statements, -, built⟩ := (mapM_ok_iff.1 made).2 i type place
  have own := filter_own distinct made member built
  obtain ⟨keyText, columns, keyed, listed, rfl⟩ := statements_made built
  refine ⟨keyText, columns, keyed, listed, fun db => ?_⟩
  rw [Database.table?_performAll, own, foldl_statements]

theorem prepared_performAll (distinct : (types.map (·.name.text)).Nodup)
    (made : types.mapM (Schema.statements · key assigned) = .ok all) :
    Prepared types key assigned db (db.performAll all.flatten) where
  room type member := by
    obtain ⟨keyText, columns, keyed, listed, own⟩ := table?_own distinct made member
    exact ⟨_, own db, hasRoom_withRoom keyed listed _⟩
  others name absent := by
    rw [Database.table?_performAll, filter_others made absent]
    rfl

theorem performAll_again (distinct : (types.map (·.name.text)).Nodup)
    (made : types.mapM (Schema.statements · key assigned) = .ok all) :
    (db.performAll all.flatten).performAll all.flatten = db.performAll all.flatten := by
  refine Database.ext (funext fun name => ?_)
  by_cases among : name ∈ types.map (·.name.text)
  · obtain ⟨type, member, rfl⟩ := List.mem_map.1 among
    obtain ⟨keyText, columns, -, -, own⟩ := table?_own distinct made member
    rw [own, own, withRoom_again]
  · rw [Database.table?_performAll, filter_others made among]
    rfl

end Several

end RecordStore.Schema
