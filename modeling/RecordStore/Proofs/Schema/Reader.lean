import RecordStore.Proofs.Schema.Database
import RecordStore.Proofs.Sql.Lexeme

/-!
# Statements that make room are read as they were written

The text of a statement that creates a table or adds a column is read back as this statement, as long as no column type has
a comma in it.
-/

namespace RecordStore.Schema

open RecordStore.Sql

/-! ### Parts of texts -/

/-- What stands behind a word that a text starts with. -/
def behind? (word cs : List Char) : Option (List Char) := if word.isPrefixOf cs then some (cs.drop word.length) else none

/-- What stands before a word that a text ends with. -/
def before? (word cs : List Char) : Option (List Char) :=
  if word.isSuffixOf cs then some (cs.take (cs.length - word.length)) else none

theorem behind?_append (word cs : List Char) : behind? word (word ++ cs) = some cs := by
  rw [behind?, if_pos (List.isPrefixOf_iff_prefix.2 (List.prefix_append word cs)), List.drop_left]

theorem before?_append (cs word : List Char) : before? word (cs ++ word) = some cs := by
  rw [before?, if_pos (List.isSuffixOf_iff_suffix.2 (List.suffix_append cs word)), List.length_append,
    Nat.add_sub_cancel, List.take_left]

theorem behind?_other {word cs : List Char} {c d : Char} (first : word.head? = some c) (other : cs.head? = some d)
    (apart : c ≠ d) : behind? word cs = none := by
  cases word with
  | nil => cases first
  | cons _ word =>
    cases cs with
    | nil => cases other
    | cons _ cs =>
      cases first
      cases other
      simp [behind?, apart]

/-- A name in quotes at the start of a text, and what follows it. -/
def name? (cs : List Char) : Option (Identifier × List Char) := do
  let rest ← behind? ['"'] cs
  let name ← Identifier.ofText? (String.ofList (rest.takeWhile (· != '"')))
  return (name, ← behind? ['"'] (rest.dropWhile (· != '"')))

theorem name?_quoted (name : Identifier) (rest : List Char) : name? (name.quoted.toList ++ rest) = some (name, rest) := by
  have inside : ∀ c ∈ name.text.toList, (c != '"') = true := fun c member =>
    bne_iff_ne.2 (identifier_avoids name rfl (by decide) c member)
  have whole : name.quoted.toList ++ rest = ['"'] ++ (name.text.toList ++ (['"'] ++ rest)) := by
    simp [Identifier.quoted, String.toList_append]
  have taken : (name.text.toList ++ (['"'] ++ rest)).takeWhile (· != '"') = name.text.toList := by
    rw [List.takeWhile_append_of_pos inside]
    simp
  have left : (name.text.toList ++ (['"'] ++ rest)).dropWhile (· != '"') = ['"'] ++ rest := by
    rw [List.dropWhile_append_of_pos inside]
    rfl
  have known : Identifier.ofText? (String.ofList name.text.toList) = some name := by
    rw [String.ofList_toList, Identifier.ofText?, dif_pos name.valid]
  unfold name?
  rw [whole, behind?_append, Option.bind_eq_bind, Option.bind_some, taken, left, known, Option.bind_eq_bind, Option.bind_some,
    behind?_append]
  rfl

namespace Column

def read? (cs : List Char) : Option Column := do
  let (name, rest) ← name? cs
  return ⟨name, String.ofList (← behind? [' '] rest)⟩

theorem read?_text (column : Column) : read? column.text.toList = some column := by
  have whole : column.text.toList = column.name.quoted.toList ++ ([' '] ++ column.type.toList) := by
    rw [text, String.toList_append, String.toList_append, List.append_assoc]
    rfl
  rw [read?, whole, name?_quoted, Option.bind_eq_bind, Option.bind_some]
  dsimp only
  rw [behind?_append, Option.bind_eq_bind, Option.bind_some, String.ofList_toList]
  rfl

/-- A column behind a comma. -/
def readListed? (cs : List Char) : Option Column := do read? (← behind? [' '] cs)

theorem mapM_readListed? (columns : List Column) :
    (columns.map fun column => ' ' :: column.text.toList).mapM readListed? = some columns := by
  induction columns with
  | nil => rfl
  | cons column rest ih =>
    have first : readListed? (' ' :: column.text.toList) = some column := by
      have past : behind? [' '] (' ' :: column.text.toList) = some column.text.toList := behind?_append [' '] _
      rw [readListed?, past]
      exact read?_text column
    rw [List.map_cons, List.mapM_cons, first, ih]
    rfl

/-- A column whose type has no comma in it. -/
def Plain (column : Column) : Prop := ',' ∉ column.type.toList

theorem Plain.text {column : Column} (plain : column.Plain) : ',' ∉ column.text.toList := by
  intro member
  simp only [Column.text, Identifier.quoted, String.toList_append, List.mem_append] at member
  rcases member with (((quote | inside) | quote) | space) | type
  · exact absurd quote (by decide)
  · exact identifier_avoids column.name rfl (by decide) _ inside rfl
  · exact absurd quote (by decide)
  · exact absurd space (by decide)
  · exact plain type

end Column

theorem intercalate_cons_head (c : Char) (cs separator : List Char) (rest : List (List Char)) :
    separator.intercalate ((c :: cs) :: rest) = c :: separator.intercalate (cs :: rest) := by
  cases rest with
  | nil => simp
  | cons next rest => simp [List.intercalate_cons_cons]

/-- Texts with commas between them, each comma with a space behind it. -/
theorem toList_listed (first : String) (rest : List String) : (", ".intercalate (first :: rest)).toList =
    [','].intercalate (first.toList :: rest.map fun s => ' ' :: s.toList) := by
  induction rest generalizing first with
  | nil => simp
  | cons second rest ih =>
    rw [String.intercalate_cons_cons, String.toList_append, ih, List.map_cons, List.intercalate_cons_cons,
      intercalate_cons_head, String.toList_append, List.append_assoc, List.append_assoc]
    rfl

namespace Statement

abbrev createWords : List Char := "create table if not exists ".toList

abbrev keyWords : List Char := " primary key".toList

/-- The table, its key and its other columns, behind the words that a creation starts with. -/
def readCreate? (cs : List Char) : Option Statement := do
  let (table, rest) ← name? cs
  match (← before? ")".toList (← behind? " (".toList rest)).splitOn ',' with
  | key :: columns =>
    let key ← Column.read? (← before? keyWords key)
    return .createTable table key (← columns.mapM Column.readListed?)
  | [] => none

def readAdd? (cs : List Char) : Option Statement := do
  let (table, rest) ← name? (← behind? "alter table ".toList cs)
  return .addColumn table (← Column.read? (← behind? " add column if not exists ".toList rest))

/-- The statement that a text stands for. -/
def read? (text : String) : Option Statement :=
  match behind? createWords text.toList with
  | some rest => readCreate? rest
  | none => readAdd? text.toList

def Plain : Statement → Prop
  | createTable _ key columns => key.Plain ∧ ∀ column ∈ columns, column.Plain
  | addColumn .. => True

theorem sql_createTable (table : Identifier) (key : Column) (columns : List Column) : (createTable table key columns).sql =
    "create table if not exists " ++ table.quoted ++ " (" ++
      ", ".intercalate ((key.text ++ " primary key") :: columns.map Column.text) ++ ")" := rfl

theorem sql_addColumn (table : Identifier) (column : Column) : (addColumn table column).sql =
    "alter table " ++ table.quoted ++ " add column if not exists " ++ column.text := rfl

theorem read?_sql {statement : Statement} (plain : statement.Plain) : read? statement.sql = some statement := by
  cases statement with
  | addColumn table column =>
    have whole : (addColumn table column).sql.toList = "alter table ".toList ++ (table.quoted.toList ++
        (" add column if not exists ".toList ++ column.text.toList)) := by
      simp only [sql_addColumn, String.toList_append, List.append_assoc]
    have other (cs : List Char) : behind? createWords ("alter table ".toList ++ cs) = none :=
      behind?_other (c := 'c') (d := 'a') rfl rfl (by decide)
    simp only [read?, other, readAdd?, whole, behind?_append, name?_quoted, Column.read?_text, Option.bind_eq_bind,
      Option.bind_some]
    rfl
  | createTable table key columns =>
    have whole : (createTable table key columns).sql.toList = createWords ++ (table.quoted.toList ++ (" (".toList ++
        ([','].intercalate ((key.text.toList ++ keyWords) :: columns.map fun column => ' ' :: column.text.toList) ++
          ")".toList))) := by
      simp only [sql_createTable, String.toList_append, List.append_assoc, toList_listed, List.map_map,
        Function.comp_def]
    have pieces : ∀ piece ∈ (key.text.toList ++ keyWords) :: columns.map fun column => ' ' :: column.text.toList,
        ',' ∉ piece := by
      intro piece member comma
      rcases List.mem_cons.1 member with rfl | other
      · rcases List.mem_append.1 comma with inside | inside
        · exact plain.1.text inside
        · exact absurd inside (by decide)
      · obtain ⟨column, among, rfl⟩ := List.mem_map.1 other
        rcases List.mem_cons.1 comma with space | inside
        · exact absurd space (by decide)
        · exact (plain.2 column among).text inside
    simp only [read?, readCreate?, whole, behind?_append, name?_quoted, before?_append,
      List.splitOn_intercalate _ pieces (List.cons_ne_nil _ _), Column.read?_text, Column.mapM_readListed?, Option.bind_eq_bind,
      Option.bind_some]
    rfl

end Statement

/-! ### The statements for record types -/

section Types
variable {kind key : Kind} {assigned : Bool} {text : String}

/-- The column types of the kinds that have one of their own. -/
def ownTexts : List String := Kind.all.filterMap Kind.ownType?

/-- All column types: those of single values, those of arrays, and those of keys that the store assigns. -/
def typeTexts : List String :=
  ownTexts ++ (ownTexts.map (· ++ "[]") ++ ["text default gen_random_uuid()::text", "bigint generated by default as identity"])

theorem ownType_mem (typed : kind.ownType = .ok text) : text ∈ ownTexts := by
  cases kind <;> cases typed <;> decide

theorem storageType_mem (typed : kind.storageType key = .ok text) : text ∈ ownTexts := by
  cases kind with
  | scalar => exact @ownType_mem key text typed
  | _ =>
    cases typed
    decide

theorem columnType_mem {field : Field} (typed : field.columnType key = .ok text) : text ∈ typeTexts := by
  obtain ⟨single, stored, same⟩ := bind_ok typed
  obtain rfl := pure_ok same
  have own := storageType_mem stored
  split
  · exact List.mem_append_right _ (List.mem_append_left _ (List.mem_map_of_mem own))
  · exact List.mem_append_left _ own

theorem keyType_mem (keyed : keyType key assigned = .ok text) : text ∈ typeTexts := by
  cases assigned with
  | false => exact List.mem_append_left _ (storageType_mem keyed)
  | true => cases key <;> cases keyed <;> decide +kernel

theorem typeTexts_plain : ∀ text ∈ typeTexts, ',' ∉ text.toList := by decide +kernel

end Types

theorem statements_plain {type : RecordType} {key : Kind} {assigned : Bool} {statements : List Statement}
    (made : Schema.statements type key assigned = .ok statements) : ∀ statement ∈ statements, statement.Plain := by
  obtain ⟨keyText, columns, keyed, all, rfl⟩ := statements_made made
  intro statement member
  rcases List.mem_cons.1 member with rfl | later
  · refine ⟨typeTexts_plain _ (keyType_mem keyed), fun column among => ?_⟩
    obtain ⟨field, -, typed⟩ := (mem_columns all).1 among
    exact typeTexts_plain _ (columnType_mem typed)
  · obtain ⟨column, -, rfl⟩ := List.mem_map.1 later
    trivial

end RecordStore.Schema
