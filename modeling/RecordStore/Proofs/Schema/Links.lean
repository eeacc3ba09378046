import Mathlib.Data.List.Nodup
import RecordStore.Proofs.Schema.Reader

/-!
# Columns of links

A link is stored in a column of the data type that the kind of the primary keys has by itself, or in an array of it. That is
the data type of the key column too, unless the store assigns keys that are numbers.
-/

namespace RecordStore

/-- Whether a name is that of a field whose values are keys of records. -/
def RecordType.IsLink (type : RecordType) (name : Identifier) : Prop := ∃ field, (name, field) ∈ type.fields ∧ field.kind = .scalar

theorem RecordType.field_unique {type : RecordType} {name : Identifier} {field other : Field}
    (first : (name, field) ∈ type.fields) (second : (name, other) ∈ type.fields) : field = other :=
  congrArg Prod.snd (List.inj_on_of_nodup_map type.nodup_fields first second rfl)

namespace Schema

/-! ### Data types -/

/-- The words behind the data type of a column, with which it is said what values the column gets by itself. -/
def clauseWords : List (List Char) := ["default".toList, "generated".toList]

/-- The data type in the text of a column type, which is that of the elements if there is an array. -/
def dataType (text : String) : String :=
  let named := [' '].intercalate ((text.toList.splitOn ' ').takeWhile fun word => !clauseWords.contains word)
  String.ofList ((before? "[]".toList named).getD named)

def Column.dataType (column : Column) : String := Schema.dataType column.type

variable {type : RecordType} {key : Kind} {assigned : Bool} {columns : List Column} {text : String}

theorem dataType_ownTexts : ∀ text ∈ ownTexts, Schema.dataType text = text ∧ Schema.dataType (text ++ "[]") = text := by
  decide +kernel

/-- An array of links has elements of the type of one link. -/
theorem ownType_link {field : Field} (scalar : field.kind = .scalar) (typed : field.columnType key = .ok text) :
    key.ownType = .ok (Schema.dataType text) := by
  obtain ⟨single, stored, same⟩ := bind_ok typed
  rw [scalar] at stored
  obtain rfl := pure_ok same
  obtain ⟨one, several⟩ := dataType_ownTexts _ (ownType_mem stored)
  split
  · rw [several]
    exact stored
  · rw [one]
    exact stored

theorem dataType_links (made : Schema.columns type key = .ok columns) {column : Column} (member : column ∈ columns)
    (link : type.IsLink column.name) : key.ownType = .ok column.dataType := by
  obtain ⟨field, declared, typed⟩ := (mem_columns made).1 member
  obtain ⟨other, also, scalar⟩ := link
  exact ownType_link (RecordType.field_unique declared also ▸ scalar) typed

/-- Whether the store assigns numbers as keys, which then are whole numbers. -/
def CountsKeys (key : Kind) (assigned : Bool) : Prop := assigned = true ∧ key = .number

theorem dataType_key (allowed : key ∈ Kind.keyKinds) (keyed : keyType key assigned = .ok text)
    (other : ¬CountsKeys key assigned) : key.ownType = .ok (Schema.dataType text) := by
  have kinds : key = .text ∨ key = .number := by simpa [Kind.keyKinds] using allowed
  rcases kinds with rfl | rfl
  · have same : Schema.dataType text = "text" := by
      cases assigned <;> cases keyed <;> decide +kernel
    rw [same]
    rfl
  · cases assigned with
    | true => exact absurd ⟨rfl, rfl⟩ other
    | false => exact @ownType_link .number text {} rfl keyed

theorem dataType_counted (counts : CountsKeys key assigned) (keyed : keyType key assigned = .ok text) :
    Schema.dataType text = "bigint" := by
  obtain ⟨rfl, rfl⟩ := counts
  cases keyed
  decide +kernel

theorem names_columns (made : Schema.columns type key = .ok columns) : columns.map (·.name) = type.fieldNames := by
  have named := mapM_eq_map (g := fun entry : Identifier × Field => ⟨entry.1, (entry.2.columnType key).toOption.getD ""⟩)
    (fun entry column one => by
      obtain ⟨text, typed, same⟩ := bind_ok one
      rw [← pure_ok same, typed]
      rfl) made
  rw [named, List.map_map]
  rfl

/-- The statements for a type name every field once in its creation and add every field's column later. In all of them the
columns of links are of the data type of the key column, unless the store assigns numbers: then the keys are of type
`bigint`, and the links to them are floating-point numbers. -/
theorem links_typed_as_keys (allowed : key ∈ Kind.keyKinds) : ∃ (keyColumn : Column) (columns : List Column)
    (statements : List Statement), Schema.statements type key assigned = .ok statements ∧
      statements = .createTable type.name keyColumn columns :: columns.map (.addColumn type.name) ∧
      (∀ statement ∈ statements, Statement.read? statement.sql = some statement) ∧
      keyColumn.name = type.key ∧ columns.map (·.name) = type.fieldNames ∧
      (¬CountsKeys key assigned → ∀ column ∈ columns, type.IsLink column.name → column.dataType = keyColumn.dataType) ∧
      (CountsKeys key assigned → keyColumn.dataType = "bigint" ∧
        ∀ column ∈ columns, type.IsLink column.name → column.dataType = "double precision") := by
  obtain ⟨statements, made⟩ := statements_total allowed assigned type
  obtain ⟨keyText, columns, keyed, all, whole⟩ := statements_made made
  have readable : ∀ statement ∈ statements, Statement.read? statement.sql = some statement :=
    fun statement member => Statement.read?_sql (statements_plain made statement member)
  refine ⟨⟨type.key, keyText⟩, columns, statements, made, whole, readable, rfl, names_columns all, ?_, ?_⟩
  · intro other column member link
    exact Except.ok.inj ((dataType_links all member link).symm.trans (dataType_key allowed keyed other))
  · intro counts
    refine ⟨dataType_counted counts keyed, fun column member link => ?_⟩
    obtain ⟨rfl, rfl⟩ := counts
    exact Except.ok.inj (dataType_links all member link).symm

/-- Stories have an author and readers. -/
def storySample : RecordType where
  name := ⟨"story", by decide⟩
  key := ⟨"code", by decide⟩
  fields := [(⟨"author", by decide⟩, { link := some "user" }), (⟨"readers", by decide⟩, { isArray := true, link := some "user" })]
  nodup_fields := by decide
  key_not_field := by decide

/-- Where the store makes keys that are texts, the readers of stories are texts. -/
theorem readers_typed_as_keys : ∃ (keyColumn : Column) (columns : List Column) (statements : List Statement),
    Schema.statements storySample .text true = .ok statements ∧
      statements = .createTable storySample.name keyColumn columns :: columns.map (.addColumn storySample.name) ∧
      ∃ column ∈ columns, column.type = "text[]" ∧ column.dataType = keyColumn.dataType := by
  obtain ⟨keyColumn, columns, statements, made, whole, _, _, _, alike, _⟩ :=
    @links_typed_as_keys storySample .text true (by decide)
  obtain ⟨_, all, _, listed, same⟩ := statements_made made
  cases listed
  have shown := (List.cons.inj (whole.symm.trans same)).1
  obtain ⟨-, rfl, rfl⟩ := Statement.createTable.inj shown
  have readers : storySample.IsLink ⟨"readers", by decide⟩ := ⟨_, List.mem_cons_of_mem _ List.mem_cons_self, rfl⟩
  exact ⟨_, _, statements, made, whole, _, List.mem_cons_of_mem _ List.mem_cons_self, rfl,
    alike (fun counts => absurd counts.2 (by decide)) _ (List.mem_cons_of_mem _ List.mem_cons_self) readers⟩

/-- Where the store counts, the author of a story is kept as a floating-point number. -/
theorem author_typed_apart : ∃ (keyColumn : Column) (columns : List Column),
    Schema.statements storySample .number true =
        .ok (.createTable storySample.name keyColumn columns :: columns.map (.addColumn storySample.name)) ∧
      ∃ column ∈ columns, storySample.IsLink column.name ∧ column.dataType = "double precision" ∧
        keyColumn.dataType = "bigint" :=
  ⟨⟨⟨"code", by decide⟩, "bigint generated by default as identity"⟩,
    [⟨⟨"author", by decide⟩, "double precision"⟩, ⟨⟨"readers", by decide⟩, "double precision[]"⟩], rfl, _, List.mem_cons_self,
    ⟨_, List.mem_cons_self, rfl⟩, by decide +kernel, by decide +kernel⟩

end Schema
end RecordStore
