import Mathlib.Data.List.Nodup
import RecordStore.Proofs.Query.Language
import RecordStore.Proofs.Query.SearchLexemes
import RecordStore.Proofs.Schema.Naming
import RecordStore.Proofs.Value.Entries
import RecordStore.Query.Projection

/-!
# Selected columns

A projection that is accepted selects declared columns, each of them once and the primary key first: the named ones where
all values hold, the ones that are not named otherwise, and all of them where nothing is named.
-/

namespace RecordStore

theorem RecordType.nodup_columns (type : RecordType) : type.columns.Nodup := by
  have texts : (type.columns.map Identifier.text).Nodup := by
    rw [columns, fieldNames, List.map_cons, List.map_map]
    exact List.nodup_cons.2 ⟨type.key_not_field, type.nodup_fields⟩
  exact List.Nodup.of_map _ texts

namespace Value

theorem nodup_keys {entries : List (Value × Value)} (distinct : DistinctKeys entries)
    (texts : ∀ entry ∈ entries, ∃ s, entry.1 = text s) : (entries.map (·.1)).Nodup := by
  refine List.pairwise_map.2 (distinct.imp_of_mem fun {first second} member _ apart same => ?_)
  obtain ⟨s, own⟩ := texts first member
  rw [← same, own, equals, beq_self_eq_true] at apart
  cases apart

end Value

namespace Query
open Sql

variable {type : RecordType} {fields : Value} {selection : Projection}

/-! ### Texts -/

theorem sql_ofIdentifiers (names : List Identifier) :
    (Fragment.ofIdentifiers names).sql = ", ".intercalate (names.map Identifier.quoted) := by
  have quoted : (Fragment.sql ∘ Fragment.ofIdentifier : Identifier → String) = Identifier.quoted := by
    funext name
    simp [Fragment.sql, Fragment.ofIdentifier, Piece.sql, String.join]
  refine String.ext ?_
  rw [Fragment.toList_sql, Fragment.ofIdentifiers, chars_join, List.map_map, quoted]

/-! ### Columns -/

/-- The declared columns that are selected. -/
def Projection.selected (type : RecordType) : Projection → List Identifier
  | .everything => type.columns
  | .columns names => names

/-- The quoted names in their order, or a star for everything. -/
def Projection.text : Projection → String
  | .everything => "*"
  | .columns names => ", ".intercalate (names.map Identifier.quoted)

/-- A column that stands among the keys of a map. -/
def Names (fields : Value) (column : Identifier) : Prop := .text column.text ∈ fields.ownEntries.map (·.1)

/-- The selection that fields ask for. -/
structure Selects (type : RecordType) (fields : Value) (selection : Projection) : Prop where
  nodup : (selection.selected type).Nodup
  key : (selection.selected type).head? = some type.key
  declared : ∀ column ∈ selection.selected type, column ∈ type.columns
  everything : selection = .everything ↔ ¬fields.holds
  wanted : fields.holds → (∀ entry ∈ fields.ownEntries, entry.2.holds) →
    ∀ column ∈ type.columns, column ∈ selection.selected type ↔ column = type.key ∨ Names fields column
  others : fields.holds → (∃ entry ∈ fields.ownEntries, ¬entry.2.holds) →
    ∀ column ∈ type.columns, column ∈ selection.selected type ↔ column = type.key ∨ ¬Names fields column
  sql : selection.sql = selection.text

theorem knownField_ok {name : Value} {field : Field} (known : knownField type name = .ok field) : type.Declares name := by
  unfold knownField at known
  split at known
  · exact RecordType.declares_of_field (adapter_ok known)
  · cases known

theorem declares_of_known {names : List Value}
    (known : (forIn names PUnit.unit fun name _ => do
      discard (knownField type name)
      pure (.yield .unit) : Outcome PUnit) = .ok .unit) : ∀ name ∈ names, type.Declares name := by
  induction names with
  | nil => exact nofun
  | cons name rest ih =>
    rw [List.forIn_cons] at known
    obtain ⟨step, first, known⟩ := bind_ok known
    obtain ⟨_, own, first⟩ := bind_ok first
    cases first
    obtain ⟨field, found, _⟩ := map_ok own
    exact List.forall_mem_cons.2 ⟨knownField_ok found, ih known⟩

theorem ofText?_text (column : Identifier) : Identifier.ofText? column.text = some column := dif_pos column.valid

/-- The wanted columns are the names, in their order and without the key. -/
theorem map_text_wantedColumns {names : List Value} (declared : ∀ name ∈ names, type.Declares name) :
    (wantedColumns type names).map (Value.text ·.text) = names.filter (!·.isText type.key.text) := by
  have each : ∀ name ∈ names.filter (!·.isText type.key.text),
      ((name.string?.bind Identifier.ofText?).map (Value.text ·.text)) = some name := fun name member => by
    obtain ⟨column, _, rfl⟩ := declared name (List.mem_filter.1 member).1
    rw [Value.string?_text, Option.bind_some, ofText?_text]
    rfl
  unfold wantedColumns
  rw [List.map_filterMap]
  generalize names.filter (!·.isText type.key.text) = kept at each
  induction kept with
  | nil => rfl
  | cons name rest ih =>
    obtain ⟨first, others⟩ := List.forall_mem_cons.1 each
    rw [List.filterMap_cons, first, ih others]

theorem mem_wantedColumns {names : List Value} (declared : ∀ name ∈ names, type.Declares name) {column : Identifier} :
    column ∈ wantedColumns type names ↔ column ≠ type.key ∧ .text column.text ∈ names := by
  have inj : Function.Injective fun own : Identifier => Value.text own.text := fun a b same =>
    Identifier.eq_of_text (Value.string_inj same)
  have apart : (!(Value.text column.text).isText type.key.text) = true ↔ column ≠ type.key := by
    rw [Bool.not_eq_true', ← Bool.not_eq_true, Value.isText_iff]
    exact not_congr inj.eq_iff
  rw [← List.mem_map_of_injective inj, map_text_wantedColumns declared, List.mem_filter, apart, and_comm]

theorem mem_otherColumns {names : List Value} {column : Identifier} :
    column ∈ otherColumns type names ↔ column ∈ type.fieldNames ∧ .text column.text ∉ names := by
  rw [otherColumns, List.mem_filter, Bool.not_eq_true', ← Bool.not_eq_true, List.any_eq_true]
  simp only [Value.isText_iff, exists_eq_right]

theorem mem_columns {column : Identifier} : column ∈ type.columns ↔ column = type.key ∨ column ∈ type.fieldNames :=
  List.mem_cons

theorem nodup_wantedColumns {names : List Value} (declared : ∀ name ∈ names, type.Declares name) (once : names.Nodup) :
    (wantedColumns type names).Nodup := by
  refine List.Nodup.of_map (Value.text ·.text) ?_
  rw [map_text_wantedColumns declared]
  exact once.filter _

theorem nodup_otherColumns (type : RecordType) (names : List Value) : (otherColumns type names).Nodup :=
  (List.nodup_cons.1 type.nodup_columns).2.filter _

theorem key_not_otherColumns (type : RecordType) (names : List Value) : type.key ∉ otherColumns type names := fun member =>
  (List.nodup_cons.1 type.nodup_columns).1 (mem_otherColumns.1 member).1

/-- Columns behind the key that are declared, are not the key and come once are a selection. -/
theorem selects_columns {columns : List Identifier} (holds : fields.holds) (once : columns.Nodup)
    (declared : ∀ column ∈ columns, column ∈ type.columns ∧ column ≠ type.key)
    (wanted : (∀ entry ∈ fields.ownEntries, entry.2.holds) → ∀ column ∈ type.columns, column ≠ type.key →
      (column ∈ columns ↔ Names fields column))
    (others : (∃ entry ∈ fields.ownEntries, ¬entry.2.holds) → ∀ column ∈ type.columns, column ≠ type.key →
      (column ∈ columns ↔ ¬Names fields column)) :
    Selects type fields (.columns (type.key :: columns)) := by
  have member {column : Identifier} {named : Prop} (own : column ≠ type.key → (column ∈ columns ↔ named)) :
      column ∈ type.key :: columns ↔ column = type.key ∨ named := by
    rw [List.mem_cons]
    by_cases key : column = type.key
    · simp [key]
    · rw [own key]
  exact {
    nodup := List.nodup_cons.2 ⟨fun inside => (declared _ inside).2 rfl, once⟩
    key := rfl
    declared := List.forall_mem_cons.2 ⟨List.mem_cons_self, fun column inside => (declared column inside).1⟩
    everything := ⟨nofun, fun empty => absurd holds empty⟩
    wanted := fun _ all column among => member (wanted all column among)
    others := fun _ some column among => member (others some column among)
    sql := sql_ofIdentifiers _ }

section Map
variable {entries : List (Value × Value)}

theorem selects_wanted (holds : (Value.map entries).holds) (declared : ∀ name ∈ entries.map (·.1), type.Declares name)
    (once : (entries.map (·.1)).Nodup) (all : ∀ entry ∈ entries, entry.2.holds) :
    Selects type (.map entries) (.columns (type.key :: wantedColumns type (entries.map (·.1)))) := by
  refine selects_columns holds (nodup_wantedColumns declared once) (fun column member => ?_) (fun _ column _ apart => ?_)
    fun ⟨entry, member, empty⟩ => absurd (all entry member) empty
  · obtain ⟨apart, named⟩ := (mem_wantedColumns declared).1 member
    obtain ⟨own, among, same⟩ := declared _ named
    rw [Identifier.eq_of_text (Value.string_inj same)] at apart ⊢
    exact ⟨among, apart⟩
  · rw [mem_wantedColumns declared, and_iff_right apart]
    rfl

theorem selects_others (holds : (Value.map entries).holds) (some : ¬∀ entry ∈ entries, entry.2.holds) :
    Selects type (.map entries) (.columns (type.key :: otherColumns type (entries.map (·.1)))) := by
  refine selects_columns holds (nodup_otherColumns _ _) (fun column member => ?_) (fun all => absurd all some)
    fun _ column among apart => ?_
  · have field := (mem_otherColumns.1 member).1
    exact ⟨List.mem_cons_of_mem _ field, fun same => key_not_otherColumns type _ (same ▸ member)⟩
  · rw [mem_otherColumns, and_iff_right ((mem_columns.1 among).resolve_left apart)]
    rfl

end Map

theorem projection_selects (distinct : Value.DistinctKeys fields.ownEntries)
    (accepted : projection type fields = .ok selection) : Selects type fields selection := by
  unfold projection at accepted
  cases holds : fields.holds with
  | false =>
    rw [holds] at accepted
    cases accepted
    exact {
      nodup := type.nodup_columns
      key := rfl
      declared := fun _ member => member
      everything := by simp [holds]
      wanted := by simp [holds]
      others := by simp [holds]
      sql := by decide }
  | true =>
    rw [holds] at accepted
    obtain ⟨names, listed, accepted⟩ := bind_ok accepted
    obtain ⟨_, known, accepted⟩ := bind_ok accepted
    obtain ⟨entries, found, accepted⟩ := bind_ok accepted
    cases accepted
    obtain rfl := Value.entries_ok (misuse_ok found)
    cases misuse_ok listed
    have declared := declares_of_known known
    have once : (entries.map (·.1)).Nodup := Value.nodup_keys distinct fun entry member => by
      obtain ⟨column, _, own⟩ := declared _ (List.mem_map_of_mem member)
      exact ⟨_, own⟩
    by_cases all : entries.all (·.2.holds)
    · rw [if_pos all]
      exact selects_wanted holds declared once (List.all_eq_true.1 all)
    · rw [if_neg all]
      exact selects_others holds fun every => all (List.all_eq_true.2 every)

end Query
end RecordStore
