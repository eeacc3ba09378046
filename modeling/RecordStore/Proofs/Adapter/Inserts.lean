import RecordStore.Proofs.Adapter.Keys

/-!
# Inserts that the store can read

The insert of a batch names the columns of the record type, behind the key where all its records have one. So it has a
column, and its text is one that the store can read, exactly where the type has fields or all the records have keys.
-/

namespace RecordStore

namespace Mutation.Insert

/-- Inserts as the grammar of the store has them: at least one column, none of them twice, and rows with a value for each. -/
structure WellFormed (insert : Insert) : Prop where
  filled : insert.columns ≠ []
  distinct : insert.columns.Nodup
  rows : insert.rows ≠ []
  aligned : ∀ row ∈ insert.rows, row.length = insert.columns.length

end Mutation.Insert

namespace Adapter
open Mutation Sql Binding

variable {type : RecordType} {source : Option KeySource} {records rows : List Value} {made after : Nat}

theorem nodup_fieldNames (type : RecordType) : type.fieldNames.Nodup := by
  refine List.Nodup.of_map Identifier.text ?_
  rw [RecordType.fieldNames, List.map_map]
  exact type.nodup_fields

theorem key_not_sorted (type : RecordType) : type.key ∉ type.sortedFields := by
  intro member
  obtain ⟨field, declared, same⟩ := List.mem_map.1 ((perm_sortedFields type).mem_iff.1 member)
  exact type.key_not_field (List.mem_map.2 ⟨field, declared, congrArg Identifier.text same⟩)

theorem sortedFields_eq_nil (type : RecordType) : type.sortedFields = [] ↔ type.fields = [] := by
  rw [← List.length_eq_zero_iff, (perm_sortedFields type).length_eq, RecordType.fieldNames, List.length_map,
    List.length_eq_zero_iff]

section Lined
variable {insert : Mutation.Insert} {params : List Value}

theorem LinesUp.distinct (lined : LinesUp type rows insert params) : insert.columns.Nodup := by
  have fields : type.sortedFields.Nodup := (perm_sortedFields type).nodup_iff.2 (nodup_fieldNames type)
  rw [lined.columns]
  split
  · exact List.nodup_cons.2 ⟨key_not_sorted type, fields⟩
  · exact fields

theorem LinesUp.row_slots (lined : LinesUp type rows insert params) {row : List Slot} (member : row ∈ insert.rows) :
    ∃ next, row = slotsFrom next insert.columns.length := by
  obtain ⟨i, place⟩ := List.getElem?_of_mem member
  have inside : i < rows.length := lined.count ▸ (List.getElem?_eq_some_iff.1 place).1
  exact ⟨_, Option.some.inj (place.symm.trans (lined.slots i inside))⟩

theorem LinesUp.columns_eq_nil (lined : LinesUp type rows insert params) :
    insert.columns = [] ↔ type.fields = [] ∧ ¬RecordType.AllKeyed (rows.map type.ownKey) := by
  rw [lined.columns, RecordType.allKeyed_rows, ← lined.keyed, ← sortedFields_eq_nil]
  split
  · rename_i keyed
    simp [keyed]
  · rename_i unkeyed
    simp [unkeyed]

end Lined

/-- The records of a batch that is encoded can be inserted, with a row of as many values as there are columns for each of
them and no column twice. There is a column, and the text of the insert can be read, exactly if the type has fields or
every record has a key, be it made for it; otherwise nothing stands between the parentheses, which is no insert. -/
theorem inserts_wellFormed_iff (nonempty : records ≠ [])
    (encodes : (records.mapM (type.encodeRecord source)).run.run made = (.ok rows, after)) :
    ∃ insert params, buildInsert type rows = .ok (insert, params) ∧ insert.columns.Nodup ∧
      insert.rows.length = records.length ∧ (∀ row ∈ insert.rows, row.length = insert.columns.length) ∧
      (type.fields ≠ [] ∨ RecordType.AllKeyed (type.batchKeys source made records) →
        insert.WellFormed ∧ Insert.read? insert.sql = some insert) ∧
      (¬(type.fields ≠ [] ∨ RecordType.AllKeyed (type.batchKeys source made records)) →
        insert.columns = [] ∧ (∀ row ∈ insert.rows, row = []) ∧ Insert.read? insert.sql = none) := by
  have stored := RecordType.encodeRecords_ok encodes
  rw [stored.keys]
  obtain ⟨insert, params, built, lined⟩ := @buildInsert_linesUp type rows (stored.filled nonempty) stored.maps
  have aligned : ∀ row ∈ insert.rows, row.length = insert.columns.length := by
    intro row member
    obtain ⟨next, rfl⟩ := lined.row_slots member
    exact length_slotsFrom _ _
  have count : insert.rows.length = records.length := lined.count.trans stored.length
  refine ⟨insert, params, built, lined.distinct, count, aligned, fun some => ?_, fun nothing => ?_⟩
  · have filled : insert.columns ≠ [] := by
      intro none
      obtain ⟨noFields, unkeyed⟩ := lined.columns_eq_nil.1 none
      exact some.elim (fun fields => fields noFields) unkeyed
    refine ⟨⟨filled, lined.distinct, ?_, aligned⟩, lined.text filled⟩
    rintro none
    exact nonempty (List.length_eq_zero_iff.1 (by rw [← count, none, List.length_nil]))
  · obtain ⟨noFields, unkeyed⟩ := not_or.1 nothing
    have none : insert.columns = [] := lined.columns_eq_nil.2 ⟨not_not.1 noFields, unkeyed⟩
    refine ⟨none, fun row member => ?_, Insert.read?_sql_of_no_columns none fun row member => ?_⟩
    · rw [← List.length_eq_zero_iff, aligned row member, none, List.length_nil]
    · obtain ⟨next, rfl⟩ := lined.row_slots member
      exact safe_slotsFrom _ _

/-- A type whose records are only keys. -/
def tagSample : RecordType where
  name := ⟨"tag", by decide⟩
  key := RecordType.noteSample.key
  fields := []
  nodup_fields := List.nodup_nil
  key_not_field := List.not_mem_nil

/-- Tags that have keys, their own or drawn ones, are inserted. -/
theorem keyedTags_inserted : ∃ rows insert params,
    ([.map [(.text "id", .text "t1")], .map []].mapM
        (tagSample.encodeRecord (some fun made _ => .int made))).run.run 0 = (.ok rows, 1) ∧
      buildInsert tagSample rows = .ok (insert, params) ∧ insert.WellFormed ∧ Insert.read? insert.sql = some insert := by
  obtain ⟨insert, params, built, _, _, _, readable, _⟩ := @inserts_wellFormed_iff tagSample (some fun made _ => .int made)
    [.map [(.text "id", .text "t1")], .map []] _ 0 1 (by simp) rfl
  have keyed : RecordType.AllKeyed [some (.text "t1"), some (.int 0)] := by simp [RecordType.AllKeyed]
  obtain ⟨wellFormed, read⟩ := readable (.inr keyed)
  exact ⟨_, insert, params, rfl, built, wellFormed, read⟩

/-- A tag without a key is inserted with nothing between the parentheses. -/
theorem keylessTag_unread : ∃ rows insert params,
    ([.map []].mapM (tagSample.encodeRecord none)).run.run 0 = (.ok rows, 0) ∧
      buildInsert tagSample rows = .ok (insert, params) ∧ insert.columns = [] ∧ insert.rows = [[]] ∧
      insert.sql = "insert into \"tag\" () values () returning \"id\"" := by
  have columns : tagSample.sortedFields = [] := List.mergeSort_nil
  have built : buildInsert tagSample [.map []] = .ok (⟨tagSample.name, [], [[]], some tagSample.key⟩, []) := by
    have ran : (Mutation.insert tagSample (.list [.map []])).runFrom [] = (do
        let rows ← [Value.map []].mapM (bindRow tagSample.sortedFields)
        return ⟨tagSample.name, tagSample.sortedFields, rows, some tagSample.key⟩ : Binding Mutation.Insert).runFrom [] := rfl
    rw [buildInsert, ran, columns]
    rfl
  exact ⟨_, _, _, rfl, built, rfl, rfl, by decide +kernel⟩

end Adapter

end RecordStore
