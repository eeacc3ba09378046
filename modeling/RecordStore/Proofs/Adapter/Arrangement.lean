import RecordStore.Proofs.Adapter.Create
import RecordStore.Proofs.Record.Rows
import RecordStore.Proofs.Schema.Naming
import RecordStore.Proofs.Value.Entries

/-!
# Inserts of rearranged records

The statement of an insert and its values depend neither on the order in which a type declares its fields nor on the order
in which records mention theirs. The order inside a value is another matter: the text of a map keeps it.
-/

namespace RecordStore

/-- Records with the same entries in any order. -/
def Rearranged (record other : Value) : Prop :=
  ∃ own entries, record = .map own ∧ other = .map entries ∧ own.Perm entries ∧ Value.DistinctKeys own ∧
    Value.DistinctKeys entries

theorem Rearranged.field? {record other : Value} (rearranged : Rearranged record other) (name : String) :
    record.field? name = other.field? name := by
  obtain ⟨own, entries, rfl, rfl, same, distinct, also⟩ := rearranged
  exact congrArg Except.ok (Value.lookup_perm same distinct also name)

namespace RecordType

/-- Types that declare the same fields in any order. -/
structure Reordered (first second : RecordType) : Prop where
  name : first.name = second.name
  key : first.key = second.key
  fields : first.fields.Perm second.fields

variable {first second : RecordType} {source : Option KeySource} {made after : Nat}

theorem Reordered.sortedFields (reordered : Reordered first second) : first.sortedFields = second.sortedFields := by
  have fields : first.sortedFields.Perm second.sortedFields :=
    (Adapter.perm_sortedFields first).trans ((reordered.fields.map _).trans (Adapter.perm_sortedFields second).symm)
  exact fields.eq_of_pairwise (fun _ _ _ _ le ge => Identifier.eq_of_text (String.le_antisymm le ge))
    (Adapter.sorted_sortedFields first) (Adapter.sorted_sortedFields second)

/-! ### Encoding -/

/-- Rows that hold the same in all columns of a type. -/
def Alike (type : RecordType) (row other : Value) : Prop :=
  ∀ column ∈ type.key :: type.sortedFields, row.fieldValue column.text = other.fieldValue column.text

theorem encodeField_rearranged {record other : Value} (rearranged : Rearranged record other) (name : Identifier)
    (field : Field) : encodeField record name field = encodeField other name field := by
  unfold encodeField
  rw [rearranged.field?]

theorem ownKey_eq {record other : Value} (reordered : Reordered first second) (rearranged : Rearranged record other) :
    first.ownKey record = second.ownKey other := by
  obtain ⟨own, entries, rfl, rfl, same, distinct, also⟩ := rearranged
  unfold ownKey
  rw [reordered.key]
  exact Value.lookup_perm same distinct also _

theorem encodeRecord_alike {record other row : Value} (reordered : Reordered first second)
    (rearranged : Rearranged record other) (ran : (first.encodeRecord source record).run.run made = (.ok row, after)) :
    ∃ again, (second.encodeRecord source other).run.run made = (.ok again, after) ∧ Alike first row again := by
  obtain ⟨stored, drew⟩ := encodeRecord_ok ran
  have keys := ownKey_eq reordered rearranged
  -- The fields of the second type are those of the first one, and its record has the same values for them.
  have fielded : ∀ e ∈ second.fields, ∃ v, Value.lookup e.1.text row.ownEntries = some v ∧
      encodeField other e.1 e.2 = .ok (.text e.1.text, v) := fun e member => by
    rw [← encodeField_rearranged rearranged]
    exact stored.fields e (reordered.fields.mem_iff.2 member)
  obtain ⟨again, last, encoded⟩ : ∃ again last, (second.encodeRecord source other).run.run made = (.ok again, last) := by
    obtain ⟨_, entries, _, rfl, _⟩ := rearranged
    exact encodeRecord_total source made fun e member => by
      obtain ⟨v, _, encodes⟩ := fielded e member
      exact ⟨_, encodes⟩
  obtain ⟨asStored, also⟩ := encodeRecord_ok encoded
  have drawnAlike : first.drawn source [record] = second.drawn source [other] := by
    simp [drawn, keys]
  rw [drew, drawnAlike, ← also]
  refine ⟨again, encoded, fun column member => ?_⟩
  rcases List.mem_cons.1 member with rfl | field
  · have own : first.ownKey row = second.ownKey again := by
      rw [stored.key, asStored.key, keys, reordered.name]
    unfold ownKey at own
    rw [← reordered.key] at own
    exact congrArg (·.getD .null) own
  · rw [reordered.sortedFields, (Adapter.perm_sortedFields second).mem_iff] at field
    obtain ⟨e, declared, rfl⟩ := List.mem_map.1 field
    obtain ⟨v, found, encodes⟩ := fielded e declared
    obtain ⟨w, there, encodesAgain⟩ := asStored.fields e declared
    cases encodes.symm.trans encodesAgain
    exact congrArg (·.getD .null) (found.trans there.symm)

theorem encodeRecords_alike {records others rows : List Value} (reordered : Reordered first second)
    (paired : List.Forall₂ Rearranged records others)
    (ran : (records.mapM (first.encodeRecord source)).run.run made = (.ok rows, after)) :
    ∃ again, (others.mapM (second.encodeRecord source)).run.run made = (.ok again, after) ∧
      List.Forall₂ (Alike first) rows again := by
  induction paired generalizing made rows with
  | nil =>
    cases ran
    exact ⟨[], rfl, .nil⟩
  | @cons record other records others rearranged _ ih =>
    rw [List.mapM_cons] at ran
    obtain ⟨row, middle, one, ran⟩ := drawing_bind_ok ran
    obtain ⟨more, last, all, ran⟩ := drawing_bind_ok ran
    cases ran
    obtain ⟨again, oneAgain, alike⟩ := encodeRecord_alike reordered rearranged one
    obtain ⟨moreAgain, allAgain, alikes⟩ := ih all
    refine ⟨again :: moreAgain, ?_, .cons alike alikes⟩
    rw [List.mapM_cons, ExceptT.run_bind, StateT.run_bind, oneAgain]
    show ((others.mapM (second.encodeRecord source)) >>= fun more => pure (again :: more)).run.run middle = _
    rw [ExceptT.run_bind, StateT.run_bind, allAgain]
    rfl

end RecordType

namespace Adapter
open Mutation Sql Binding

/-! ### The statement -/

theorem buildInsert_eq (type : RecordType) {rows : List Value} (nonempty : rows ≠ [])
    (maps : ∀ row ∈ rows, ∃ entries, row = .map entries) {keyed : Bool}
    (known : keyed = rows.all fun row => !(row.fieldValue type.key.text).isNull) :
    buildInsert type rows = .ok (⟨type.name, insertColumns type keyed,
      rowsFrom 1 (insertColumns type keyed).length rows.length, if keyed then none else some type.key⟩,
      rowValues (insertColumns type keyed) rows) := by
  obtain ⟨insert, params, ran⟩ := @insert_of_maps type _ nonempty maps []
  obtain ⟨items, listed, own, all, rfl, rfl⟩ := insert_run ran
  obtain rfl : rows = items := Except.ok.inj listed
  obtain rfl : own = keyed := all.trans known.symm
  rw [buildInsert, ran]
  rfl

theorem rowValues_congr {columns : List Identifier} {rows others : List Value}
    (same : rows.Forall₂ (fun row other => ∀ column ∈ columns, row.fieldValue column.text = other.fieldValue column.text)
      others) : rowValues columns rows = rowValues columns others := by
  induction same with
  | nil => rfl
  | cons one _ ih => rw [rowValues_cons, rowValues_cons, ih, List.map_congr_left one]

theorem keyed_congr {key : String} {rows others : List Value}
    (same : List.Forall₂ (fun row other => Value.fieldValue row key = other.fieldValue key) rows others) :
    (rows.all fun row => !(row.fieldValue key).isNull) = others.all fun row => !(row.fieldValue key).isNull := by
  induction same with
  | nil => rfl
  | cons one _ ih => rw [List.all_cons, List.all_cons, one, ih]

theorem buildInsert_alike {first second : RecordType} (reordered : first.Reordered second) {rows again : List Value}
    (maps : ∀ row ∈ rows, ∃ entries, row = .map entries) (also : ∀ row ∈ again, ∃ entries, row = .map entries)
    (nonempty : rows ≠ []) (alike : List.Forall₂ first.Alike rows again) :
    ∃ insert params, buildInsert first rows = .ok (insert, params) ∧ buildInsert second again = .ok (insert, params) := by
  have length := alike.length_eq
  have filled : again ≠ [] := fun none => nonempty (List.length_eq_zero_iff.1 (by rw [length, none]; rfl))
  generalize known : (rows.all fun row => !(row.fieldValue first.key.text).isNull) = keyed
  have knownAgain : (again.all fun row => !(row.fieldValue second.key.text).isNull) = keyed := by
    rw [← known, ← reordered.key]
    exact (keyed_congr (alike.imp fun _ _ same => same _ List.mem_cons_self)).symm
  have columns : insertColumns second keyed = insertColumns first keyed := by
    unfold insertColumns
    rw [reordered.key, reordered.sortedFields]
  have values : rowValues (insertColumns first keyed) rows = rowValues (insertColumns first keyed) again := by
    refine rowValues_congr (alike.imp fun _ _ same column member => same column ?_)
    cases keyed with
    | true => exact member
    | false => exact List.mem_cons_of_mem _ member
  refine ⟨_, _, buildInsert_eq first nonempty maps known.symm, ?_⟩
  rw [buildInsert_eq second filled also knownAgain.symm, columns, values, length, reordered.name, reordered.key]

/-- Records in which the same entries stand in another order, under a type that declares the same fields in another order,
are stored by the very same statement with the same values. -/
theorem buildInsert_rearranged {first second : RecordType} (reordered : first.Reordered second) {records others : List Value}
    (nonempty : records ≠ []) (paired : List.Forall₂ Rearranged records others) {source : Option KeySource}
    {made after : Nat} {rows : List Value}
    (encodes : (records.mapM (first.encodeRecord source)).run.run made = (.ok rows, after)) :
    ∃ again, (others.mapM (second.encodeRecord source)).run.run made = (.ok again, after) ∧
      ∃ insert params, buildInsert first rows = .ok (insert, params) ∧ buildInsert second again = .ok (insert, params) := by
  obtain ⟨again, encodesAgain, alike⟩ := RecordType.encodeRecords_alike reordered paired encodes
  have stored := RecordType.encodeRecords_ok encodes
  have also := RecordType.encodeRecords_ok encodesAgain
  exact ⟨again, encodesAgain, buildInsert_alike reordered stored.maps also.maps (stored.filled nonempty) alike⟩

/-- Notes whose fields are declared the other way round. -/
def turnedNotes : RecordType where
  name := RecordType.noteSample.name
  key := RecordType.noteSample.key
  fields := RecordType.noteSample.fields.reverse
  nodup_fields := by decide
  key_not_field := by decide

def noteEntry (title details : Value) : List (Value × Value) := [(.text "title", title), (.text "meta", details)]

theorem rearranged_noteEntry (title details : Value) :
    Rearranged (.map (noteEntry title details)) (.map (noteEntry title details).reverse) := by
  refine ⟨_, _, rfl, rfl, (List.reverse_perm _).symm, ?_, ?_⟩
  all_goals exact List.pairwise_pair.2 (by simp [Value.equals])

theorem turnedNotes_insert : ∃ rows after, RecordType.noteSample.Reordered turnedNotes ∧
    ([.map (noteEntry (.text "a") .null)].mapM (RecordType.noteSample.encodeRecord (some RecordType.noteKeys))).run.run 4 =
      (.ok rows, after) ∧
    ∃ again, ([.map (noteEntry (.text "a") .null).reverse].mapM
        (turnedNotes.encodeRecord (some RecordType.noteKeys))).run.run 4 = (.ok again, after) ∧
      ∃ insert params, buildInsert RecordType.noteSample rows = .ok (insert, params) ∧
        buildInsert turnedNotes again = .ok (insert, params) := by
  have reordered : RecordType.noteSample.Reordered turnedNotes := ⟨rfl, rfl, (List.reverse_perm _).symm⟩
  exact ⟨_, 5, reordered, rfl,
    buildInsert_rearranged reordered (by simp) (.cons (rearranged_noteEntry _ _) .nil) rfl⟩

/-- Equal records whose values are nested or numbered in another form are stored by different values. -/
theorem equal_records_apart : ∃ record other rows again after,
    record.equals other ∧
    ([record].mapM (RecordType.noteSample.encodeRecord none)).run.run 0 = (.ok rows, after) ∧
    ([other].mapM (RecordType.noteSample.encodeRecord none)).run.run 0 = (.ok again, after) ∧
    ∃ insert params others, buildInsert RecordType.noteSample rows = .ok (insert, params) ∧
      buildInsert RecordType.noteSample again = .ok (insert, others) ∧ params[1]? ≠ others[1]? ∧
      params[2]? ≠ others[2]? := by
  let nested := Value.map [(.text "x", .text "a"), (.text "y", .text "b")]
  let turned := Value.map [(.text "y", .text "b"), (.text "x", .text "a")]
  refine ⟨.map (noteEntry (.bool true) nested), .map (noteEntry (.int 1) turned).reverse, _, _, 0, by decide +kernel, rfl, rfl,
    ?_⟩
  have columns : RecordType.noteSample.sortedFields =
      [⟨"cover", by decide⟩, ⟨"meta", by decide⟩, ⟨"title", by decide⟩] := List.mergeSort_of_pairwise (by decide)
  have built := fun rows nonempty maps known =>
    @buildInsert_eq RecordType.noteSample rows nonempty maps false known
  unfold insertColumns at built
  rw [columns] at built
  refine ⟨_, _, _, built _ (by simp) (by simp) rfl, built _ (by simp) (by simp) rfl, ?_, ?_⟩
  · intro same
    have texts := congrArg (·.bind Value.text?) same
    exact absurd texts (by decide +kernel)
  · intro same
    have shapes := congrArg (·.map Value.shape) same
    exact absurd shapes (by decide +kernel)

end Adapter
end RecordStore
