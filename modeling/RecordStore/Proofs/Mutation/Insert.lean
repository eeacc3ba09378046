import RecordStore.Proofs.Mutation.Shape
import RecordStore.Proofs.Sql.Clean

/-!
# The rows of an insert

An insert binds the values of its records row after row, in the order of its columns, and the slots of its rows
are numbered in the same way.
-/

namespace RecordStore.Mutation
open Sql Binding

variable {type : RecordType} {values after : ParameterList}

/-- The slots of so many rows of one width. -/
def rowsFrom (next width : Nat) : Nat → List (List Slot)
  | 0 => []
  | count + 1 => slotsFrom next width :: rowsFrom (next + width) width count

theorem length_rowsFrom (next width count : Nat) : (rowsFrom next width count).length = count := by
  induction count generalizing next with
  | zero => rfl
  | succ count ih => rw [rowsFrom, List.length_cons, ih]

theorem getElem?_rowsFrom {next width count i : Nat} (inside : i < count) :
    (rowsFrom next width count)[i]? = some (slotsFrom (next + i * width) width) := by
  induction count generalizing next i with
  | zero => omega
  | succ count ih =>
    cases i with
    | zero => simp [rowsFrom]
    | succ i =>
      rw [rowsFrom, List.getElem?_cons_succ, ih (by omega), Nat.add_mul, Nat.one_mul, Nat.add_assoc,
        Nat.add_comm width]

theorem numbers_rowsFrom (next width count : Nat) :
    (rowsFrom next width count).flatMap (·.map Slot.number) = List.range' next (count * width) := by
  induction count generalizing next with
  | zero => rw [Nat.zero_mul]; rfl
  | succ count ih =>
    rw [rowsFrom, List.flatMap_cons, ih, map_number_slotsFrom, List.range'_append_1, Nat.add_mul, Nat.one_mul,
      Nat.add_comm width]

theorem mem_rowsFrom {next width count : Nat} {row : List Slot} (member : row ∈ rowsFrom next width count) :
    ∃ start, row = slotsFrom start width := by
  induction count generalizing next with
  | zero => cases member
  | succ count ih =>
    rcases List.mem_cons.1 member with rfl | later
    · exact ⟨next, rfl⟩
    · exact ih later

theorem safe_rowsFrom (next width count : Nat) :
    ∀ row ∈ rowsFrom next width count, ∀ slot ∈ row, slot.cast ∈ castTexts := by
  intro row member
  obtain ⟨start, rfl⟩ := mem_rowsFrom member
  exact safe_slotsFrom start width

/-- What records hold for the columns, row after row. -/
def rowValues (columns : List Identifier) (records : List Value) : List Value :=
  records.flatMap fun record => columns.map fun column => record.fieldValue column.text

theorem rowValues_cons (columns : List Identifier) (record : Value) (rest : List Value) :
    rowValues columns (record :: rest) =
      (columns.map fun column => record.fieldValue column.text) ++ rowValues columns rest := rfl

theorem length_rowValues (columns : List Identifier) (records : List Value) :
    (rowValues columns records).length = records.length * columns.length := by
  induction records with
  | nil => exact (Nat.zero_mul _).symm
  | cons record rest ih =>
    rw [rowValues_cons, List.length_append, List.length_map, ih, List.length_cons, Nat.add_mul, Nat.one_mul,
      Nat.add_comm]

theorem getElem?_rowValues {columns : List Identifier} {records : List Value} {i j : Nat} {record : Value}
    {column : Identifier} (own : records[i]? = some record) (at_ : columns[j]? = some column) :
    (rowValues columns records)[i * columns.length + j]? = some (record.fieldValue column.text) := by
  have inside : j < columns.length := (List.getElem?_eq_some_iff.1 at_).1
  induction records generalizing i with
  | nil => cases own
  | cons first rest ih =>
    rw [rowValues_cons]
    cases i with
    | zero =>
      obtain rfl := Option.some.inj own
      rw [Nat.zero_mul, Nat.zero_add, List.getElem?_append_left (by simpa using inside), List.getElem?_map, at_]
      rfl
    | succ i =>
      have place : (i + 1) * columns.length + j = columns.length + (i * columns.length + j) := by
        rw [Nat.add_mul, Nat.one_mul]
        omega
      rw [place, List.getElem?_append_right (by simp), List.length_map, Nat.add_sub_cancel_left]
      exact ih own

theorem bindRow_slots {columns : List Identifier} {record : Value} {slots : List Slot}
    (ran : (bindRow columns record).runFrom values = (.ok slots, after)) :
    slots = slotsFrom (values.length + 1) columns.length ∧
      after = values ++ columns.map fun column => record.fieldValue column.text := by
  obtain ⟨stored, made, slotted, appended⟩ :=
    mapM_slots (fun column : Identifier => (record.field? column.text).map (·.getD .null)) (fun column _ _ _ bound => by
      obtain ⟨found, middle, looked, bound⟩ := bind_runFrom_ok bound
      obtain ⟨ok, rfl⟩ := misuse_runFrom_ok looked
      obtain ⟨rfl, rfl⟩ := bind_slot bound
      exact ⟨found.getD .null, by rw [ok]; rfl, rfl, rfl⟩) ran
  refine ⟨slotted, ?_⟩
  rw [appended, mapM_eq_map (fun column v found => ?_) made]
  obtain ⟨own, looked, rfl⟩ := map_ok found
  rw [Value.field?_ok looked]
  rfl

theorem bindRows_slots {columns : List Identifier} {records : List Value} {rows : List (List Slot)}
    (ran : (records.mapM (bindRow columns)).runFrom values = (.ok rows, after)) :
    rows = rowsFrom (values.length + 1) columns.length records.length ∧
      after = values ++ rowValues columns records := by
  induction records generalizing values rows with
  | nil =>
    obtain ⟨rfl, rfl⟩ := pure_runFrom_ok ran
    exact ⟨rfl, (List.append_nil values).symm⟩
  | cons record rest ih =>
    rw [List.mapM_cons] at ran
    obtain ⟨slots, middle, first, ran⟩ := bind_runFrom_ok ran
    obtain ⟨others, last, more, ran⟩ := bind_runFrom_ok ran
    obtain ⟨rfl, rfl⟩ := pure_runFrom_ok ran
    obtain ⟨rfl, rfl⟩ := bindRow_slots first
    obtain ⟨rfl, rfl⟩ := ih more
    refine ⟨?_, by rw [rowValues_cons, List.append_assoc]⟩
    rw [List.length_cons, rowsFrom, List.length_append, List.length_map, Nat.add_right_comm]

/-- The columns of an insert: the key first where every record has one, then the fields in order. -/
def insertColumns (type : RecordType) (keyed : Bool) : List Identifier :=
  if keyed then type.key :: type.sortedFields else type.sortedFields

theorem insert_run {records : Value} {insert : Insert}
    (ran : (Mutation.insert type records).runFrom values = (.ok insert, after)) :
    ∃ items, records.elements = .ok items ∧
      ∃ keyed, keyed = (items.all fun record => !(record.fieldValue type.key.text).isNull) ∧
        insert = ⟨type.name, insertColumns type keyed,
          rowsFrom (values.length + 1) (insertColumns type keyed).length items.length,
          if keyed then none else some type.key⟩ ∧
        after = values ++ rowValues (insertColumns type keyed) items := by
  obtain ⟨items, middle, found, ran⟩ := bind_runFrom_ok (follows_insert records values insert after ran)
  obtain ⟨elements, rfl⟩ := misuse_runFrom_ok found
  obtain ⟨keyed, middle, known, ran⟩ := bind_runFrom_ok ran
  obtain ⟨keys, rfl⟩ := misuse_runFrom_ok known
  obtain ⟨rows, last, bound, ran⟩ := bind_runFrom_ok ran
  obtain ⟨rfl, rfl⟩ := pure_runFrom_ok ran
  obtain ⟨rfl, rfl⟩ := bindRows_slots bound
  exact ⟨items, elements, keyed, allHaveKeys_ok keys, rfl, rfl⟩

theorem allHaveKeys_of_maps {records : List Value} (maps : ∀ record ∈ records, ∃ entries, record = .map entries) :
    ∃ keyed, allHaveKeys type records = .ok keyed := by
  induction records with
  | nil => exact ⟨true, rfl⟩
  | cons record rest ih =>
    obtain ⟨entries, rfl⟩ := maps record List.mem_cons_self
    obtain ⟨keyed, more⟩ := ih fun other member => maps other (List.mem_cons_of_mem _ member)
    have field : (Value.map entries).field? type.key.text = .ok (Value.lookup type.key.text entries) := rfl
    rw [allHaveKeys, field]
    cases Value.lookup type.key.text entries with
    | none => exact ⟨false, rfl⟩
    | some key =>
      cases key with
      | null => exact ⟨false, rfl⟩
      | _ => exact ⟨keyed, more⟩

/-- Records that are maps can be inserted, if there are any. -/
theorem insert_of_maps {records : List Value} (nonempty : records ≠ [])
    (maps : ∀ record ∈ records, ∃ entries, record = .map entries) (values : ParameterList) :
    ∃ insert after, (Mutation.insert type (.list records)).runFrom values = (.ok insert, after) := by
  have holds : (Value.list records).holds = true := by simpa [Value.holds] using nonempty
  have one : ∀ columns, ∀ record ∈ records, ∀ values, ∃ slots after,
      (bindRow columns record).runFrom values = (.ok slots, after) := by
    intro columns record member
    obtain ⟨entries, rfl⟩ := maps record member
    exact mapM_runs fun column _ values => ⟨_, _, rfl⟩
  obtain ⟨keyed, keys⟩ := @allHaveKeys_of_maps type records maps
  obtain ⟨rows, after, bound⟩ := mapM_runs (one (insertColumns type keyed)) values
  have elements : (liftM (Value.list records).elements : Binding (List Value)).runFrom values = (.ok records, values) := rfl
  have known : (liftM (allHaveKeys type records) : Binding Bool).runFrom values = (.ok keyed, values) := by
    rw [keys]
    rfl
  refine ⟨⟨type.name, insertColumns type keyed, rows, if keyed then none else some type.key⟩, after, ?_⟩
  unfold Mutation.insert
  rw [holds]
  change (insertRows type (.list records)).runFrom values = _
  rw [insertRows, runFrom_bind_of_ok elements, runFrom_bind_of_ok known]
  exact runFrom_bind_of_ok bound _

/-! ### The text -/

namespace Insert
open Fragment

theorem slots_fragment (insert : Insert) :
    insert.fragment.slots = insert.rows.flatMap (·.map Slot.number) := by
  have row : ∀ slots : List Slot, (rowFragment slots).slots = slots.map Slot.number := by
    intro slots
    rw [rowFragment, slots_text, slots_append, slots_ofSlots]
    exact List.append_nil _
  have rows : (join ", " (insert.rows.map rowFragment)).slots = insert.rows.flatMap (·.map Slot.number) := by
    rw [slots_join, List.flatMap_map]
    exact congrArg (insert.rows.flatMap ·) (funext row)
  rw [fragment, slots_text, slots_append, slots_append, slots_ofIdentifiers, slots_text, rows]
  cases insert.returning <;> exact List.append_nil _

theorem worded_fragment {insert : Insert} (safe : ∀ row ∈ insert.rows, ∀ slot ∈ row, slot.cast ∈ castTexts) :
    insert.fragment.Worded := by
  have comma : Wording ", " := wording_closed (by decide +kernel)
  have rows : (join ", " (insert.rows.map rowFragment)).Worded := by
    refine worded_join comma fun f hf => ?_
    obtain ⟨row, member, rfl⟩ := List.mem_map.1 hf
    exact worded_cons (wording_closed (by decide +kernel))
      (worded_append (worded_slots (safe row member)) (worded_text (wording_closed (by decide +kernel))))
  refine worded_cons (wording_around insert.table (by decide +kernel) (by decide +kernel)) ?_
  refine worded_append (worded_append (worded_identifiers _) (worded_cons (wording_closed (by decide +kernel)) rows)) ?_
  cases insert.returning with
  | none => exact worded_nil
  | some key => exact worded_text (wording_append (wording_closed (by decide +kernel)) (wording_quoted key))

end Insert

end RecordStore.Mutation
