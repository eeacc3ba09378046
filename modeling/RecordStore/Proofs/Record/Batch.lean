import RecordStore.Proofs.Record.RoundTrip
import RecordStore.Proofs.Value.Access

/-!
# Records encoded one after the other

A batch of records that can be encoded becomes as many rows, each of them the encoded form of the record in its place.
A key is drawn for every record that carries none, in the order of the batch and for no other record.
-/

namespace RecordStore

namespace RecordType

variable {type : RecordType} {source : Option KeySource} {made after : Nat}

/-! ### Drawing -/

theorem drawing_bind_ok {α β : Type} {first : Drawing α} {f : α → Drawing β} {b : β}
    (ran : (first >>= f).run.run made = (.ok b, after)) :
    ∃ a middle, first.run.run made = (.ok a, middle) ∧ (f a).run.run middle = (.ok b, after) := by
  rw [ExceptT.run_bind, StateT.run_bind] at ran
  rcases head : first.run.run made with ⟨result, middle⟩
  rw [head] at ran
  cases result with
  | error e => cases ran
  | ok a => exact ⟨a, middle, rfl, ran⟩

theorem drawing_lift_ok {α : Type} {result : Except Misuse α} {a : α}
    (ran : (liftM result : Drawing α).run.run made = (.ok a, after)) : result = .ok a ∧ made = after := by
  cases result with
  | error e => cases ran
  | ok b =>
    cases ran
    exact ⟨rfl, rfl⟩

/-! ### One record -/

/-- The key that a record carries, also if it is null. -/
def ownKey (type : RecordType) (record : Value) : Option Value := Value.lookup type.key.text record.ownEntries

/-- How many keys are drawn for records. -/
def drawn (type : RecordType) (source : Option KeySource) (records : List Value) : Nat :=
  if source.isSome then records.countP fun record => (type.ownKey record).isNone else 0

theorem drawn_append (records others : List Value) :
    type.drawn source (records ++ others) = type.drawn source records + type.drawn source others := by
  unfold drawn
  split
  · exact List.countP_append
  · rfl

/-- A row that a record is stored as: its key, its own or a drawn one, and a value for every field. -/
structure StoredAs (type : RecordType) (source : Option KeySource) (made : Nat) (record row : Value) : Prop where
  map : ∃ entries, row = .map entries
  key : type.ownKey row = (type.ownKey record).or (source.map fun draw => draw made type.name.text)
  fields : ∀ e ∈ type.fields, ∃ v, Value.lookup e.1.text row.ownEntries = some v ∧
    encodeField record e.1 e.2 = .ok (.text e.1.text, v)

theorem keyOf_ok {record : Value} {key : Option Value} (ran : (type.keyOf source record).run.run made = (.ok key, after)) :
    key = (type.ownKey record).or (source.map fun draw => draw made type.name.text) ∧
      after = made + type.drawn source [record] := by
  unfold keyOf at ran
  obtain ⟨own, middle, looked, ran⟩ := drawing_bind_ok ran
  obtain ⟨found, rfl⟩ := drawing_lift_ok looked
  obtain rfl : own = type.ownKey record := Value.field?_ok found
  cases given : type.ownKey record with
  | some k =>
    rw [given] at ran
    cases ran
    simp [drawn, given]
  | none =>
    rw [given] at ran
    cases source with
    | some draw =>
      cases ran
      simp [drawn, given]
    | none =>
      cases ran
      simp [drawn]

theorem encodeField_named {record : Value} {name : Identifier} {field : Field} {entry : Value × Value}
    (made : encodeField record name field = .ok entry) : ∃ v, entry = (.text name.text, v) := by
  unfold encodeField at made
  obtain ⟨found, _, made⟩ := bind_ok made
  split at made
  · obtain ⟨v, _, made⟩ := bind_ok made
    exact ⟨v, (pure_ok made).symm⟩
  · exact ⟨_, (pure_ok made).symm⟩

theorem encodeFields_ok {record : Value} {fields : List (Identifier × Field)} {entries : List (Value × Value)}
    (made : (fields.mapM fun (name, field) => encodeField record name field) = .ok entries)
    (nodup : (fields.map (·.1.text)).Nodup) :
    ∀ e ∈ fields, ∃ v, Value.lookup e.1.text entries = some v ∧ encodeField record e.1 e.2 = .ok (.text e.1.text, v) := by
  induction fields generalizing entries with
  | nil => simp
  | cons field rest ih =>
    rw [List.mapM_cons] at made
    obtain ⟨entry, first, made⟩ := bind_ok made
    obtain ⟨others, more, made⟩ := bind_ok made
    cases made
    obtain ⟨apart, nodup⟩ := List.nodup_cons.1 nodup
    obtain ⟨v, rfl⟩ : ∃ v, entry = (.text field.1.text, v) := encodeField_named first
    intro e member
    rcases List.mem_cons.1 member with rfl | later
    · exact ⟨v, lookup_cons_same _ _ _, first⟩
    · have other : field.1.text ≠ e.1.text := fun same => apart (List.mem_map.2 ⟨e, later, same.symm⟩)
      rw [lookup_cons_other other]
      exact ih more nodup e later

theorem encodeFields_other {record : Value} {fields : List (Identifier × Field)} {entries : List (Value × Value)}
    (made : (fields.mapM fun (name, field) => encodeField record name field) = .ok entries) {name : String}
    (other : name ∉ fields.map (·.1.text)) : Value.lookup name entries = none := by
  induction fields generalizing entries with
  | nil =>
    cases made
    rfl
  | cons field rest ih =>
    rw [List.mapM_cons] at made
    obtain ⟨entry, first, made⟩ := bind_ok made
    obtain ⟨others, more, made⟩ := bind_ok made
    cases made
    obtain ⟨v, rfl⟩ := encodeField_named first
    rw [List.map_cons, List.mem_cons, not_or] at other
    rw [lookup_cons_other (Ne.symm other.1), ih more other.2]

theorem encodeRecord_ok {record row : Value}
    (ran : (type.encodeRecord source record).run.run made = (.ok row, after)) :
    type.StoredAs source made record row ∧ after = made + type.drawn source [record] := by
  unfold encodeRecord at ran
  obtain ⟨key, middle, keyed, ran⟩ := drawing_bind_ok ran
  obtain ⟨entries, last, fielded, ran⟩ := drawing_bind_ok ran
  obtain ⟨fields, rfl⟩ := drawing_lift_ok fielded
  cases ran
  obtain ⟨own, drew⟩ := keyOf_ok keyed
  refine ⟨⟨⟨_, rfl⟩, ?_, fun e member => ?_⟩, drew⟩
  · rw [← own]
    cases key with
    | some k => exact lookup_cons_same _ _ _
    | none => exact encodeFields_other fields type.key_not_field
  · obtain ⟨v, found, encoded⟩ := encodeFields_ok fields type.nodup_fields e member
    have apart : type.key.text ≠ e.1.text := fun same => type.key_not_field (List.mem_map.2 ⟨e, member, same.symm⟩)
    refine ⟨v, ?_, encoded⟩
    cases key with
    | some k =>
      change Value.lookup e.1.text ((.text type.key.text, k) :: entries) = some v
      rw [lookup_cons_other apart, found]
    | none => exact found

/-! ### Batches -/

/-- Rows that a batch is stored as, record by record; a record's key is drawn after those of the records before it. -/
structure BatchStoredAs (type : RecordType) (source : Option KeySource) (made : Nat) (records rows : List Value)
    (after : Nat) : Prop where
  length : rows.length = records.length
  each : ∀ i record, records[i]? = some record → ∃ row, rows[i]? = some row ∧
    (type.encodeRecord source record).run.run (made + type.drawn source (records.take i)) =
      (.ok row, made + type.drawn source (records.take (i + 1))) ∧
    type.StoredAs source (made + type.drawn source (records.take i)) record row
  drew : after = made + type.drawn source records

theorem BatchStoredAs.maps {records rows : List Value} (stored : type.BatchStoredAs source made records rows after) :
    ∀ row ∈ rows, ∃ entries, row = .map entries := by
  intro row member
  obtain ⟨i, place⟩ := List.getElem?_of_mem member
  obtain ⟨inside, _⟩ := List.getElem?_eq_some_iff.1 place
  obtain ⟨own, there, _, asStored⟩ := stored.each i _ (List.getElem?_eq_getElem (stored.length ▸ inside))
  obtain rfl := Option.some.inj (place.symm.trans there)
  exact asStored.map

theorem BatchStoredAs.filled {records rows : List Value} (stored : type.BatchStoredAs source made records rows after)
    (nonempty : records ≠ []) : rows ≠ [] := by
  rintro rfl
  exact nonempty (List.length_eq_zero_iff.1 stored.length.symm)

theorem encodeRecords_ok {records rows : List Value}
    (ran : (records.mapM (type.encodeRecord source)).run.run made = (.ok rows, after)) :
    type.BatchStoredAs source made records rows after := by
  induction records generalizing made rows with
  | nil =>
    cases ran
    exact ⟨rfl, fun i record none => by simp at none, by simp [drawn]⟩
  | cons record rest ih =>
    rw [List.mapM_cons] at ran
    obtain ⟨row, middle, first, ran⟩ := drawing_bind_ok ran
    obtain ⟨others, last, more, ran⟩ := drawing_bind_ok ran
    cases ran
    obtain ⟨stored, rfl⟩ := encodeRecord_ok first
    have later := ih more
    have split : ∀ i, type.drawn source ((record :: rest).take (i + 1)) =
        type.drawn source [record] + type.drawn source (rest.take i) := by
      intro i
      rw [List.take_succ_cons, ← List.singleton_append, drawn_append]
    refine ⟨by simp [later.length], fun i other found => ?_, ?_⟩
    · cases i with
      | zero =>
        obtain rfl := Option.some.inj found
        have start : made + type.drawn source ((record :: rest).take 0) = made := by simp [drawn]
        refine ⟨row, rfl, ?_, ?_⟩
        · rw [start, split, List.take_zero, first]
          simp [drawn]
        · rw [start]
          exact stored
      | succ i =>
        obtain ⟨next, place, encoded, asStored⟩ := later.each i other found
        refine ⟨next, place, ?_, ?_⟩
        · rw [split, split, ← Nat.add_assoc, ← Nat.add_assoc]
          exact encoded
        · rw [split, ← Nat.add_assoc]
          exact asStored
    · have whole : type.drawn source (record :: rest) = type.drawn source [record] + type.drawn source rest :=
        drawn_append [record] rest
      rw [later.drew, whole, Nat.add_assoc]

end RecordType
end RecordStore
