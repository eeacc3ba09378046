import RecordStore.Proofs.Record.Batch
import RecordStore.Proofs.Record.Decoding

/-!
# Records read from rows

A record that is read from a row has the key of the row and, in each declared field, what the field reads there. A record
that is stored and read again goes through the round of each of its fields, and nothing else can stop it.
-/

namespace RecordStore

namespace RecordType

variable {type : RecordType} {nesting : Option Nat} {source : Option KeySource} {made after : Nat} {row record : Value}

/-! ### Fields of a row -/

theorem decodeField_named {name : Identifier} {field : Field} {entry : Value × Value}
    (read : decodeField nesting row name field = .ok (some entry)) : ∃ v, entry = (.text name.text, v) := by
  unfold decodeField at read
  obtain ⟨found, _, read⟩ := bind_ok read
  cases found with
  | none => cases read
  | some v =>
    obtain ⟨decoded, _, read⟩ := bind_ok read
    cases read
    exact ⟨decoded, rfl⟩

theorem decodeFields_other {fields : List (Identifier × Field)} {entries : List (Option (Value × Value))}
    (read : (fields.mapM fun (name, field) => decodeField nesting row name field) = .ok entries) {name : String}
    (other : name ∉ fields.map (·.1.text)) (rest : List (Value × Value)) :
    Value.lookup name (entries.filterMap id ++ rest) = Value.lookup name rest := by
  induction fields generalizing entries with
  | nil =>
    cases read
    rfl
  | cons field more ih =>
    rw [List.mapM_cons] at read
    obtain ⟨entry, first, read⟩ := bind_ok read
    obtain ⟨others, later, read⟩ := bind_ok read
    cases read
    rw [List.map_cons, List.mem_cons, not_or] at other
    cases entry with
    | none =>
      show Value.lookup name (others.filterMap id ++ rest) = _
      exact ih later other.2
    | some entry =>
      obtain ⟨v, rfl⟩ := decodeField_named first
      show Value.lookup name ((.text field.1.text, v) :: (others.filterMap id ++ rest)) = _
      rw [lookup_cons_other (Ne.symm other.1)]
      exact ih later other.2

theorem decodeFields_ok {fields : List (Identifier × Field)} {entries : List (Option (Value × Value))}
    (read : (fields.mapM fun (name, field) => decodeField nesting row name field) = .ok entries)
    (nodup : (fields.map (·.1.text)).Nodup) (rest : List (Value × Value)) {e : Identifier × Field} (member : e ∈ fields)
    {v : Value} (found : row.field? e.1.text = .ok (some v)) :
    ∃ w, e.2.decode nesting v = .ok w ∧ Value.lookup e.1.text (entries.filterMap id ++ rest) = some w := by
  induction fields generalizing entries with
  | nil => cases member
  | cons field more ih =>
    rw [List.mapM_cons] at read
    obtain ⟨entry, first, read⟩ := bind_ok read
    obtain ⟨others, later, read⟩ := bind_ok read
    cases read
    obtain ⟨apart, nodup⟩ := List.nodup_cons.1 nodup
    rcases List.mem_cons.1 member with rfl | member
    · change decodeField nesting row e.1 e.2 = .ok entry at first
      rw [decodeField, found] at first
      change (e.2.decode nesting v >>= fun w => pure (some (Value.text e.1.text, w))) = _ at first
      obtain ⟨w, decoded, first⟩ := bind_ok first
      cases first
      exact ⟨w, decoded, lookup_cons_same _ _ _⟩
    · have other : field.1.text ≠ e.1.text := fun same => apart (List.mem_map.2 ⟨e, member, same.symm⟩)
      obtain ⟨w, decoded, there⟩ := ih later nodup member
      refine ⟨w, decoded, ?_⟩
      cases entry with
      | none => exact there
      | some entry =>
        obtain ⟨x, rfl⟩ := decodeField_named first
        show Value.lookup e.1.text ((.text field.1.text, x) :: (others.filterMap id ++ rest)) = _
        rw [lookup_cons_other other, there]

/-- A record that is read from a row has the key of the row. -/
theorem ownKey_decodeRecord (read : type.decodeRecord nesting row = .ok record) :
    type.ownKey record = some ((type.ownKey row).getD .null) := by
  unfold decodeRecord at read
  obtain ⟨entries, fielded, read⟩ := bind_ok read
  obtain ⟨key, found, read⟩ := bind_ok read
  cases read
  have own : key = type.ownKey row := Value.field?_ok found
  subst own
  show Value.lookup type.key.text (_ ++ _) = _
  rw [decodeFields_other fielded type.key_not_field]
  exact lookup_cons_same ..

/-- In a field that a row has, a record that is read from it has what the field reads there. -/
theorem decodeRecord_field (read : type.decodeRecord nesting row = .ok record) {e : Identifier × Field}
    (member : e ∈ type.fields) {v : Value} (found : row.field? e.1.text = .ok (some v)) :
    ∃ w, e.2.decode nesting v = .ok w ∧ record.field? e.1.text = .ok (some w) := by
  unfold decodeRecord at read
  obtain ⟨entries, fielded, read⟩ := bind_ok read
  obtain ⟨key, _, read⟩ := bind_ok read
  cases read
  obtain ⟨w, decoded, there⟩ := decodeFields_ok fielded type.nodup_fields _ member found
  exact ⟨w, decoded, congrArg Except.ok there⟩

theorem decodeRecord_total {entries : List (Value × Value)}
    (each : ∀ e ∈ type.fields, ∃ read, decodeField nesting (.map entries) e.1 e.2 = .ok read) :
    ∃ record, type.decodeRecord nesting (.map entries) = .ok record := by
  obtain ⟨read, fielded⟩ := mapM_total each
  have fielded : (type.fields.mapM fun (name, field) => decodeField nesting (.map entries) name field) = .ok read :=
    fielded
  rw [decodeRecord, fielded]
  exact ⟨_, rfl⟩

section Keys
variable {entries : List (Value × Value)}
open Value (lookup)

theorem decodeFields_keys {fields : List (Identifier × Field)} {read : List (Option (Value × Value))}
    (made : (fields.mapM fun (name, field) => decodeField nesting (.map entries) name field) = .ok read) :
    (read.filterMap id).map (·.1) =
      ((fields.map (·.1)).filter fun name => (lookup name.text entries).isSome).map (Value.text ·.text) := by
  induction fields generalizing read with
  | nil =>
    cases made
    rfl
  | cons field rest ih =>
    rw [List.mapM_cons] at made
    obtain ⟨entry, first, made⟩ := bind_ok made
    obtain ⟨others, more, made⟩ := bind_ok made
    cases made
    change decodeField nesting (.map entries) field.1 field.2 = .ok entry at first
    unfold decodeField at first
    obtain ⟨value, looked, first⟩ := bind_ok first
    obtain rfl : lookup field.1.text entries = value := Except.ok.inj looked
    rw [List.map_cons]
    cases found : lookup field.1.text entries with
    | none =>
      rw [found] at first
      cases first
      rw [List.filter_cons_of_neg (by simp [found]), ← ih more]
      rfl
    | some v =>
      rw [found] at first
      obtain ⟨w, _, first⟩ := bind_ok first
      cases first
      rw [List.filter_cons_of_pos (by simp [found])]
      exact congrArg (_ :: ·) (ih more)

/-- A record that is read from a row has the fields that the row has, in order of declaration, and the key. -/
theorem keys_decodeRecord (read : type.decodeRecord nesting (.map entries) = .ok record) :
    ∃ own, record = .map own ∧ own.map (·.1) =
      (type.fieldNames.filter fun name => (lookup name.text entries).isSome).map (Value.text ·.text) ++
        [.text type.key.text] := by
  unfold decodeRecord at read
  obtain ⟨fields, fielded, read⟩ := bind_ok read
  obtain ⟨key, _, read⟩ := bind_ok read
  cases read
  refine ⟨_, rfl, ?_⟩
  rw [List.map_append, decodeFields_keys fielded]
  rfl

/-- Rows of which every declared field stands for something. -/
def Readable (type : RecordType) (nesting : Option Nat) (row : Value) : Prop :=
  ∀ e ∈ type.fields, ∀ v, lookup e.1.text row.ownEntries = some v → ∃ w, e.2.StandsFor nesting v w

theorem decodeRecord_ok_iff :
    (∃ record, type.decodeRecord nesting (.map entries) = .ok record) ↔ type.Readable nesting (.map entries) := by
  constructor
  · rintro ⟨record, read⟩ e member v found
    obtain ⟨w, decoded, _⟩ := decodeRecord_field read member (congrArg Except.ok found)
    exact ⟨w, Field.decode_ok_iff.1 decoded⟩
  · intro readable
    refine decodeRecord_total fun e member => ?_
    have looked : (Value.map entries).field? e.1.text = .ok (lookup e.1.text entries) := rfl
    rw [decodeField, looked]
    cases found : lookup e.1.text entries with
    | none => exact ⟨none, rfl⟩
    | some v =>
      obtain ⟨w, stands⟩ := readable e member v found
      refine ⟨some (.text e.1.text, w), ?_⟩
      show (e.2.decode nesting v >>= fun w => pure (some (Value.text e.1.text, w))) = _
      rw [Field.decode_ok_iff.2 stands]
      rfl

end Keys

/-! ### Records that are stored and read again -/

/-- A record of which every field can be stored can be stored: there always is a key or none is needed. -/
theorem encodeRecord_total (source : Option KeySource) (made : Nat) {entries : List (Value × Value)}
    (each : ∀ e ∈ type.fields, ∃ stored, encodeField (.map entries) e.1 e.2 = .ok stored) :
    ∃ row after, (type.encodeRecord source (.map entries)).run.run made = (.ok row, after) := by
  obtain ⟨stored, fielded⟩ := mapM_total each
  have fielded : (type.fields.mapM fun (name, field) => encodeField (.map entries) name field) = .ok stored := fielded
  have keyed : ∃ key after, (type.keyOf source (.map entries)).run.run made = (.ok key, after) := by
    have looked : (Value.map entries).field? type.key.text = .ok (Value.lookup type.key.text entries) := rfl
    rw [keyOf, looked]
    cases Value.lookup type.key.text entries with
    | some key => exact ⟨_, _, rfl⟩
    | none => cases source <;> exact ⟨_, _, rfl⟩
  obtain ⟨key, after, keyed⟩ := keyed
  rw [encodeRecord, ExceptT.run_bind, StateT.run_bind, keyed, fielded]
  exact ⟨_, after, rfl⟩

end RecordType

/-- What comes back of the value that a record has for a field, or has not, when it is stored and read again. -/
def Field.round (nesting : Option Nat) (field : Field) : Option Value → Except Misuse Value
  | none => .ok field.absentValue
  | some v => field.encode v >>= field.decode nesting

namespace RecordType

variable {type : RecordType} {nesting : Option Nat} {source : Option KeySource} {made after : Nat} {row record : Value}
  {entries : List (Value × Value)}

theorem round_eq_ok_iff {name : Identifier} {field : Field} {w : Value} :
    field.round nesting (Value.lookup name.text entries) = .ok w ↔
      ∃ stored, encodeField (.map entries) name field = .ok (.text name.text, stored) ∧
        field.decode nesting stored = .ok w := by
  have looked : (Value.map entries).field? name.text = .ok (Value.lookup name.text entries) := rfl
  rw [encodeField, looked]
  cases Value.lookup name.text entries with
  | none =>
    constructor
    · intro kept
      cases kept
      exact ⟨_, rfl, field.decode_absentValue⟩
    · rintro ⟨stored, made, read⟩
      cases made
      rw [field.decode_absentValue] at read
      exact read
  | some v =>
    show (field.encode v >>= field.decode nesting) = .ok w ↔ _
    constructor
    · intro came
      obtain ⟨stored, made, read⟩ := bind_ok came
      refine ⟨stored, ?_, read⟩
      show (field.encode v >>= fun stored => pure (Value.text name.text, stored)) = _
      rw [made]
      rfl
    · rintro ⟨stored, made, read⟩
      change (field.encode v >>= fun stored => pure (Value.text name.text, stored)) = _ at made
      obtain ⟨own, encoded, same⟩ := bind_ok made
      cases same
      rw [encoded]
      exact read

/-- A record that was stored and read again has in each field what comes back of its value for the field. -/
theorem rounds_of_ok (stored : (type.encodeRecord source (.map entries)).run.run made = (.ok row, after))
    (read : type.decodeRecord nesting row = .ok record) {e : Identifier × Field} (member : e ∈ type.fields) :
    ∃ w, e.2.round nesting (Value.lookup e.1.text entries) = .ok w ∧ record.field? e.1.text = .ok (some w) := by
  obtain ⟨asStored, _⟩ := encodeRecord_ok stored
  obtain ⟨own, rfl⟩ := asStored.map
  obtain ⟨v, found, encoded⟩ := asStored.fields e member
  obtain ⟨w, decoded, there⟩ := decodeRecord_field read member (congrArg Except.ok found)
  exact ⟨w, round_eq_ok_iff.2 ⟨v, encoded, decoded⟩, there⟩

/-- A record comes back if the value of each of its fields does. -/
theorem ok_of_rounds (source : Option KeySource) (made : Nat)
    (each : ∀ e ∈ type.fields, ∃ w, e.2.round nesting (Value.lookup e.1.text entries) = .ok w) :
    ∃ row after record, (type.encodeRecord source (.map entries)).run.run made = (.ok row, after) ∧
      type.decodeRecord nesting row = .ok record := by
  have storing : ∀ e ∈ type.fields, ∃ stored, encodeField (.map entries) e.1 e.2 = .ok stored := by
    intro e member
    obtain ⟨w, came⟩ := each e member
    obtain ⟨stored, made, _⟩ := round_eq_ok_iff.1 came
    exact ⟨_, made⟩
  obtain ⟨row, after, stored⟩ := encodeRecord_total source made storing
  obtain ⟨asStored, _⟩ := encodeRecord_ok stored
  obtain ⟨own, rfl⟩ := asStored.map
  have readable : type.Readable nesting (.map own) := by
    intro e member v found
    obtain ⟨w, came⟩ := each e member
    obtain ⟨v', encoded, decoded⟩ := round_eq_ok_iff.1 came
    obtain ⟨v'', there, again⟩ := asStored.fields e member
    cases encoded.symm.trans again
    cases found.symm.trans there
    exact ⟨w, Field.decode_ok_iff.1 decoded⟩
  obtain ⟨record, read⟩ := decodeRecord_ok_iff.2 readable
  exact ⟨_, after, record, stored, read⟩

end RecordType
end RecordStore
