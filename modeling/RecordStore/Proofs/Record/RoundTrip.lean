import RecordStore.Proofs.Json.RoundTrip
import RecordStore.Proofs.Json.Writable
import RecordStore.Proofs.Value.Access
import RecordStore.Record.Codec

/-!
# Records come back from the store

What encoding makes of a value of the kind of its field, decoding turns back into it: bytes through their
hexadecimal text, maps through their JSON text. The stored form of a record is then read back field by
field.
-/

namespace RecordStore

variable {nesting : Option Nat}

/-! ### Values -/

/-- Whether a value is one of a kind: nothing is of any kind, bytes and plain maps have a kind of their own,
and every other value is of the kinds that are left. -/
def Kind.admits (nesting : Option Nat) (kind : Kind) (v : Value) : Bool :=
  match kind, v with
  | _, .null => true
  | .binary, v => v.isBytes
  | .structured, .map entries => Json.areEntriesPlain entries && Json.depth (.map entries) ≤ Json.depthLimit &&
      nesting.all (Json.depth (.map entries) ≤ ·)
  | .structured, _ => false
  | _, v => !v.isBytes && v.entries?.isNone

/-- A value with bytes in any form turned into fixed ones. -/
def Value.fixedBytes : Value → Value
  | .bytes _ data => .bytes .fixed data
  | v => v

theorem decoded_binary_text (data : List UInt8) :
    (Value.text (String.ofList (binaryMark ++ Hex.encode data))).decodedBinary = .ok (.bytes .fixed data) := by
  rw [Value.decodedBinary]
  simp only [Text.chars, String.toList_ofList, binaryMark, List.cons_append, List.nil_append, Hex.decode_encode]

theorem encodedWithin_map {room : Option Nat} {entries : List (Value × Value)} {stored : Value} :
    (Value.map entries).encodedWithin room = .ok stored ↔
      ∃ cs, Json.write room (.map entries) = .ok cs ∧ stored = .text (String.ofList cs) := by
  rw [Value.encodedWithin, Json.text]
  cases Json.write room (.map entries) with
  | error e => simp [Except.map]
  | ok cs =>
    constructor
    · rintro ⟨⟩
      exact ⟨cs, rfl, rfl⟩
    · rintro ⟨_, ⟨⟩, rfl⟩
      rfl

theorem decodedStructured_written {room : Option Nat} {v : Value} {cs : List Char} (written : Json.write room v = .ok cs)
    (nesting : Option Nat) :
    (Value.text (String.ofList cs)).decodedStructured nesting =
      if nesting.all (Json.depth v ≤ ·) then .ok (Json.normal v) else .error .tooDeep := by
  rw [Value.decodedStructured, Json.read_written written]
  by_cases fits : nesting.all (Json.depth v ≤ ·) = true
  · rw [if_pos fits, if_pos fits]
  · rw [if_neg fits, if_neg fits]

theorem decoded_encoded {kind : Kind} {v : Value} (h : kind.admits nesting v = true) :
    ∃ stored, v.encoded = .ok stored ∧ stored.decoded nesting kind = .ok v.fixedBytes := by
  cases v with
  | null => exact ⟨.null, rfl, by cases kind <;> rfl⟩
  | bytes form data =>
    cases kind with
    | binary => exact ⟨_, rfl, decoded_binary_text data⟩
    | _ => simp [Kind.admits, Value.isBytes] at h
  | map entries =>
    cases kind with
    | structured =>
      simp only [Kind.admits, Bool.and_eq_true] at h
      have plain : Json.isPlain (.map entries) = true := h.1.1
      obtain ⟨cs, written⟩ := @Json.write_of_plain (some Json.depthLimit) _ plain h.1.2
      refine ⟨_, encodedWithin_map.2 ⟨cs, written, rfl⟩, ?_⟩
      rw [Value.decoded, decodedStructured_written written, if_pos h.2, Json.normal_of_plain plain]
      rfl
    | _ => simp [Kind.admits, Value.isBytes, Value.entries?] at h
  | _ =>
    cases kind with
    | binary => simp [Kind.admits, Value.isBytes] at h
    | structured => simp [Kind.admits] at h
    | _ => exact ⟨_, rfl, rfl⟩

namespace Field

/-! ### Fields -/

/-- Whether a value may stand in a field: an array holds a list of values of its kind, or nothing. -/
def admits (nesting : Option Nat) (field : Field) (v : Value) : Bool :=
  match field.isArray, v with
  | true, .null => true
  | true, .list items => items.all (field.kind.admits nesting)
  | true, _ => false
  | false, v => field.kind.admits nesting v

/-- What comes back of a value of a field. -/
def restored (field : Field) (v : Value) : Value :=
  match field.isArray, v with
  | true, .list items => .list (items.map Value.fixedBytes)
  | _, v => v.fixedBytes

theorem convert_one {field : Field} (one : field.isArray = false) (f : Value → Except Misuse Value) (v : Value) :
    field.convert f v = f v := by
  simp [convert, one]

theorem convert_null {field : Field} (f : Value → Except Misuse Value) : field.convert f .null = f .null := by
  simp [convert, Value.isNull]

theorem convert_each {field : Field} (array : field.isArray = true) {v w : Value} (given : v ≠ .null)
    (convertOne : Value → Except Misuse Value) :
    field.convert convertOne v = .ok w ↔
      ∃ items read, v.elements? = some items ∧ items.mapM convertOne = .ok read ∧ w = .list read := by
  have filled : v.isNull = false := by
    cases v with
    | null => exact absurd rfl given
    | _ => rfl
  unfold convert
  rw [array, filled]
  constructor
  · intro made
    obtain ⟨items, listed, made⟩ := bind_ok made
    obtain ⟨read, each, made⟩ := bind_ok made
    exact ⟨items, read, Value.elements_ok listed, each, (Except.ok.inj made).symm⟩
  · rintro ⟨items, read, listed, each, rfl⟩
    have elements : v.elements = .ok items := by rw [Value.elements, listed]
    rw [elements]
    exact congrArg (· >>= fun read => pure (Value.list read)) each

theorem convert_items {field : Field} (array : field.isArray = true) (f : Value → Except Misuse Value) (items : List Value) :
    field.convert f (.list items) = (items.mapM f).map .list := by
  rw [convert, array, if_pos (by rfl)]
  show (items.mapM f >>= fun results => pure (Value.list results)) = _
  cases items.mapM f <;> rfl

theorem convert_list {field : Field} (array : field.isArray = true) {f : Value → Except Misuse Value}
    {items results : List Value} (h : items.mapM f = .ok results) :
    field.convert f (.list items) = .ok (.list results) := by
  rw [convert_items array, h]
  rfl

theorem decode_encode {field : Field} {v : Value} (own : field.isInverse = false)
    (h : field.admits nesting v = true) :
    ∃ stored, field.encode v = .ok stored ∧ field.decode nesting stored = .ok (field.restored v) := by
  have decode_eq : ∀ stored, field.decode nesting stored = field.convert (Value.decoded nesting field.kind) stored := by
    intro stored
    rw [decode, own, if_neg (by simp)]
  simp only [decode_eq, encode]
  unfold admits at h
  cases array : field.isArray with
  | false =>
    rw [array] at h
    obtain ⟨stored, made, back⟩ := decoded_encoded h
    refine ⟨stored, by rw [convert_one array, made], ?_⟩
    rw [convert_one array, back]
    simp [restored, array]
  | true =>
    rw [array] at h
    cases v with
    | null =>
      have admitted : field.kind.admits nesting .null = true := rfl
      obtain ⟨stored, made, back⟩ := decoded_encoded admitted
      refine ⟨stored, by rw [convert_null, made], ?_⟩
      cases made
      rw [convert_null, back]
      simp [restored]
    | list items =>
      obtain ⟨stored, made, back⟩ := mapM_round fun item member => decoded_encoded (List.all_eq_true.1 h item member)
      refine ⟨.list stored, convert_list array made, ?_⟩
      rw [convert_list array back]
      simp [restored, array]
    | _ => cases h

theorem decode_absentValue (field : Field) : field.decode nesting field.absentValue = .ok field.absentValue := by
  unfold decode
  cases field.isInverse with
  | true => rfl
  | false =>
    unfold absentValue convert
    cases field.isArray with
    | true => rfl
    | false => cases field.kind <;> rfl

/-- What is stored for a field, by the value that the record has for it. -/
def stored (field : Field) : Option Value → Value
  | none => field.absentValue
  | some v => (field.encode v).toOption.getD .null

/-- What comes back for a field: a repeated link as it is stored, everything else as it was. -/
def kept (field : Field) : Option Value → Value
  | none => field.absentValue
  | some v => if field.isInverse then field.stored (some v) else field.restored v

end Field

/-! ### Records -/

theorem lookup_cons_other {name other : String} (apart : other ≠ name) (v : Value) (rest : List (Value × Value)) :
    Value.lookup name ((.text other, v) :: rest) = Value.lookup name rest := by
  simp [Value.lookup, Value.isText, apart]

theorem lookup_cons_same (name : Text) (v : Value) (rest : List (Value × Value)) :
    Value.lookup name ((.text name, v) :: rest) = some v := by
  simp [Value.lookup, Value.isText]

theorem lookup_field {fields : List (Identifier × Field)} (nodup : (fields.map (·.1.text)).Nodup)
    (value : Identifier × Field → Value) {e : Identifier × Field} (member : e ∈ fields) :
    Value.lookup e.1.text (fields.map fun e => (.text e.1.text, value e)) = some (value e) := by
  induction fields with
  | nil => cases member
  | cons d rest ih =>
    rw [List.map_cons, List.nodup_cons] at nodup
    rw [List.map_cons]
    rcases List.mem_cons.1 member with rfl | later
    · exact lookup_cons_same ..
    · have apart : d.1.text ≠ e.1.text := fun same => nodup.1 (same ▸ List.mem_map_of_mem later)
      rw [lookup_cons_other apart, ih nodup.2 later]

namespace RecordType
variable {type : RecordType} {entries : List (Value × Value)}

/-- Whether the values of a record fit its type; of a repeated link it counts only that it can be stored. -/
def admits (nesting : Option Nat) (type : RecordType) (entries : List (Value × Value)) : Bool :=
  type.fields.all fun (name, field) =>
    (Value.lookup name.text entries).all fun v =>
      if field.isInverse then (field.encode v).isOk else field.admits nesting v

/-- The key of a record: its own, or else the next one of the source. -/
def keyFor (type : RecordType) (source : Option KeySource) (made : Nat) (entries : List (Value × Value)) : Value :=
  match Value.lookup type.key.text entries with
  | some key => key
  | none => (source.map fun next => next made type.name.text).getD .null

def madeFor (type : RecordType) (made : Nat) (entries : List (Value × Value)) : Nat :=
  if (Value.lookup type.key.text entries).isSome then made else made + 1

theorem keyOf_run {source : Option KeySource} (made : Nat)
    (keyed : (Value.lookup type.key.text entries).isSome ∨ source.isSome) :
    (type.keyOf source (.map entries)).run.run made =
      (.ok (some (type.keyFor source made entries)), type.madeFor made entries) := by
  unfold keyFor madeFor
  have field_eq : (Value.map entries).field? type.key.text = .ok (Value.lookup type.key.text entries) := rfl
  unfold keyOf
  rw [field_eq]
  cases own : Value.lookup type.key.text entries with
  | some key => rfl
  | none =>
    rw [own] at keyed
    cases source with
    | some next => rfl
    | none => simp at keyed

/-- A field that fits has a stored form, which is read as what is kept of it. -/
theorem stored_field {name : Identifier} {field : Field} (fits : type.admits nesting entries = true)
    (member : (name, field) ∈ type.fields) :
    encodeField (.map entries) name field = .ok (.text name.text, field.stored (Value.lookup name.text entries)) ∧
      field.decode nesting (field.stored (Value.lookup name.text entries)) =
        .ok (field.kept (Value.lookup name.text entries)) := by
  have fit := List.all_eq_true.1 fits _ member
  have field_eq : (Value.map entries).field? name.text = .ok (Value.lookup name.text entries) := rfl
  dsimp only at fit
  rw [encodeField, field_eq]
  cases given : Value.lookup name.text entries with
  | none => exact ⟨rfl, field.decode_absentValue⟩
  | some v =>
    rw [given, Option.all_some] at fit
    cases own : field.isInverse with
    | true =>
      rw [own, if_pos rfl] at fit
      cases made : field.encode v with
      | error e =>
        rw [made] at fit
        cases fit
      | ok stored =>
        constructor
        · change (field.encode v >>= fun stored => pure _) = _
          rw [made, Field.stored, made]
          rfl
        · rw [Field.decode, own, if_pos rfl, Field.kept, own, if_pos rfl]
    | false =>
      rw [own, if_neg (by simp)] at fit
      obtain ⟨stored, made, back⟩ := Field.decode_encode own fit
      constructor
      · change (field.encode v >>= fun stored => pure _) = _
        rw [made, Field.stored, made]
        rfl
      · rw [Field.stored, made, Field.kept, own, if_neg (by simp)]
        exact back

/-- The row of the store that a record becomes. -/
def rowOf (type : RecordType) (source : Option KeySource) (made : Nat) (entries : List (Value × Value)) : Value :=
  .map ((.text type.key.text, type.keyFor source made entries) ::
    type.fields.map fun e => (.text e.1.text, e.2.stored (Value.lookup e.1.text entries)))

/-- The record that a row of the store becomes: the declared fields, and the key last. -/
def recordOf (type : RecordType) (source : Option KeySource) (made : Nat) (entries : List (Value × Value)) : Value :=
  .map (type.fields.map (fun e => (.text e.1.text, e.2.kept (Value.lookup e.1.text entries))) ++
    [(.text type.key.text, type.keyFor source made entries)])

theorem encodeRecord_run {source : Option KeySource} (made : Nat)
    (keyed : (Value.lookup type.key.text entries).isSome ∨ source.isSome)
    (fits : type.admits nesting entries = true) :
    (type.encodeRecord source (.map entries)).run.run made =
      (.ok (type.rowOf source made entries), type.madeFor made entries) := by
  have keyRun := keyOf_run made keyed
  have encoded : (type.fields.mapM fun (name, field) => encodeField (.map entries) name field) =
      .ok (type.fields.map fun e => (.text e.1.text, e.2.stored (Value.lookup e.1.text entries))) :=
    mapM_ok fun e member => (stored_field fits member).1
  unfold encodeRecord
  rw [ExceptT.run_bind, StateT.run_bind, keyRun, encoded]
  rfl

section Rows
variable {source : Option KeySource} {made : Nat}

theorem rowOf_key : (type.rowOf source made entries).field? type.key.text =
    .ok (some (type.keyFor source made entries)) := by
  change Except.ok (Value.lookup type.key.text (_ :: _)) = _
  rw [lookup_cons_same]

theorem rowOf_field {e : Identifier × Field} (member : e ∈ type.fields) :
    (type.rowOf source made entries).field? e.1.text = .ok (some (e.2.stored (Value.lookup e.1.text entries))) := by
  have apart : type.key.text ≠ e.1.text := fun same => type.key_not_field (same ▸ List.mem_map_of_mem member)
  change Except.ok (Value.lookup e.1.text (_ :: _)) = _
  rw [lookup_cons_other apart, lookup_field type.nodup_fields _ member]

theorem decodeRecord_rowOf (fits : type.admits nesting entries = true) :
    type.decodeRecord nesting (type.rowOf source made entries) = .ok (type.recordOf source made entries) := by
  have decoded : (type.fields.mapM fun (name, field) => decodeField nesting (type.rowOf source made entries) name field) =
      .ok (type.fields.map fun e => some (.text e.1.text, e.2.kept (Value.lookup e.1.text entries))) := by
    refine mapM_ok fun e member => ?_
    dsimp only
    rw [decodeField, rowOf_field member]
    change (e.2.decode nesting _ >>= fun v => pure _) = _
    rw [(stored_field fits member).2]
    rfl
  rw [decodeRecord, decoded, rowOf_key]
  change Except.ok _ = _
  rw [List.filterMap_map]
  congr 3
  exact congrFun List.filterMap_eq_map' type.fields

end Rows

/-- A record comes back with its declared fields as they were, and with its key. -/
theorem decodeRecord_encodeRecord (type : RecordType) (source : Option KeySource) (made : Nat)
    (keyed : (Value.lookup type.key.text entries).isSome ∨ source.isSome)
    (fits : type.admits nesting entries = true) :
    ∃ stored, (type.encodeRecord source (.map entries)).run.run made = (.ok stored, type.madeFor made entries) ∧
      type.decodeRecord nesting stored = .ok (type.recordOf source made entries) :=
  ⟨_, encodeRecord_run made keyed fits, decodeRecord_rowOf fits⟩

def noteSample : RecordType where
  name := ⟨"note", by decide⟩
  key := ⟨"id", by decide⟩
  fields := [(⟨"cover", by decide⟩, { kind := .binary, isArray := true }),
    (⟨"meta", by decide⟩, { kind := .structured }), (⟨"title", by decide⟩, { kind := .text })]
  nodup_fields := by decide
  key_not_field := by decide

def noteEntries : List (Value × Value) :=
  [(.text "cover", .list [.bytes .growable [0, 255], .null]),
    (.text "meta", .map [(.text "say \"é\"", .list [.int (-7), .float .nan, .map [(.text "", .null)]])]),
    (.text "other", .int 1)]

def noteKeys : KeySource := fun made name => .text (name ++ toString made)

/-- A note without a key gets the fifth one; what is not declared is gone. -/
theorem note_comes_back : noteSample.admits (some 3) noteEntries = true ∧ noteKeys 4 "note" = .text "note4" ∧
    ∃ stored, (noteSample.encodeRecord (some noteKeys) (.map noteEntries)).run.run 4 = (.ok stored, 5) ∧
      noteSample.decodeRecord (some 3) stored = .ok (.map [
        (.text "cover", .list [.bytes .fixed [0, 255], .null]),
        (.text "meta", .map [(.text "say \"é\"", .list [.int (-7), .float .nan, .map [(.text "", .null)]])]),
        (.text "title", .null), (.text "id", .text "note4")]) :=
  ⟨by decide, rfl, decodeRecord_encodeRecord noteSample (some noteKeys) 4 (.inr rfl) (by decide)⟩

/-- A type whose only field repeats links to several records. -/
def linkSample : RecordType where
  name := ⟨"post", by decide⟩
  key := ⟨"id", by decide⟩
  fields := [(⟨"tags", by decide⟩, { kind := .text, isArray := true, link := some "tag", isInverse := true })]
  nodup_fields := by decide
  key_not_field := by decide

/-- Maps inside each other, one more than the number says. -/
def nestedMaps : Nat → Value
  | 0 => .map []
  | n + 1 => .map [(.text "b", nestedMaps n)]

theorem write_nestedMaps (n : Nat) : Json.write (some n) (nestedMaps n) = .error .tooDeep := by
  induction n with
  | zero => rfl
  | succ n ih =>
    have inner : Json.writeEntries (some n) [(.text "b", nestedMaps n)] = .error .tooDeep := by
      rw [Json.writeEntries, ih]
      rfl
    show (Json.writeEntries (some n) [(.text "b", nestedMaps n)] >>= fun cs => pure _) = _
    rw [inner]
    rfl

theorem encodedWithin_nestedMaps (n : Nat) : (nestedMaps n).encodedWithin (some n) = .error .tooDeep := by
  have refused := write_nestedMaps n
  cases n with
  | zero => rfl
  | succ n =>
    rw [nestedMaps] at refused ⊢
    rw [Value.encodedWithin, Json.text, refused]
    rfl

theorem note_refused {v : Value} (refused : v.encoded = .error .tooDeep) :
    (noteSample.encodeRecord none (.map [(.text "id", .text "a"), (.text "meta", v)])).run.run 0 =
      (.error .tooDeep, 0) := by
  have field : encodeField (.map [(.text "id", .text "a"), (.text "meta", v)]) ⟨"meta", by decide⟩ { kind := .structured } =
      .error .tooDeep := by
    show (v.encoded >>= fun stored => pure _) = _
    rw [refused]
    rfl
  rw [encodeRecord, noteSample]
  simp only [List.mapM_cons, field]
  rfl

/-- The two halves of a character, behind each other. -/
def tornFace : Text := .ofPoints [.ofNat 0xd83d, .ofNat 0xde00]

/-- Repeated links are stored like arrays and can be refused; a map can be too deep to be written, and a reader can allow
less nesting than was written; halves of a character that stand behind each other in a map come back as the character. -/
theorem record_may_not_come_back :
    ((∀ e ∈ linkSample.fields, e.2.isInverse = true) ∧
      (linkSample.encodeRecord none (.map [(.text "id", .text "a"), (.text "tags", .int 5)])).run.run 0 =
        (.error (.notIterable "int"), 0)) ∧
    (noteSample.encodeRecord none
        (.map [(.text "id", .text "a"), (.text "meta", nestedMaps Json.depthLimit)])).run.run 0 = (.error .tooDeep, 0) ∧
    (∃ stored, (noteSample.encodeRecord none
        (.map [(.text "id", .text "a"), (.text "meta", .map [(.text "b", .map [])])])).run.run 0 = (.ok stored, 0) ∧
      noteSample.decodeRecord (some 1) stored = .error .tooDeep) ∧
    ∃ stored, (noteSample.encodeRecord none
        (.map [(.text "id", .text "a"), (.text "meta", .map [(.text "b", .text tornFace)])])).run.run 0 = (.ok stored, 0) ∧
      noteSample.decodeRecord none stored = .ok (.map [(.text "cover", .list []),
        (.text "meta", .map [(.text "b", .text "😀")]), (.text "title", .null), (.text "id", .text "a")]) ∧
      tornFace ≠ "😀" :=
  ⟨⟨by decide, rfl⟩, note_refused (encodedWithin_nestedMaps Json.depthLimit), ⟨_, rfl, rfl⟩, _, rfl, rfl, nofun⟩

end RecordType
end RecordStore
