import RecordStore.Proofs.Json.Ascii
import RecordStore.Proofs.Json.Length
import RecordStore.Proofs.Record.Rows

/-!
# Structured values in the store

A map is stored as JSON text, and what is read from it is the normal form of the map: tuples have become lists, keys have
become texts, halves of surrogate pairs that stand behind each other in a text have become characters, and of keys with one
text the last value stands at the first place. Other values of a structured field are
stored as they are. A text among them is tried as JSON text when it is read, so it comes back only if it is none.
-/

namespace RecordStore

/-! ### Maps -/

theorem encodedWithin_map_iff {nesting : Option Nat} {entries : List (Value × Value)} :
    (∃ stored, (Value.map entries).encodedWithin nesting = .ok stored) ↔
      Json.hasText (.map entries) = true ∧ nesting.all (Json.depth (.map entries) ≤ ·) = true := by
  constructor
  · rintro ⟨stored, encoded⟩
    obtain ⟨cs, written, _⟩ := encodedWithin_map.1 encoded
    exact Json.hasText_of_write written
  · rintro ⟨whole, fits⟩
    obtain ⟨cs, written⟩ := Json.write_of_hasText whole fits
    exact ⟨_, encodedWithin_map.2 ⟨cs, written, rfl⟩⟩

namespace Value

/-- Whether a value comes back from where JSON texts are read: a text must be none, and a map must be plain and no deeper
than a text may nest when it is written and when it is read. -/
def Stays (nesting : Option Nat) : Value → Prop
  | text s => Json.read nesting s = .error .malformed
  | map entries => Json.isPlain (map entries) = true ∧ Json.depth (map entries) ≤ Json.depthLimit ∧
      nesting.all (Json.depth (map entries) ≤ ·) = true
  | _ => True

variable {nesting : Option Nat}

theorem decodedStructured_text (s : Text) :
    (text s).decodedStructured nesting = .ok (text s) ↔ Json.read nesting s = .error .malformed := by
  rw [decodedStructured]
  cases came : Json.read nesting s with
  | ok w =>
    constructor
    · intro same
      cases same
      exact absurd came (Json.read_ne_self nesting s)
    · intro refused
      cases refused
  | error fault =>
    cases fault with
    | malformed => exact ⟨fun _ => rfl, fun _ => rfl⟩
    | tooDeep =>
      constructor
      · intro same
        cases same
      · intro refused
        cases refused

theorem decodedStructured_map {entries : List (Value × Value)} :
    ((map entries).encoded >>= decodedStructured nesting) = .ok (map entries) ↔ (map entries).Stays nesting := by
  have back : ∀ {stored}, (map entries).encoded = .ok stored → stored.decodedStructured nesting =
      if nesting.all (Json.depth (map entries) ≤ ·) then .ok (Json.normal (map entries)) else .error .tooDeep := by
    intro stored encoded
    obtain ⟨cs, written, rfl⟩ := encodedWithin_map.1 encoded
    exact decodedStructured_written written nesting
  constructor
  · intro came
    obtain ⟨stored, encoded, read⟩ := bind_ok came
    obtain ⟨whole, room⟩ := encodedWithin_map_iff.1 ⟨stored, encoded⟩
    rw [back encoded] at read
    split at read
    · rename_i fits
      have plain := Json.isPlain_normal whole
      rw [Except.ok.inj read] at plain
      exact ⟨plain, of_decide_eq_true room, fits⟩
    · cases read
  · rintro ⟨plain, room, fits⟩
    obtain ⟨stored, encoded⟩ := (@encodedWithin_map_iff (some Json.depthLimit) _).2
      ⟨Json.hasText_of_plain plain, decide_eq_true room⟩
    show (encodedWithin (some Json.depthLimit) (map entries) >>= _) = _
    rw [encoded]
    show stored.decodedStructured nesting = _
    rw [back encoded, if_pos fits, Json.normal_of_plain plain]

/-- A value that JSON has comes back exactly if it stays. -/
theorem structured_round {v : Value} (native : Json.isNative v = true) :
    (v.encoded >>= decoded nesting .structured) = .ok v ↔ v.Stays nesting := by
  cases v with
  | text s => exact decodedStructured_text s
  | map entries => exact decodedStructured_map
  | bytes form data => cases native
  | _ => exact ⟨fun _ => trivial, fun _ => rfl⟩

theorem structured_rounds {items : List Value} (native : ∀ v ∈ items, Json.isNative v = true) :
    (items.mapM encoded >>= fun stored => stored.mapM (decoded nesting .structured)) = .ok items ↔
      ∀ v ∈ items, v.Stays nesting := by
  rw [mapM_back_iff]
  exact forall₂_congr fun v member => structured_round (native v member)

end Value

namespace Field
variable {nesting : Option Nat} {field : Field}

/-- Whether a field holds what JSON has: one value, or a list of values if it is an array. -/
def holdsJson (field : Field) (v : Value) : Bool :=
  match field.isArray, v with
  | true, .list items => items.all Json.isNative
  | true, _ => false
  | false, v => Json.isNative v

/-- Whether the value of a field stays: every item of it, if it is an array. -/
def Stays (nesting : Option Nat) (field : Field) (v : Value) : Prop :=
  if field.isArray then ∀ item ∈ v.sequence?.getD [], item.Stays nesting else v.Stays nesting

theorem convert_items_twice (array : field.isArray = true) (f g : Value → Except Misuse Value) (items : List Value) :
    (field.convert f (.list items) >>= field.convert g) = .ok (.list items) ↔
      (items.mapM f >>= fun results => results.mapM g) = .ok items := by
  rw [convert_items array]
  cases items.mapM f with
  | error e =>
    constructor
    · nofun
    · nofun
  | ok results =>
    show field.convert g (.list results) = _ ↔ results.mapM g = _
    rw [convert_items array]
    constructor
    · intro came
      obtain ⟨backs, read, same⟩ := map_ok came
      rw [read, Value.list.inj same]
    · intro read
      rw [read]
      rfl

theorem structured_round (structured : field.kind = .structured) (own : field.isInverse = false) {v : Value}
    (json : field.holdsJson v = true) : field.round nesting (some v) = .ok v ↔ field.Stays nesting v := by
  have decoding : field.decode nesting = field.convert (Value.decoded nesting .structured) := by
    funext stored
    rw [decode, own, if_neg (by simp), structured]
  rw [round, decoding, encode, Stays]
  unfold holdsJson at json
  cases array : field.isArray with
  | false =>
    rw [array] at json
    have one : ∀ f, field.convert f = f := fun f => funext (convert_one array f)
    rw [if_neg (by simp), one, one]
    exact Value.structured_round json
  | true =>
    rw [array] at json
    cases v with
    | list items =>
      rw [if_pos rfl, convert_items_twice array]
      exact Value.structured_rounds (List.all_eq_true.1 json)
    | _ => cases json

end Field

namespace RecordType
variable {type : RecordType} {entries : List (Value × Value)}

/-- Whether a record has a value in a field again when it was stored and read. -/
def Returns (nesting : Option Nat) (type : RecordType) (source : Option KeySource) (made : Nat)
    (entries : List (Value × Value)) (name : Identifier) (v : Value) : Prop :=
  ∃ row after record, (type.encodeRecord source (.map entries)).run.run made = (.ok row, after) ∧
    type.decodeRecord nesting row = .ok record ∧ record.field? name.text = .ok (some v)

/-- What JSON has comes back from a structured field exactly if it stays there and every field of the record can be stored
and read. -/
theorem structured_returns_iff {e : Identifier × Field} (member : e ∈ type.fields) (structured : e.2.kind = .structured)
    (own : e.2.isInverse = false) {v : Value} (held : Value.lookup e.1.text entries = some v)
    (json : e.2.holdsJson v = true) (nesting : Option Nat) (source : Option KeySource) (made : Nat) :
    type.Returns nesting source made entries e.1 v ↔
      e.2.Stays nesting v ∧ ∀ d ∈ type.fields, ∃ w, d.2.round nesting (Value.lookup d.1.text entries) = .ok w := by
  rw [← Field.structured_round structured own json]
  constructor
  · rintro ⟨row, after, record, stored, read, found⟩
    obtain ⟨w, came, there⟩ := rounds_of_ok stored read member
    rw [found] at there
    cases there
    rw [held] at came
    exact ⟨came, fun d other => (rounds_of_ok stored read other).imp fun _ round => round.1⟩
  · rintro ⟨came, each⟩
    obtain ⟨row, after, record, stored, read⟩ := ok_of_rounds source made each
    obtain ⟨w, again, there⟩ := rounds_of_ok stored read member
    rw [held, came] at again
    cases again
    exact ⟨row, after, record, stored, read, there⟩

/-- A type with a structured field that is an array. -/
def eventSample : RecordType where
  name := ⟨"event", by decide⟩
  key := noteSample.key
  fields := [(⟨"payloads", by decide⟩, { kind := .structured, isArray := true }), (⟨"source", by decide⟩, { kind := .text })]
  nodup_fields := by decide
  key_not_field := by decide

/-- Payloads of every kind that stay: a text that is no JSON, and a text that is, inside a list. -/
def eventEntries : List (Value × Value) :=
  [(.text "id", .text "e1"),
    (.text "payloads", .list [.text "1 2", .null, .list [.text "1"], .map [(.text "a", .list [.bool true])]])]

theorem event_returns : eventSample.Returns (some 988) none 0 eventEntries ⟨"payloads", by decide⟩
    (.list [.text "1 2", .null, .list [.text "1"], .map [(.text "a", .list [.bool true])]]) := by
  have stays : Field.Stays (some 988) { kind := .structured, isArray := true }
      (.list [.text "1 2", .null, .list [.text "1"], .map [(.text "a", .list [.bool true])]]) := by
    show ∀ item ∈ [_, _, _, _], _
    simp only [List.forall_mem_cons]
    exact ⟨rfl, trivial, trivial, ⟨by decide, by decide, by decide⟩, List.forall_mem_nil _⟩
  refine (@structured_returns_iff eventSample eventEntries _ (.head _) rfl rfl _ rfl (by decide) (some 988) none 0).2
    ⟨stays, ?_⟩
  show ∀ d ∈ [_, _], _
  simp only [List.forall_mem_cons]
  exact ⟨⟨_, (Field.structured_round rfl rfl (by decide)).2 stays⟩, ⟨_, rfl⟩, List.forall_mem_nil _⟩

/-- A text that is a numeral comes back as a number. -/
theorem numeral_changes :
    (∃ field, (⟨"meta", by decide⟩, field) ∈ noteSample.fields ∧ field.kind = .structured ∧ field.isInverse = false ∧
      field.holdsJson (.text "1") = true) ∧
    ∃ row, (noteSample.encodeRecord none (.map [(.text "id", .text "n1"), (.text "meta", .text "1")])).run.run 0 =
        (.ok row, 0) ∧
      row.field? "meta" = .ok (some (.text "1")) ∧
      noteSample.decodeRecord (some 988) row = .ok (.map [(.text "cover", .list []), (.text "meta", .int 1),
        (.text "title", .null), (.text "id", .text "n1")]) :=
  ⟨⟨_, .tail _ (.head _), rfl, rfl, rfl⟩, _, rfl, rfl, rfl⟩

end RecordType
end RecordStore
