import Mathlib.Data.List.Nodup
import Mathlib.Data.Set.Function
import Mathlib.Data.Set.List
import Mathlib.Order.Interval.Set.Basic
import RecordStore.Proofs.Record.Batch
import RecordStore.Proofs.Text.Base64

/-!
# Random keys

A random key tells the bytes that it was drawn from: keys and runs of random bytes correspond one to one. So records without
keys of their own are stored with different keys as long as the bytes drawn for them differ.
-/

namespace RecordStore

/-! ### Keys and bytes -/

/-- Random bytes as they are drawn for one key. -/
def Tokens : Set (List UInt8) := {token | token.length = randomKeyLength}

/-- Texts of twenty letters of the alphabet, which has no equals sign. -/
def RandomKeys : Set String := {key | key.length = 20 ∧ ∀ c ∈ key.toList, c ∈ Base64.alphabet}

theorem toList_randomKey (token : List UInt8) : (randomKey token).toList = Base64.encode token := String.toList_ofList

theorem randomKey_injective : Function.Injective randomKey := by
  intro token other same
  apply Base64.encode_injective
  rw [← toList_randomKey, same, toList_randomKey]

theorem decode_randomKey (token : List UInt8) : Base64.decode (randomKey token).toList = some token := by
  rw [toList_randomKey, Base64.decode_encode]

theorem randomKey_shape {token : List UInt8} (drawn : token ∈ Tokens) : randomKey token ∈ RandomKeys := by
  have length : token.length = 15 := drawn
  constructor
  · rw [← String.length_toList, toList_randomKey, Base64.length_encode, length]
  · rw [toList_randomKey]
    exact Base64.encode_letters (by rw [length])

theorem exists_randomKey {key : String} (shaped : key ∈ RandomKeys) : ∃ token ∈ Tokens, randomKey token = key := by
  obtain ⟨length, letters⟩ := shaped
  obtain ⟨token, size, written⟩ := @Base64.exists_encode_eq 5 key.toList length letters
  exact ⟨token, size, by rw [randomKey, written, String.ofList_toList]⟩

theorem randomKey_bijOn : Set.BijOn randomKey Tokens RandomKeys :=
  ⟨fun _ => randomKey_shape, randomKey_injective.injOn, fun _ => exists_randomKey⟩

namespace RecordType

variable {type : RecordType} {source : Option KeySource} {draw : KeySource} {made after : Nat} {record row : Value}
  {records : List Value}

/-! ### Records without keys -/

/-- Maps that do not mention the key. -/
def LacksKey (type : RecordType) (record : Value) : Prop := record.field? type.key.text = .ok none

/-- The row of a record under a given key. -/
def keyedRow (type : RecordType) (key record : Value) : Except Misuse Value :=
  (type.fields.mapM fun (name, field) => encodeField record name field).map fun fields =>
    .map ((.text type.key.text, key) :: fields)

theorem encodeRecord_lacking (lacks : type.LacksKey record) (made : Nat) :
    (type.encodeRecord (some draw) record).run.run made = (type.keyedRow (draw made type.name.text) record, made + 1) := by
  have keyed : (type.keyOf (some draw) record).run.run made = (.ok (some (draw made type.name.text)), made + 1) := by
    rw [keyOf, lacks]
    rfl
  rw [encodeRecord, ExceptT.run_bind, StateT.run_bind, keyed, keyedRow]
  generalize (type.fields.mapM _ : Except Misuse (List (Value × Value))) = fields
  cases fields <;> rfl

/-- Records that have a storable value for each field, or none. -/
def Storable (type : RecordType) (record : Value) : Prop :=
  ∀ e ∈ type.fields, ∃ entry, encodeField record e.1 e.2 = .ok entry

theorem keyedRow_ok_iff {key : Value} : (∃ row, type.keyedRow key record = .ok row) ↔ type.Storable record := by
  constructor
  · rintro ⟨row, stored⟩ e member
    obtain ⟨fields, fielded, _⟩ := map_ok stored
    obtain ⟨i, place⟩ := List.getElem?_of_mem member
    obtain ⟨entry, _, encoded⟩ := (mapM_ok_iff.1 fielded).2 i e place
    exact ⟨entry, encoded⟩
  · intro each
    obtain ⟨fields, fielded⟩ := mapM_total each
    exact ⟨_, congrArg (Except.map _) fielded⟩

theorem ownKey_keyedRow {key : Value} (stored : type.keyedRow key record = .ok row) : type.ownKey row = some key := by
  obtain ⟨fields, _, rfl⟩ := map_ok stored
  exact lookup_cons_same ..

/-! ### One after the other -/

/-- Encodes records one after the other, also behind one that cannot be encoded. -/
def encodeEach (type : RecordType) (source : Option KeySource) (records : List Value) :
    StateM Nat (List (Except Misuse Value)) :=
  records.mapM fun record => (type.encodeRecord source record).run

theorem encodeEach_cons : (type.encodeEach source (record :: records)).run made =
    let (first, middle) := (type.encodeRecord source record).run.run made
    let (others, last) := (type.encodeEach source records).run middle
    (first :: others, last) := by
  rw [encodeEach, List.mapM_cons]
  rfl

/-- A batch is encoded exactly if each of its records is, and with the same keys. -/
theorem encodeRecords_ok_iff {rows : List Value} : (records.mapM (type.encodeRecord source)).run.run made = (.ok rows, after) ↔
    (type.encodeEach source records).run made = (rows.map .ok, after) := by
  -- Behind a record that fails, the batch draws no more keys, but then there are no rows on either side.
  induction records generalizing made rows with
  | nil =>
    constructor
    · rintro ⟨⟩
      rfl
    · intro ran
      cases rows with
      | nil =>
        cases ran
        rfl
      | cons row others => cases ran
  | cons record rest ih =>
    rw [encodeEach_cons]
    constructor
    · intro ran
      rw [List.mapM_cons] at ran
      obtain ⟨row, middle, first, ran⟩ := drawing_bind_ok ran
      obtain ⟨others, last, more, ran⟩ := drawing_bind_ok ran
      cases ran
      simp only [first, ih.1 more, List.map_cons]
    · intro ran
      rcases first : (type.encodeRecord source record).run.run made with ⟨result, middle⟩
      rcases more : (type.encodeEach source rest).run middle with ⟨results, last⟩
      simp only [first, more] at ran
      cases rows with
      | nil => cases ran
      | cons row others =>
        cases ran
        rw [List.mapM_cons, ExceptT.run_bind, StateT.run_bind, first]
        show ((rest.mapM (type.encodeRecord source)) >>= fun others => pure (row :: others)).run.run middle = _
        rw [ExceptT.run_bind, StateT.run_bind, ih.2 more]
        rfl

/-- Every record without a key has one drawn for it, also if it cannot be encoded. -/
theorem encodeEach_lacking (lack : ∀ record ∈ records, type.LacksKey record) (made : Nat) :
    (type.encodeEach (some draw) records).run made =
      (records.mapIdx fun i record => type.keyedRow (draw (made + i) type.name.text) record, made + records.length) := by
  induction records generalizing made with
  | nil => rfl
  | cons record rest ih =>
    rw [List.forall_mem_cons] at lack
    rw [encodeEach_cons, encodeRecord_lacking lack.1]
    simp only [ih lack.2, List.mapIdx_cons, List.length_cons, Nat.add_zero, Nat.add_assoc, Nat.add_comm 1]

/-- What records without keys are stored as one after the other: whether a record is stored depends on its fields alone,
each has the key drawn at its turn, and no two have the same. -/
structure KeyedApart (type : RecordType) (draw : KeySource) (made : Nat) (records : List Value)
    (results : List (Except Misuse Value)) : Prop where
  length : results.length = records.length
  stored : ∀ (i : Nat) record result, records[i]? = some record → results[i]? = some result →
    ((∃ row, result = .ok row) ↔ type.Storable record)
  keyed : ∀ (i : Nat) row, results[i]? = some (.ok row) → type.ownKey row = some (draw (made + i) type.name.text)
  apart : ∀ (i j : Nat) row other, results[i]? = some (.ok row) → results[j]? = some (.ok other) →
    type.ownKey row = type.ownKey other → i = j

theorem encodeEach_keyedApart (lack : ∀ record ∈ records, type.LacksKey record)
    (distinct : Set.InjOn (draw · type.name.text) (Set.Ico made (made + records.length))) :
    ∃ results, (type.encodeEach (some draw) records).run made = (results, made + records.length) ∧
      type.KeyedApart draw made records results := by
  refine ⟨_, encodeEach_lacking lack made, ?_⟩
  have keyed : ∀ (i : Nat) row,
      (records.mapIdx fun i record => type.keyedRow (draw (made + i) type.name.text) record)[i]? = some (.ok row) →
        i < records.length ∧ type.ownKey row = some (draw (made + i) type.name.text) := by
    intro i row place
    rw [List.getElem?_mapIdx] at place
    obtain ⟨record, found, stored⟩ := Option.map_eq_some_iff.1 place
    exact ⟨(List.getElem?_eq_some_iff.1 found).1, ownKey_keyedRow stored⟩
  refine ⟨List.length_mapIdx, ?_, fun i row place => (keyed i row place).2, ?_⟩
  · intro i record result found place
    rw [List.getElem?_mapIdx, found] at place
    obtain rfl := Option.some.inj place
    exact keyedRow_ok_iff
  · intro i j row other first second same
    obtain ⟨insideI, keyI⟩ := keyed i row first
    obtain ⟨insideJ, keyJ⟩ := keyed j other second
    rw [keyI, keyJ] at same
    have places : made + i = made + j := distinct ⟨by omega, by omega⟩ ⟨by omega, by omega⟩ (Option.some.inj same)
    omega

theorem KeyedApart.all_stored_iff {results : List (Except Misuse Value)}
    (apart : type.KeyedApart draw made records results) :
    (∀ result ∈ results, ∃ row, result = .ok row) ↔ ∀ record ∈ records, type.Storable record := by
  constructor
  · intro all record member
    obtain ⟨i, found⟩ := List.getElem?_of_mem member
    have inside : i < results.length := apart.length ▸ (List.getElem?_eq_some_iff.1 found).1
    exact (apart.stored i record _ found (List.getElem?_eq_getElem inside)).1 (all _ (List.getElem_mem inside))
  · intro all result member
    obtain ⟨i, place⟩ := List.getElem?_of_mem member
    have inside : i < records.length := apart.length ▸ (List.getElem?_eq_some_iff.1 place).1
    exact (apart.stored i _ result (List.getElem?_eq_getElem inside) place).2 (all _ (List.getElem_mem inside))

theorem KeyedApart.nodup {rows : List Value} (apart : type.KeyedApart draw made records (rows.map .ok)) :
    (rows.map type.ownKey).Nodup := by
  refine List.nodup_iff_getElem?_ne_getElem?.2 fun i j earlier inside same => ?_
  rw [List.length_map] at inside
  have place : ∀ k (inside : k < rows.length), (rows.map Except.ok : List (Except Misuse Value))[k]? = some (.ok rows[k]) :=
    fun k inside => by rw [List.getElem?_map, List.getElem?_eq_getElem inside, Option.map_some]
  rw [List.getElem?_map, List.getElem?_map, List.getElem?_eq_getElem (earlier.trans inside),
    List.getElem?_eq_getElem inside] at same
  exact earlier.ne (apart.apart i j _ _ (place i (earlier.trans inside)) (place j inside) (Option.some.inj same))

/-- A batch of records without keys is encoded if its records can be stored, and then no two of its keys are the same. -/
theorem KeyedApart.batch {results : List (Except Misuse Value)}
    (ran : (type.encodeEach (some draw) records).run made = (results, made + records.length))
    (apart : type.KeyedApart draw made records results) :
    ((∃ rows after, (records.mapM (type.encodeRecord (some draw))).run.run made = (.ok rows, after)) ↔
      ∀ record ∈ records, type.Storable record) ∧
    ∀ rows after, (records.mapM (type.encodeRecord (some draw))).run.run made = (.ok rows, after) →
      results = rows.map .ok ∧ after = made + records.length ∧ (rows.map type.ownKey).Nodup := by
  simp only [encodeRecords_ok_iff, ran]
  rw [← apart.all_stored_iff]
  constructor
  · constructor
    · rintro ⟨rows, after, same⟩ result member
      rw [(Prod.mk.inj same).1] at member
      obtain ⟨row, _, rfl⟩ := List.mem_map.1 member
      exact ⟨row, rfl⟩
    · intro all
      have listed : results ∈ Set.range (List.map Except.ok) := by
        rw [Set.range_list_map]
        exact fun result member => (all result member).imp fun row same => same.symm
      obtain ⟨rows, rfl⟩ := listed
      exact ⟨rows, _, rfl⟩
  · intro rows after same
    obtain ⟨rfl, rfl⟩ := Prod.mk.inj same
    exact ⟨rfl, rfl, apart.nodup⟩

end RecordType

/-- Random keys are twenty letters of the alphabet, and each such text is the key of one run of random bytes, which reads
back from it. So records without keys that are stored one after the other have keys of their own each, whatever becomes of
the others, as long as the random bytes differ. -/
theorem randomKeys_tell_tokens :
    Set.BijOn randomKey Tokens RandomKeys ∧ '=' ∉ Base64.alphabet ∧
    (∀ token, Base64.decode (randomKey token).toList = some token) ∧
    ∀ (type : RecordType) (bytes : RandomBytes) (made : Nat) (records : List Value),
      (∀ record ∈ records, type.LacksKey record) → Set.InjOn bytes (Set.Ico made (made + records.length)) →
      ∃ results,
        (type.encodeEach (some (KeyGenerator.random.source bytes)) records).run made = (results, made + records.length) ∧
        type.KeyedApart (KeyGenerator.random.source bytes) made records results ∧
        ((∃ rows after, (records.mapM (type.encodeRecord (some (KeyGenerator.random.source bytes)))).run.run made =
            (.ok rows, after)) ↔ ∀ record ∈ records, type.Storable record) ∧
        ∀ rows after, (records.mapM (type.encodeRecord (some (KeyGenerator.random.source bytes)))).run.run made =
            (.ok rows, after) →
          results = rows.map .ok ∧ after = made + records.length ∧ (rows.map type.ownKey).Nodup := by
  refine ⟨randomKey_bijOn, Base64.sign_not_mem, decode_randomKey, fun type bytes made records lack distinct => ?_⟩
  have keys : Function.Injective fun token => Value.text (randomKey token) :=
    fun _ _ same => randomKey_injective (Value.string_inj same)
  obtain ⟨results, ran, apart⟩ := @RecordType.encodeEach_keyedApart type (KeyGenerator.random.source bytes) made records lack
    (keys.comp_injOn distinct)
  exact ⟨results, ran, apart, apart.batch ran⟩

/-- Random bytes that differ in the last one only. -/
def lastBytes : RandomBytes := fun made => List.replicate 14 0 ++ [UInt8.ofNat made]

/-- Notes without keys, the second of which cannot be stored. -/
def keylessNotes : List Value :=
  [.map [(.text "title", .text "a")], .map [(.text "cover", .int 5)], .map []]

theorem keylessNotes_keyed : ∃ results,
    lastBytes 4 ∈ Tokens ∧ lastBytes 6 ∈ Tokens ∧ randomKey (lastBytes 4) ∈ RandomKeys ∧
    randomKey (lastBytes 4) ≠ randomKey (lastBytes 6) ∧
    (RecordType.noteSample.encodeEach (some (KeyGenerator.random.source lastBytes)) keylessNotes).run 4 = (results, 7) ∧
    RecordType.noteSample.KeyedApart (KeyGenerator.random.source lastBytes) 4 keylessNotes results ∧
    results[1]? = some (.error (.notIterable "int")) ∧
    ∃ row, results[2]? = some (.ok row) ∧ RecordType.noteSample.ownKey row = some (.text "AAAAAAAAAAAAAAAAAAAG") := by
  obtain ⟨bijective, _, _, batches⟩ := randomKeys_tell_tokens
  have lack : ∀ record ∈ keylessNotes, RecordType.noteSample.LacksKey record := by
    simp only [keylessNotes, List.forall_mem_cons]
    exact ⟨rfl, rfl, rfl, nofun⟩
  have distinct : Set.InjOn lastBytes (Set.Ico 4 (4 + keylessNotes.length)) := by
    intro i insideI j insideJ same
    have last : UInt8.ofNat i = UInt8.ofNat j := by simpa [lastBytes] using same
    have below : i < 7 ∧ j < 7 := ⟨insideI.2, insideJ.2⟩
    have number := congrArg UInt8.toNat last
    rw [UInt8.toNat_ofNat', UInt8.toNat_ofNat'] at number
    omega
  obtain ⟨results, ran, apart, _⟩ := batches RecordType.noteSample lastBytes 4 keylessNotes lack distinct
  have first : lastBytes 4 ∈ Tokens := rfl
  have third : lastBytes 6 ∈ Tokens := rfl
  have differ : lastBytes 4 ≠ lastBytes 6 := by decide
  refine ⟨results, first, third, bijective.mapsTo first, fun same => differ (bijective.injOn first third same), ran, apart,
    ?_, ?_⟩
  · cases ran
    rfl
  · have spelled : randomKey (lastBytes 6) = "AAAAAAAAAAAAAAAAAAAG" := by decide +kernel
    cases ran
    exact ⟨_, rfl, (apart.keyed 2 _ rfl).trans (congrArg (fun key : String => some (Value.text key)) spelled)⟩

end RecordStore
