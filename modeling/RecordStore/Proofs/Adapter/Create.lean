import RecordStore.Proofs.Adapter.Operations
import RecordStore.Proofs.Mutation.InsertText
import RecordStore.Proofs.Record.Batch

/-!
# Creating records

Records that can be encoded are inserted by one statement, whose columns, rows and values line up with the records as
they were encoded. What comes back are these records in their order, with the keys of the returned rows where the store
assigned them.
-/

namespace RecordStore.Adapter
open Mutation Sql Binding RecordStore.Task

variable {type : RecordType}

/-! ### The statement -/

theorem perm_sortedFields (type : RecordType) : type.sortedFields.Perm type.fieldNames := List.mergeSort_perm _ _

theorem sorted_sortedFields (type : RecordType) : type.sortedFields.Pairwise fun a b => a.text ≤ b.text := by
  have ordered : ∀ a b : Identifier, (!decide (b.text < a.text)) = true ↔ a.text ≤ b.text := by
    intro a b
    rw [Bool.not_eq_true', decide_eq_false_iff_not, String.not_lt]
  have sorted := @List.pairwise_mergeSort _ (fun a b : Identifier => !decide (b.text < a.text))
    (fun a b c first second => (ordered a c).2 (String.le_trans ((ordered a b).1 first) ((ordered b c).1 second)))
    (fun a b => by
      rw [Bool.or_eq_true, ordered, ordered]
      exact String.le_total _ _) type.fieldNames
  exact sorted.imp fun {a b} le => (ordered a b).1 le

/-- An insert that lines up with the rows that records are stored as: the key column first, if and only if every row has
a key, then the fields in order; a value for every row and column; slots that name the values row after row. -/
structure LinesUp (type : RecordType) (rows : List Value) (insert : Mutation.Insert) (params : List Value) : Prop where
  table : insert.table = type.name
  keyed : insert.returning = none ↔ ∀ row ∈ rows, row.fieldValue type.key.text ≠ .null
  returning : ∀ key ∈ insert.returning, key = type.key
  columns : insert.columns = if insert.returning = none then type.key :: type.sortedFields else type.sortedFields
  sorted : type.sortedFields.Perm type.fieldNames ∧ type.sortedFields.Pairwise fun a b => a.text ≤ b.text
  length : params.length = rows.length * insert.columns.length
  values : ∀ i j row column, rows[i]? = some row → insert.columns[j]? = some column →
    params[i * insert.columns.length + j]? = some (row.fieldValue column.text)
  count : insert.rows.length = rows.length
  slots : ∀ i, i < rows.length →
    insert.rows[i]? = some (slotsFrom (1 + i * insert.columns.length) insert.columns.length)
  text : insert.columns ≠ [] → Mutation.Insert.read? insert.sql = some insert

theorem buildInsert_linesUp {rows : List Value} (nonempty : rows ≠ [])
    (maps : ∀ row ∈ rows, ∃ entries, row = .map entries) :
    ∃ insert params, buildInsert type rows = .ok (insert, params) ∧ LinesUp type rows insert params := by
  obtain ⟨insert, params, ran⟩ := @insert_of_maps type _ nonempty maps []
  refine ⟨insert, params, by rw [buildInsert, ran]; rfl, ?_⟩
  obtain ⟨items, listed, keyed, known, rfl, rfl⟩ := insert_run ran
  obtain rfl : rows = items := Except.ok.inj listed
  have all : keyed = true ↔ ∀ row ∈ rows, row.fieldValue type.key.text ≠ .null := by
    rw [known, List.all_eq_true]
    refine forall₂_congr fun row _ => ?_
    cases row.fieldValue type.key.text <;> simp [Value.isNull]
  have returns : (if keyed then none else some type.key) = none ↔ keyed = true := by cases keyed <;> simp
  have columns : insertColumns type keyed =
      if (if keyed then none else some type.key) = none then type.key :: type.sortedFields else type.sortedFields := by
    cases keyed <;> rfl
  have plain : insertColumns type keyed ≠ [] → Insert.Plain ⟨type.name, insertColumns type keyed,
      rowsFrom 1 (insertColumns type keyed).length rows.length, if keyed then none else some type.key⟩ := by
    intro filled
    refine ⟨filled, fun none => nonempty ?_, fun row member none => ?_, fun row member slot inside => ?_⟩
    · rw [← List.length_eq_zero_iff, ← length_rowsFrom 1 (insertColumns type keyed).length rows.length]
      exact congrArg List.length none
    · obtain ⟨start, rfl⟩ := mem_rowsFrom member
      rw [← List.length_eq_zero_iff, length_slotsFrom] at none
      exact filled (List.length_eq_zero_iff.1 none)
    · obtain ⟨start, rfl⟩ := mem_rowsFrom member
      exact cast_slotsFrom inside
  exact {
    table := rfl
    keyed := returns.trans all
    returning := fun key member => by
      cases keyed with
      | true => cases member
      | false => exact (Option.some.inj member).symm
    columns := columns
    sorted := ⟨perm_sortedFields type, sorted_sortedFields type⟩
    length := length_rowValues _ _
    values := fun i j row column own place => getElem?_rowValues own place
    count := length_rowsFrom _ _ _
    slots := fun i inside => getElem?_rowsFrom inside
    text := fun filled => Insert.read?_sql (plain filled) }

/-! ### What comes back -/

/-- The row that is read for a record: the stored one, with the key of the returned row in its place where the store
assigned the keys. -/
def ReadFrom (type : RecordType) (insert : Mutation.Insert) (returned : Option Value) (row read : Value) : Prop :=
  if insert.returning = none then read = row
  else ∃ entries found key, row = .map entries ∧ returned = some (.map found) ∧
    Value.lookup type.key.text found = some key ∧ read = .map (Value.putText type.key.text key entries)

theorem withReturnedKey_ok_iff {row returned read : Value} :
    withReturnedKey type row returned = .ok read ↔ ∃ entries found key, row = .map entries ∧ returned = .map found ∧
      Value.lookup type.key.text found = some key ∧ read = .map (Value.putText type.key.text key entries) := by
  constructor
  · intro made
    unfold withReturnedKey at made
    split at made
    · rename_i entries
      obtain ⟨key, needed, put⟩ := bind_ok made
      unfold required at needed
      split at needed
      · rename_i found
        split at needed
        · rename_i key' present
          cases needed
          exact ⟨entries, found, key, rfl, rfl, present, (pure_ok put).symm⟩
        · cases needed
      · cases needed
    · cases made
  · rintro ⟨entries, found, key, rfl, rfl, present, rfl⟩
    rw [withReturnedKey, required, present]
    rfl

theorem assignReturnedKeys_lists (rows returned : List Value) :
    assignReturnedKeys type (.list rows) (.list returned) =
      if returned.length = rows.length then (rows.zip returned).mapM fun p => withReturnedKey type p.1 p.2
      else .error (.malformed (.returnedKeys rows.length returned.length)) := by
  have sizes : (Value.list returned).size = .ok returned.length ∧ (Value.list rows).size = .ok rows.length := ⟨rfl, rfl⟩
  rw [assignReturnedKeys, sizes.1, sizes.2]
  change (if returned.length ≠ rows.length then _ else _) = _
  by_cases same : returned.length = rows.length
  · rw [if_neg (fun differs => differs same), if_pos same]
    rfl
  · rw [if_pos same, if_neg same]
    rfl

/-- The records that come back are those read for the rows, in their order; there are as many returned rows as records
where the store assigned the keys. -/
theorem createdRecords_ok_iff {nesting : Option Nat} {insert : Mutation.Insert} {rows returned created : List Value} :
    createdRecords type nesting insert rows returned = .ok created ↔
      (insert.returning ≠ none → returned.length = rows.length) ∧ created.length = rows.length ∧
        ∀ (i : Nat) row, rows[i]? = some row → ∃ read record, ReadFrom type insert returned[i]? row read ∧
          type.decodeRecord nesting read = .ok record ∧ created[i]? = some record := by
  unfold createdRecords ReadFrom
  cases own : insert.returning with
  | none =>
    have kept : insert.returnsKeys = false := by rw [Insert.returnsKeys, own]; rfl
    rw [kept]
    change rows.mapM (type.decodeRecord nesting) = .ok created ↔ _
    rw [mapM_ok_iff]
    simp only [if_true, ne_eq, not_true_eq_false, false_implies, true_and]
    refine and_congr_right fun _ => forall₃_congr fun i row found => ?_
    constructor
    · rintro ⟨record, place, decoded⟩
      exact ⟨row, record, rfl, decoded, place⟩
    · rintro ⟨read, record, rfl, decoded, place⟩
      exact ⟨record, place, decoded⟩
  | some key =>
    have assigned : insert.returnsKeys = true := by rw [Insert.returnsKeys, own]; rfl
    rw [assigned]
    simp only [reduceCtorEq, if_false, ne_eq, not_false_eq_true, true_implies]
    change (assignReturnedKeys type (.list rows) (.list returned) >>= fun stored =>
      stored.mapM (type.decodeRecord nesting)) = .ok created ↔ _
    rw [assignReturnedKeys_lists]
    -- a returned row stands beside every row
    have beside : returned.length = rows.length → ∀ (i : Nat) row, rows[i]? = some row →
        ∃ found, returned[i]? = some found ∧ (rows.zip returned)[i]? = some (row, found) := by
      intro count i row place
      obtain ⟨inside, _⟩ := List.getElem?_eq_some_iff.1 place
      have found : returned[i]? = some returned[i] := List.getElem?_eq_getElem (by omega)
      exact ⟨_, found, List.getElem?_zip_eq_some.2 ⟨place, found⟩⟩
    constructor
    · intro made
      obtain ⟨stored, keyed, decoded⟩ := bind_ok made
      split at keyed
      · rename_i count
        obtain ⟨length, each⟩ := mapM_ok_iff.1 keyed
        obtain ⟨long, records⟩ := mapM_ok_iff.1 decoded
        rw [List.length_zip, count, Nat.min_self] at length
        refine ⟨count, long.trans length, fun i row place => ?_⟩
        obtain ⟨found, there, pair⟩ := beside count i row place
        obtain ⟨read, readAt, put⟩ := each i _ pair
        obtain ⟨entries, known, key, rfl, rfl, present, rfl⟩ := withReturnedKey_ok_iff.1 put
        obtain ⟨record, recordAt, decoded⟩ := records i _ readAt
        exact ⟨_, record, ⟨entries, known, key, rfl, there, present, rfl⟩, decoded, recordAt⟩
      · cases keyed
    · rintro ⟨count, length, each⟩
      have total : ∀ p ∈ rows.zip returned, ∃ read, withReturnedKey type p.1 p.2 = .ok read := by
        intro p member
        obtain ⟨i, place⟩ := List.getElem?_of_mem member
        obtain ⟨own, other⟩ := List.getElem?_zip_eq_some.1 place
        obtain ⟨read, _, ⟨entries, found, key, row, there, present, rfl⟩, _⟩ := each i _ own
        have same : p.2 = .map found := Option.some.inj (other.symm.trans there)
        exact ⟨_, withReturnedKey_ok_iff.2 ⟨entries, found, key, row, same, present, rfl⟩⟩
      obtain ⟨stored, keyed⟩ := mapM_total total
      obtain ⟨long, places⟩ := mapM_ok_iff.1 keyed
      rw [List.length_zip, count, Nat.min_self] at long
      rw [if_pos count, keyed]
      refine mapM_ok_iff.2 ⟨length.trans long.symm, fun i read place => ?_⟩
      have inside : i < rows.length := by
        rw [← long]
        exact (List.getElem?_eq_some_iff.1 place).1
      obtain ⟨read', record, ⟨entries, found, key, row, there, present, rfl⟩, decoded, recordAt⟩ :=
        each i _ (List.getElem?_eq_getElem inside)
      obtain ⟨found', besides, pair⟩ := beside count i _ (List.getElem?_eq_getElem inside)
      obtain ⟨read'', readAt, put⟩ := places i _ pair
      obtain rfl := Option.some.inj (besides.symm.trans there)
      rw [withReturnedKey_ok_iff.2 ⟨entries, found, key, row, rfl, present, rfl⟩] at put
      cases put
      obtain rfl := Option.some.inj (place.symm.trans readAt)
      exact ⟨record, recordAt, decoded⟩

theorem createdRecords_count {nesting : Option Nat} {insert : Mutation.Insert} {rows returned : List Value}
    (assigned : insert.returning ≠ none) (differs : returned.length ≠ rows.length) :
    createdRecords type nesting insert rows returned = .error (.malformed (.returnedKeys rows.length returned.length)) := by
  have keys : insert.returnsKeys = true := Option.isSome_iff_ne_none.2 assigned
  have refused : assignReturnedKeys type (.list rows) (.list returned) =
      .error (.malformed (.returnedKeys rows.length returned.length)) := by
    rw [assignReturnedKeys_lists, if_neg differs]
  unfold createdRecords
  rw [keys]
  change (assignReturnedKeys type (.list rows) (.list returned) >>= _) = _
  rw [refused]
  rfl

/-! ### The operation -/

section Operation
variable {adapter : Adapter} {party : Party} {typeName records : Value} {items rows : List Value} {made : Nat}
  {channel : Channel} {state : AdapterState} {store : Store} {log : List Asked}

theorem meets_encodeAll
    (encodes : (items.mapM (type.encodeRecord adapter.keySource)).run.run state.keysMade = (.ok rows, made)) :
    meets store (adapter.encodeAll type items) state log = ((.ok rows, { state with keysMade := made }), log) := by
  unfold encodeAll
  rw [meets_ok meets_look]
  dsimp only
  rw [encodes, meets_ok (meets_change _)]
  rfl

/-- A failed insert is raised, and a conflict as one; else the records come back as they are read. -/
def createdOutcome (type : RecordType) (nesting : Option Nat) (insert : Mutation.Insert) (rows : List Value) :
    Outcome StatementResult → Outcome (List Value)
  | .ok answer => liftM (createdRecords type nesting insert rows answer.rows)
  | .error failure => .error (insertFailure failure)

/-- The insert and what the store answers to it, after all exchanges before. -/
def inserting (store : Store) (log : List Asked) (channel : Channel) (insert : Mutation.Insert) (params : List Value) : Asked :=
  ⟨.execute channel insert.sql params "insert", store log (.execute channel insert.sql params "insert")⟩

theorem meets_create {insert : Mutation.Insert} {params : List Value} (known : adapter.recordType typeName = .ok type)
    (listed : records.elements = .ok items) (nonempty : items ≠ [])
    (encodes : (items.mapM (type.encodeRecord adapter.keySource)).run.run state.keysMade = (.ok rows, made))
    (connected : state.channel? party = some channel) (built : buildInsert type rows = .ok (insert, params)) :
    meets store (adapter.create party typeName records) state log =
      ((createdOutcome type adapter.nesting insert rows (store log (.execute channel insert.sql params "insert")),
        { state with keysMade := made }), log ++ [inserting store log channel insert params]) := by
  have holds : records.holds = true := by
    rw [Value.holds_elements (Value.elements_ok listed)]
    simpa using nonempty
  have stillConnected : ({ state with keysMade := made } : AdapterState).channel? party = some channel := by
    rw [← connected]
    cases party <;> rfl
  have asks : meets store (do
        let channel ← executor party
        execute channel insert.sql params "insert" : Run StatementResult) { state with keysMade := made } log =
      ((store log (.execute channel insert.sql params "insert"), { state with keysMade := made }),
        log ++ [inserting store log channel insert params]) :=
    meets_ok (meets_executor stillConnected) _
  have typed : meets store (ofOutcome (adapter.recordType typeName)) state log = ((.ok type, state), log) := by
    rw [known, meets_ofOutcome]
  have iterated : meets store (ofMisuse records.elements) state log = ((.ok items, state), log) := by
    rw [listed]
    rfl
  have inserted : meets store (ofOutcome (buildInsert type rows)) { state with keysMade := made } log =
      ((.ok (insert, params), { state with keysMade := made }), log) := by
    rw [built, meets_ofOutcome]
  unfold create
  rw [meets_ok typed, holds]
  change meets store (ofMisuse records.elements >>= _) state log = _
  rw [meets_ok iterated, meets_ok (meets_encodeAll encodes), meets_ok inserted]
  dsimp only
  cases answered : store log (.execute channel insert.sql params "insert") with
  | ok answer => exact meets_ok (meets_tryCatch_ok (answered ▸ asks) _) _
  | error failure => exact meets_error ((meets_tryCatch_error (answered ▸ asks) _).trans rfl) _

/-- One insert is made for a batch that can be encoded, and what the store answers becomes the records in their order. -/
theorem create_linesUp (store : Store) (log : List Asked) (known : adapter.recordType typeName = .ok type)
    (listed : records.elements = .ok items) (nonempty : items ≠ [])
    (encodes : (items.mapM (type.encodeRecord adapter.keySource)).run.run state.keysMade = (.ok rows, made))
    (connected : state.channel? party = some channel) :
    ∃ insert params result, meets store (adapter.create party typeName records) state log =
        ((result, { state with keysMade := made }), log ++ [inserting store log channel insert params]) ∧
      type.BatchStoredAs adapter.keySource state.keysMade items rows made ∧ LinesUp type rows insert params ∧
      (∀ failure, store log (.execute channel insert.sql params "insert") = (.error failure : Outcome StatementResult) →
        result = .error (insertFailure failure)) ∧
      ∀ answer, store log (.execute channel insert.sql params "insert") = (.ok answer : Outcome StatementResult) →
        (insert.returning ≠ none → answer.rows.length ≠ items.length →
          result = .error (.ofMisuse (.malformed (.returnedKeys items.length answer.rows.length)))) ∧
        ∀ created, result = .ok created ↔
          (insert.returning ≠ none → answer.rows.length = items.length) ∧ created.length = items.length ∧
            ∀ (i : Nat) row, rows[i]? = some row → ∃ read record, ReadFrom type insert answer.rows[i]? row read ∧
              type.decodeRecord adapter.nesting read = .ok record ∧ created[i]? = some record := by
  have stored := RecordType.encodeRecords_ok encodes
  obtain ⟨insert, params, built, linesUp⟩ := @buildInsert_linesUp type rows (stored.filled nonempty) stored.maps
  refine ⟨insert, params, _, meets_create known listed nonempty encodes connected built, stored, linesUp, ?_, ?_⟩
  · intro failure replied
    rw [replied]
    rfl
  · intro answer replied
    rw [replied, ← stored.length]
    refine ⟨fun assigned differs => ?_, fun created => ?_⟩
    · rw [createdOutcome, createdRecords_count assigned differs]
      rfl
    · rw [← createdRecords_ok_iff]
      constructor
      · exact misuse_ok
      · intro made
        rw [createdOutcome, made]
        rfl

end Operation

def notesAdapter : Adapter where
  types := [(.text "note", RecordType.noteSample)]
  settings := { generator := some (.custom RecordType.noteKeys) }

/-- A note with a key of its own, one that a key is made for, and one whose key is null. -/
def notesSample : Value :=
  .list [.map [(.text "title", .text "a"), (.text "id", .text "first")], .map [(.text "cover", .list [.bytes .fixed [1]])],
    .map [(.text "id", .null), (.text "title", .text "c")]]

def threeKeys : StatementResult :=
  ⟨[.map [(.text "id", .int 1)], .map [(.text "id", .int 2)], .map [(.text "id", .int 3)]], none⟩

def notesRows : List Value :=
  [.map [(.text "id", .text "first"), (.text "cover", .list []), (.text "meta", .null), (.text "title", .text "a")],
    .map [(.text "id", .text "note4"), (.text "cover", .list [.text "\\x01"]), (.text "meta", .null),
      (.text "title", .null)],
    .map [(.text "id", .null), (.text "cover", .list []), (.text "meta", .null), (.text "title", .text "c")]]

def notesCreated : List Value :=
  [.map [(.text "cover", .list []), (.text "meta", .null), (.text "title", .text "a"), (.text "id", .int 1)],
    .map [(.text "cover", .list [.bytes .fixed [1]]), (.text "meta", .null), (.text "title", .null),
      (.text "id", .int 2)],
    .map [(.text "cover", .list []), (.text "meta", .null), (.text "title", .text "c"), (.text "id", .int 3)]]

theorem notesSample_created : ∃ insert params,
    meets (answering (.ok threeKeys)) (notesAdapter.create .plain (.text "note") notesSample)
        { connected := true, keysMade := 4 } [] =
      ((.ok notesCreated, { connected := true, keysMade := 5 }),
        [⟨.execute .pool insert.sql params "insert", (.ok threeKeys : Outcome StatementResult)⟩]) ∧
      insert.columns.map (·.text) = ["cover", "meta", "title"] ∧ Mutation.Insert.read? insert.sql = some insert ∧
      params.length = 9 ∧ params[3]? = some (.list [.text "\\x01"]) ∧ params[8]? = some (.text "c") := by
  obtain ⟨insert, params, result, ran, _, linesUp, _, answered⟩ :=
    @create_linesUp RecordType.noteSample notesAdapter .plain (.text "note") notesSample _ notesRows 5 .pool
      { connected := true, keysMade := 4 } (answering (.ok threeKeys)) [] rfl rfl (by simp) rfl rfl
  have assigned : insert.returning ≠ none := fun none =>
    linesUp.keyed.1 none _ (List.mem_of_getElem? (i := 2) rfl) rfl
  have columns : insert.columns = [⟨"cover", by decide⟩, ⟨"meta", by decide⟩, ⟨"title", by decide⟩] := by
    rw [linesUp.columns, if_neg assigned]
    exact List.mergeSort_of_pairwise (by decide)
  have length := linesUp.length
  have values := linesUp.values
  rw [columns] at length values
  refine ⟨insert, params, ?_, by rw [columns]; rfl, linesUp.text (by simp [columns]), length,
    values 1 0 _ _ rfl rfl, values 2 2 _ _ rfl rfl⟩
  have returned := ((answered _ rfl).2 notesCreated).2 ⟨fun _ => rfl, ?_, ?_⟩
  · rw [ran, returned]
    rfl
  · rfl
  · rintro (_ | _ | _ | i) row place
    · cases place
      exact ⟨_, _, by rw [ReadFrom, if_neg assigned]; exact ⟨_, _, _, rfl, rfl, rfl, rfl⟩, rfl, rfl⟩
    · cases place
      exact ⟨_, _, by rw [ReadFrom, if_neg assigned]; exact ⟨_, _, _, rfl, rfl, rfl, rfl⟩, rfl, rfl⟩
    · cases place
      exact ⟨_, _, by rw [ReadFrom, if_neg assigned]; exact ⟨_, _, _, rfl, rfl, rfl, rfl⟩, rfl, rfl⟩
    · cases place

end RecordStore.Adapter
