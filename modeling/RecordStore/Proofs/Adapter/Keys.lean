import RecordStore.Proofs.Adapter.Create
import RecordStore.Proofs.Adapter.Operations
import RecordStore.Proofs.Mutation.Execution
import RecordStore.Proofs.Record.Rows

/-!
# The keys of created records

Which key a record of a batch is created with. If every record of the batch has a key that is not null, its own one or one
that is made for it, then these keys are inserted and come back. Otherwise the store assigns all keys of the batch.
-/

namespace RecordStore

namespace RecordType

variable {type : RecordType} {source : Option KeySource} {made after : Nat} {row record : Value}

/-! ### Keys of a batch -/

/-- The keys of the records of a batch: the own one of each, also if it is null, or the one that is made for it. -/
def batchKeys (type : RecordType) (source : Option KeySource) (made : Nat) (items : List Value) : List (Option Value) :=
  items.mapIdx fun i record =>
    (type.ownKey record).or (source.map fun draw => draw (made + type.drawn source (items.take i)) type.name.text)

/-- Whether every record of a batch has a key that is not null. -/
def AllKeyed (keys : List (Option Value)) : Prop := ∀ key ∈ keys, ∃ k, key = some k ∧ k ≠ .null

theorem batchKeys_own {items : List Value} {i : Nat} {key : Value} (found : items[i]? = some record)
    (own : type.ownKey record = some key) : (type.batchKeys source made items)[i]? = some (some key) := by
  rw [batchKeys, List.getElem?_mapIdx, found, Option.map_some, own, Option.some_or]

/-- The rows that a batch is stored as have its keys. -/
theorem BatchStoredAs.keys {items rows : List Value} (stored : type.BatchStoredAs source made items rows after) :
    type.batchKeys source made items = rows.map type.ownKey := by
  apply List.ext_getElem?
  intro i
  rw [batchKeys, List.getElem?_mapIdx, List.getElem?_map]
  cases found : items[i]? with
  | some record =>
    obtain ⟨row, place, _, asStored⟩ := stored.each i record found
    rw [place, Option.map_some, Option.map_some, asStored.key]
  | none =>
    have beyond := List.getElem?_eq_none_iff.1 found
    rw [List.getElem?_eq_none_iff.2 (stored.length ▸ beyond)]
    rfl

theorem allKeyed_rows (rows : List Value) :
    AllKeyed (rows.map type.ownKey) ↔ ∀ row ∈ rows, row.fieldValue type.key.text ≠ .null := by
  unfold AllKeyed
  rw [List.forall_mem_map]
  refine forall₂_congr fun row _ => ?_
  show (∃ k, type.ownKey row = some k ∧ k ≠ .null) ↔ (type.ownKey row).getD .null ≠ .null
  cases type.ownKey row <;> simp

end RecordType

/-- The value that an insert gives a column of one of its rows. -/
def Mutation.Insert.valueAt? (insert : Mutation.Insert) (params : List Value) (row : Nat) (column : Identifier) :
    Option Value := do
  let slots ← insert.rows[row]?
  let slot ← slots[← insert.columns.findIdx? (·.text == column.text)]?
  Mutation.slotValue params slot

namespace Adapter

open RecordStore.Task Mutation

variable {type : RecordType} {rows : List Value} {insert : Mutation.Insert} {params : List Value}

/-! ### The key column -/

theorem LinesUp.key_value (linesUp : LinesUp type rows insert params) (keyed : insert.returning = none) {i : Nat}
    {row : Value} (found : rows[i]? = some row) : insert.valueAt? params i type.key = some (row.fieldValue type.key.text) := by
  have inside : i < rows.length := (List.getElem?_eq_some_iff.1 found).1
  have columns : insert.columns = type.key :: type.sortedFields := linesUp.columns.trans (if_pos keyed)
  have first : insert.columns.findIdx? (·.text == type.key.text) = some 0 := by
    rw [columns, List.findIdx?_cons, beq_self_eq_true, if_pos rfl]
  have slot : (Sql.slotsFrom (1 + i * insert.columns.length) insert.columns.length)[0]? =
      some ⟨i * insert.columns.length + 1, ""⟩ := by
    rw [columns, List.length_cons, Sql.slotsFrom_succ, Nat.add_comm 1]
    rfl
  have value := linesUp.values i 0 row type.key found (by rw [columns]; rfl)
  unfold Insert.valueAt?
  rw [linesUp.slots i inside, first]
  simp only [Option.bind_eq_bind, Option.bind_some, slot]
  exact value

theorem LinesUp.no_key_value (linesUp : LinesUp type rows insert params) (assigned : insert.returning ≠ none) (i : Nat) :
    insert.valueAt? params i type.key = none := by
  have columns : insert.columns = type.sortedFields := linesUp.columns.trans (if_neg assigned)
  have absent : insert.columns.findIdx? (·.text == type.key.text) = none := by
    rw [columns, List.findIdx?_eq_none_iff]
    intro column member
    have declared : column ∈ type.fieldNames := linesUp.sorted.1.mem_iff.1 member
    have apart : column.text ≠ type.key.text := fun same =>
      type.key_not_field (same ▸ by simpa [RecordType.fieldNames] using List.mem_map_of_mem (f := (·.text)) declared)
    simpa using apart
  unfold Insert.valueAt?
  rw [absent]
  cases insert.rows[i]? <;> rfl

/-! ### How creating ends -/

variable {store : Store} {adapter : Adapter} {party : Party} {typeName records : Value} {state after : AdapterState}
  {log : List Asked}

/-- How creating records ends: refused before the store is asked for anything, with nothing to create, or with the answer
of the store to the one insert. -/
inductive Created (store : Store) (log : List Asked) (adapter : Adapter) (party : Party) (typeName records : Value)
    (state : AdapterState) : Outcome (List Value) → AdapterState → List Asked → Prop
  | refused {failure : Failure} (keysMade : Nat) :
    Created store log adapter party typeName records state (.error failure) { state with keysMade } []
  | nothing (none : records.holds = false) : Created store log adapter party typeName records state (.ok []) state []
  | inserted {type : RecordType} {items rows : List Value} {made : Nat} {insert : Mutation.Insert} {params : List Value}
    {channel : Channel} (answer : Outcome StatementResult)
    (answered : store log (.execute channel insert.sql params "insert") = answer) (known : adapter.recordType typeName = .ok type)
    (holds : records.holds = true) (listed : records.elements = .ok items)
    (encodes : (items.mapM (type.encodeRecord adapter.keySource)).run.run state.keysMade = (.ok rows, made))
    (built : buildInsert type rows = .ok (insert, params)) (connected : state.channel? party = some channel) :
    Created store log adapter party typeName records state (createdOutcome type adapter.nesting insert rows answer)
      { state with keysMade := made } [⟨.execute channel insert.sql params "insert", answer⟩]

theorem created_create (store : Store) (adapter : Adapter) (party : Party) (typeName records : Value) (state : AdapterState)
    (log : List Asked) : ∃ outcome after asked,
      meets store (adapter.create party typeName records) state log = ((outcome, after), log ++ asked) ∧
        Created store log adapter party typeName records state outcome after asked := by
  unfold create
  cases known : adapter.recordType typeName with
  | error failure =>
    exact ⟨_, state, [], (meets_error (meets_ofOutcome _) _).trans (by rw [List.append_nil]), .refused state.keysMade⟩
  | ok type =>
  rw [meets_ok (meets_ofOutcome _)]
  cases holds : records.holds with
  | false => exact ⟨.ok [], state, [], by rw [List.append_nil]; rfl, .nothing holds⟩
  | true =>
  rw [if_neg (show ¬(!true) = true by decide)]
  cases listed : records.elements with
  | error misuse =>
    exact ⟨_, state, [], (meets_error (meets_ofOutcome _) _).trans (by rw [List.append_nil]), .refused state.keysMade⟩
  | ok items =>
  rw [meets_ok (show meets store (ofMisuse (.ok items)) state log = ((.ok items, state), log) from rfl)]
  rcases encodes : (items.mapM (type.encodeRecord adapter.keySource)).run.run state.keysMade with ⟨encoded, made⟩
  have ran : meets store (adapter.encodeAll type items) state log =
      ((liftM encoded, { state with keysMade := made }), log) := by
    unfold encodeAll
    rw [meets_ok meets_look]
    dsimp only
    rw [encodes, meets_ok (meets_change _)]
    rfl
  cases encoded with
  | error misuse => exact ⟨_, _, [], (meets_error ran _).trans (by rw [List.append_nil]), .refused _⟩
  | ok rows =>
  rw [meets_ok ran]
  cases built : buildInsert type rows with
  | error failure => exact ⟨_, _, [], (meets_error (meets_ofOutcome _) _).trans (by rw [List.append_nil]), .refused _⟩
  | ok built' =>
  obtain ⟨insert, params⟩ := built'
  rw [meets_ok (meets_ofOutcome _)]
  dsimp only
  have still : ({ state with keysMade := made } : AdapterState).channel? party = state.channel? party := by
    cases party <;> rfl
  cases connected : state.channel? party with
  | none =>
    have refused : meets store (executor party) { state with keysMade := made } log = _ :=
      meets_executor_none (still.trans connected)
    have tried := meets_tryCatch_error (meets_error refused fun channel => execute channel insert.sql params "insert")
      fun failure => throw (insertFailure failure)
    exact ⟨_, _, [], (meets_error tried _).trans (by rw [List.append_nil]), .refused _⟩
  | some channel =>
  have found : meets store (executor party) { state with keysMade := made } log = _ :=
    meets_executor (still.trans connected)
  have asks := (meets_ok found fun channel => execute channel insert.sql params "insert").trans (meets_execute ..)
  cases answered : store log (.execute channel insert.sql params "insert") with
  | error failure =>
    rw [answered] at asks
    refine ⟨_, _, _, meets_error (meets_tryCatch_error asks _) _, ?_⟩
    exact .inserted (.error failure) answered known holds listed encodes built connected
  | ok result =>
    rw [answered] at asks
    refine ⟨_, _, _, (meets_ok (meets_tryCatch_ok asks _) _).trans rfl, ?_⟩
    exact .inserted (.ok result) answered known holds listed encodes built connected

/-! ### The keys that come back -/

theorem createdRecords_keys {nesting : Option Nat} {returned created : List Value}
    (made : createdRecords type nesting insert rows returned = .ok created) {i : Nat} {row : Value}
    (found : rows[i]? = some row) : ∃ record, created[i]? = some record ∧
      if insert.returning = none then type.ownKey record = some (row.fieldValue type.key.text)
      else ∃ entries key, returned[i]? = some (.map entries) ∧ Value.lookup type.key.text entries = some key ∧
        type.ownKey record = some key := by
  obtain ⟨_, _, each⟩ := createdRecords_ok_iff.1 made
  obtain ⟨read, record, readFrom, decoded, place⟩ := each i row found
  have own := RecordType.ownKey_decodeRecord decoded
  refine ⟨record, place, ?_⟩
  by_cases keyed : insert.returning = none
  · rw [ReadFrom, if_pos keyed] at readFrom
    rw [if_pos keyed, ← readFrom]
    exact own
  · rw [ReadFrom, if_neg keyed] at readFrom
    rw [if_neg keyed]
    obtain ⟨entries, others, key, rfl, there, present, rfl⟩ := readFrom
    refine ⟨others, key, there, present, own.trans ?_⟩
    show some ((Value.lookup type.key.text (Value.putText type.key.text key entries)).getD .null) = some key
    rw [Value.lookup_putText, Option.getD_some]

/-- What becomes of the keys of a batch: an insert that can be read back gives each row its key if there are keys for all
of them, and these keys come back. Otherwise it leaves the keys to the store and those that the store returns come back. -/
structure KeysServed (type : RecordType) (keys : List (Option Value)) (insert : Mutation.Insert) (params : List Value)
    (answer : Outcome StatementResult) (outcome : Outcome (List Value)) : Prop where
  text : insert.columns ≠ [] → Mutation.Insert.read? insert.sql = some insert
  count : ∀ created, outcome = .ok created → created.length = keys.length
  bound : RecordType.AllKeyed keys → ∀ (i : Nat) key, keys[i]? = some (some key) → insert.valueAt? params i type.key = some key
  kept : RecordType.AllKeyed keys → ∀ created, outcome = .ok created → ∀ (i : Nat) key, keys[i]? = some (some key) →
    ∃ record, created[i]? = some record ∧ type.ownKey record = some key
  unbound : ¬ RecordType.AllKeyed keys → ∀ i, insert.valueAt? params i type.key = none
  assigned : ¬ RecordType.AllKeyed keys → ∀ created, outcome = .ok created → ∃ result, answer = .ok result ∧
    ∀ i < keys.length, ∃ entries key record, result.rows[i]? = some (.map entries) ∧
      Value.lookup type.key.text entries = some key ∧ created[i]? = some record ∧ type.ownKey record = some key

theorem keysServed_of_rows {nesting : Option Nat} {answer : Outcome StatementResult}
    (linesUp : LinesUp type rows insert params) :
    KeysServed type (rows.map type.ownKey) insert params answer (createdOutcome type nesting insert rows answer) := by
  have keyed := (@RecordType.allKeyed_rows type rows).trans linesUp.keyed.symm
  have came : ∀ created, createdOutcome type nesting insert rows answer = .ok created →
      ∃ result, answer = .ok result ∧ createdRecords type nesting insert rows result.rows = .ok created := by
    intro created same
    cases answer with
    | error failure => cases same
    | ok result => exact ⟨result, rfl, misuse_ok same⟩
  have value : ∀ {row key}, type.ownKey row = some key → row.fieldValue type.key.text = key := by
    intro row key own
    show (type.ownKey row).getD .null = key
    rw [own, Option.getD_some]
  refine { text := linesUp.text, count := ?_, bound := ?_, kept := ?_, unbound := ?_, assigned := ?_ }
  · intro created same
    obtain ⟨result, _, made⟩ := came created same
    rw [List.length_map]
    exact (createdRecords_ok_iff.1 made).2.1
  · intro all i key found
    rw [List.getElem?_map, Option.map_eq_some_iff] at found
    obtain ⟨row, place, own⟩ := found
    rw [linesUp.key_value (keyed.1 all) place, value own]
  · intro all created same i key found
    obtain ⟨result, _, made⟩ := came created same
    rw [List.getElem?_map, Option.map_eq_some_iff] at found
    obtain ⟨row, place, own⟩ := found
    obtain ⟨record, there, kept⟩ := createdRecords_keys made place
    rw [if_pos (keyed.1 all), value own] at kept
    exact ⟨record, there, kept⟩
  · intro some i
    exact linesUp.no_key_value (fun none => some (keyed.2 none)) i
  · intro some created same
    obtain ⟨result, answered, made⟩ := came created same
    refine ⟨result, answered, fun i inside => ?_⟩
    rw [List.length_map] at inside
    obtain ⟨record, there, kept⟩ := createdRecords_keys made (List.getElem?_eq_getElem inside)
    rw [if_neg fun none => some (keyed.2 none)] at kept
    obtain ⟨entries, key, returned, present, own⟩ := kept
    exact ⟨entries, key, record, returned, present, there, own⟩

/-- Creating records issues one insert, if it issues anything, and serves the keys of the batch: the own keys of its records
and those that are made for the others. -/
theorem create_serves_keys (store : Store) (adapter : Adapter) (party : Party) (typeName records : Value)
    (state : AdapterState) (log : List Asked) : ∃ outcome after asked,
      meets store (adapter.create party typeName records) state log = ((outcome, after), log ++ asked) ∧
        asked.map (·.call) = (Work.create typeName records).calls adapter party state ∧
        (asked = [] ∧ (∀ created, outcome = .ok created → created = []) ∨
          ∃ (type : RecordType) (items : List Value) (channel : Channel) (insert : Mutation.Insert) (params : List Value)
            (answer : Outcome StatementResult), adapter.recordType typeName = .ok type ∧
            records.elements = .ok items ∧ asked = [⟨.execute channel insert.sql params "insert", answer⟩] ∧
            store log (.execute channel insert.sql params "insert") = answer ∧
            (∀ (i : Nat) record key, items[i]? = some record → type.ownKey record = some key →
              (type.batchKeys adapter.keySource state.keysMade items)[i]? = some (some key)) ∧
            KeysServed type (type.batchKeys adapter.keySource state.keysMade items) insert params answer outcome) := by
  obtain ⟨outcome, after, asked, came, ends⟩ := created_create store adapter party typeName records state log
  obtain ⟨_, _, issued, same, calls⟩ := @makes_create store adapter party state log typeName records
  have all : asked = issued := List.append_cancel_left (Prod.mk.inj (came.symm.trans same)).2
  refine ⟨outcome, after, asked, came, by rw [all, calls], ?_⟩
  cases ends with
  | refused => exact .inl ⟨rfl, nofun⟩
  | nothing => exact .inl ⟨rfl, fun created same => (Except.ok.inj same).symm⟩
  | @inserted type items rows made insert params channel answer answered known holds listed encodes built connected =>
    have stored := RecordType.encodeRecords_ok encodes
    have nonempty : items ≠ [] := by
      rintro rfl
      rw [Value.holds_elements (Value.elements_ok listed)] at holds
      cases holds
    obtain ⟨insert', params', built', linesUp⟩ := @buildInsert_linesUp type rows (stored.filled nonempty) stored.maps
    cases built.symm.trans built'
    refine .inr ⟨type, items, channel, insert, params, answer, known, listed, rfl, answered, ?_, ?_⟩
    · exact fun i record key found own => RecordType.batchKeys_own found own
    · rw [stored.keys]
      exact keysServed_of_rows linesUp

def userSample : RecordType where
  name := ⟨"user", by decide⟩
  key := RecordType.noteSample.key
  fields := [(⟨"name", by decide⟩, { kind := .text })]
  nodup_fields := List.nodup_singleton _
  key_not_field := fun member => absurd (List.mem_singleton.1 member) (by decide)

def madeKeysAdapter : Adapter where
  types := [(.text "user", userSample)]
  settings := { generator := some (.custom RecordType.noteKeys) }

/-- A user with a key of its own and one that a key is made for. -/
def keyedUsers : List Value :=
  [.map [(.text "id", .text "own"), (.text "name", .text "a")], .map [(.text "name", .text "b")]]

theorem meets_keyedUsers :
    meets (answering (.ok {})) (madeKeysAdapter.create .plain (.text "user") (.list keyedUsers))
        { connected := true, keysMade := 4 } [] =
      ((.ok [.map [(.text "name", .text "a"), (.text "id", .text "own")],
          .map [(.text "name", .text "b"), (.text "id", .text "user4")]], { connected := true, keysMade := 5 }),
        [⟨.execute .pool "insert into \"user\" (\"id\", \"name\") values ($1, $2), ($3, $4)"
          [.text "own", .text "a", .text "user4", .text "b"] "insert", (.ok {} : Outcome StatementResult)⟩]) := by
  have sorted : userSample.sortedFields = [⟨"name", by decide⟩] := List.mergeSort_of_pairwise (by decide)
  let rows : List Value := [.map [(.text "id", .text "own"), (.text "name", .text "a")],
    .map [(.text "id", .text "user4"), (.text "name", .text "b")]]
  have built : buildInsert userSample rows = .ok
      (⟨userSample.name, [userSample.key, ⟨"name", by decide⟩], [[⟨1, ""⟩, ⟨2, ""⟩], [⟨3, ""⟩, ⟨4, ""⟩]], none⟩,
        [.text "own", .text "a", .text "user4", .text "b"]) := by
    unfold buildInsert Mutation.insert
    rw [sorted]
    rfl
  change meets (answering (.ok {})) (ofOutcome (buildInsert userSample rows) >>= _) _ _ = _
  rw [built]
  rfl

/-- All users have a key in the end, so these are sent, and they come back. -/
theorem keyedUsers_served :
    RecordType.AllKeyed (userSample.batchKeys madeKeysAdapter.keySource 4 keyedUsers) ∧
    ∃ (insert : Mutation.Insert) (params : List Value) (created : List Value),
      meets (answering (.ok {})) (madeKeysAdapter.create .plain (.text "user") (.list keyedUsers))
          { connected := true, keysMade := 4 } [] =
        ((.ok created, { connected := true, keysMade := 5 }),
          [⟨.execute .pool insert.sql params "insert", (.ok {} : Outcome StatementResult)⟩]) ∧
      insert.valueAt? params 0 userSample.key = some (.text "own") ∧
      insert.valueAt? params 1 userSample.key = some (.text "user4") ∧
      (∃ record, created[0]? = some record ∧ userSample.ownKey record = some (.text "own")) ∧
      ∃ record, created[1]? = some record ∧ userSample.ownKey record = some (.text "user4") := by
  obtain ⟨outcome, after, asked, came, _, ends⟩ :=
    create_serves_keys (answering (.ok {})) madeKeysAdapter .plain (.text "user") (.list keyedUsers)
      { connected := true, keysMade := 4 } []
  obtain ⟨ended, issued⟩ := Prod.mk.inj (meets_keyedUsers.symm.trans came)
  obtain ⟨rfl, rfl⟩ := Prod.mk.inj ended
  rw [List.nil_append] at issued
  obtain ⟨none, _⟩ | ⟨type, items, channel, insert, params, answer, known, listed, only, _, _, served⟩ := ends
  · cases issued.trans none
  · cases known
    cases listed
    have all : RecordType.AllKeyed (userSample.batchKeys madeKeysAdapter.keySource 4 keyedUsers) := by
      change RecordType.AllKeyed [some (.text "own"), some (.text "user4")]
      simp [RecordType.AllKeyed]
    refine ⟨all, insert, params, _, ?_, served.bound all 0 _ rfl, served.bound all 1 _ rfl, served.kept all _ rfl 0 _ rfl,
      served.kept all _ rfl 1 _ rfl⟩
    injection issued.trans only with first _
    injection first with call _
    injection call with _ sql bound _
    rw [← sql, ← bound]
    exact meets_keyedUsers

/-- An adapter whose store assigns the keys. -/
def usersAdapter : Adapter where
  types := [(.text "user", userSample)]
  settings := { generator := none }

def assigningStore : Store :=
  answering (.ok ⟨[.map [(.text "id", .text "s1")], .map [(.text "id", .text "s2")]], none⟩)

/-- Of two users the second one has no key. So the key of the first one is not sent, and it comes back with another one. -/
theorem own_key_replaced :
    let first : Value := .map [(.text "id", .text "own"), (.text "name", .text "a")]
    let second : Value := .map [(.text "name", .text "b")]
    userSample.ownKey first = some (.text "own") ∧ ∃ answer,
      meets assigningStore (usersAdapter.create .plain (.text "user") (.list [first, second])) { connected := true } [] =
        ((.ok [.map [(.text "name", .text "a"), (.text "id", .text "s1")],
            .map [(.text "name", .text "b"), (.text "id", .text "s2")]], { connected := true }),
          [⟨.execute .pool "insert into \"user\" (\"name\") values ($1), ($2) returning \"id\"" [.text "a", .text "b"] "insert",
            answer⟩]) := by
  refine ⟨rfl, (.ok ⟨[.map [(.text "id", .text "s1")], .map [(.text "id", .text "s2")]], none⟩ : Outcome StatementResult), ?_⟩
  have sorted : userSample.sortedFields = [⟨"name", by decide⟩] := List.mergeSort_of_pairwise (by decide)
  let rows : List Value := [.map [(.text "id", .text "own"), (.text "name", .text "a")], .map [(.text "name", .text "b")]]
  have built : buildInsert userSample rows = .ok
      (⟨userSample.name, [⟨"name", by decide⟩], [[⟨1, ""⟩], [⟨2, ""⟩]], some userSample.key⟩, [.text "a", .text "b"]) := by
    unfold buildInsert Mutation.insert
    rw [sorted]
    rfl
  change meets assigningStore (ofOutcome (buildInsert userSample rows) >>= _) _ _ = _
  rw [built]
  rfl

end Adapter
end RecordStore
