import RecordStore.Proofs.Adapter.Window
import RecordStore.Proofs.Query.Presentation
import RecordStore.Proofs.Query.Projection
import RecordStore.Proofs.Record.Rows

/-!
# Found records

What a search selects and what it reads belong together: from rows with the selected columns come records with exactly
these, in the order of the rows, each field decoded.
-/

namespace RecordStore.Adapter
open RecordStore.Task Query
open Value (lookup)

variable {adapter : Adapter} {type : RecordType} {nesting : Option Nat} {typeName keys options : Value} {party : Party}
  {selection : Projection} {statements : FindStatements} {asked : List Asked} {outcome : Outcome Found}

/-! ### Rows of a selection -/

/-- Rows that have the declared columns of a selection and no other declared ones. -/
structure Carries (type : RecordType) (selection : Projection) (row : Value) : Prop where
  map : ∃ entries, row = .map entries
  columns : ∀ column ∈ type.columns, (lookup column.text row.ownEntries).isSome ↔ column ∈ selection.selected type

/-- A record with the selected columns for keys: the key of its row, and in every field what the value there stands for. -/
structure FoundFrom (type : RecordType) (selection : Projection) (nesting : Option Nat) (row record : Value) : Prop where
  keys : ∃ own, record = .map own ∧ (own.map (·.1)).Perm ((selection.selected type).map (Value.text ·.text))
  key : ∃ v, lookup type.key.text row.ownEntries = some v ∧ lookup type.key.text record.ownEntries = some v
  fields : ∀ e ∈ type.fields, e.1 ∈ selection.selected type → ∃ v w, lookup e.1.text row.ownEntries = some v ∧
    e.2.StandsFor nesting v w ∧ lookup e.1.text record.ownEntries = some w ∧ (e.2.isInverse → w = v)

/-- The fields that a row has, and the key, are the selected columns in another order. -/
theorem Carries.perm {fields row : Value} (carries : Carries type selection row) (selects : Selects type fields selection) :
    (type.fieldNames.filter (fun name => (lookup name.text row.ownEntries).isSome) ++ [type.key]).Perm
      (selection.selected type) := by
  -- The key comes first in a selection and last in a record, so only the members are compared.
  have once := List.nodup_cons.1 type.nodup_columns
  refine (List.perm_ext_iff_of_nodup ?_ selects.nodup).2 fun column => ?_
  · refine List.nodup_append.2 ⟨once.2.filter _, List.nodup_singleton _, fun a field b key same => once.1 ?_⟩
    rw [← List.mem_singleton.1 key, ← same]
    exact (List.mem_filter.1 field).1
  · have carried := carries.columns column
    rw [List.mem_append, List.mem_filter, List.mem_singleton]
    constructor
    · rintro (⟨field, found⟩ | rfl)
      · exact (carried (List.mem_cons_of_mem _ field)).1 found
      · exact List.mem_of_mem_head? selects.key
    · intro selected
      have declared := selects.declared column selected
      exact (mem_columns.1 declared).symm.imp_left fun field => ⟨field, (carried declared).2 selected⟩

theorem foundFrom_of_carries {fields row record : Value} (selects : Selects type fields selection)
    (carries : Carries type selection row) (read : type.decodeRecord nesting row = .ok record) :
    FoundFrom type selection nesting row record := by
  obtain ⟨⟨entries, rfl⟩, columns⟩ := carries
  obtain ⟨own, rfl, keys⟩ := RecordType.keys_decodeRecord read
  have keyed : type.key ∈ selection.selected type := List.mem_of_mem_head? selects.key
  refine ⟨⟨own, rfl, ?_⟩, ?_, fun e member selected => ?_⟩
  · have same := (Carries.perm ⟨⟨entries, rfl⟩, columns⟩ selects).map fun column => Value.text column.text
    rw [List.map_append] at same
    rw [keys]
    exact same
  · obtain ⟨v, found⟩ := Option.isSome_iff_exists.1 ((columns type.key List.mem_cons_self).2 keyed)
    have same := RecordType.ownKey_decodeRecord read
    rw [show type.ownKey (.map entries) = some v from found] at same
    exact ⟨v, found, same⟩
  · have declared : e.1 ∈ type.columns := List.mem_cons_of_mem _ (List.mem_map_of_mem member)
    obtain ⟨v, found⟩ := Option.isSome_iff_exists.1 ((columns e.1 declared).2 selected)
    obtain ⟨w, decoded, there⟩ := RecordType.decodeRecord_field read member (congrArg Except.ok found)
    refine ⟨v, w, found, Field.decode_ok_iff.1 decoded, Except.ok.inj there, fun inverse => ?_⟩
    rw [Field.decode, if_pos inverse] at decoded
    exact (Except.ok.inj decoded).symm

/-! ### Searches -/

theorem goes_pair {α : Type} {first second : Run α} {result : Outcome (List α)}
    (goes : (joined [first, second]).run.Goes asked result) : ∃ one two before after,
      asked = before ++ after ∧ first.run.Goes before one ∧ second.run.Goes after two ∧ result = [one, two].mapM id := by
  obtain ⟨parts, results, more, rfl, went, rest⟩ := goes
  obtain ⟨rfl, rfl⟩ := rest
  have pair {γ : Type} (f : Fin 2 → γ) : List.ofFn f = [f 0, f 1] := by simp [List.ofFn_succ]
  refine ⟨_, _, _, _, ?_, went ⟨0, Nat.two_pos⟩, went ⟨1, Nat.one_lt_two⟩, congrArg (·.mapM id) (pair results)⟩
  rw [List.append_nil]
  exact (congrArg List.flatten (pair parts)).trans (by simp)

theorem goes_executor {result : Outcome Channel} (goes : (executor party).run.Goes asked result) :
    asked = [] ∧ (result = .error (.ofError .notConnected) ∨ ∃ channel, result = .ok channel) := by
  refine ⟨silent_executor party _ _ goes, ?_⟩
  obtain ⟨_, own, _, _, ⟨state, _, rfl⟩, rest⟩ := goes_bind_run goes
  dsimp only at rest
  cases connected : state.channel? party with
  | some channel =>
    rw [connected] at rest
    exact .inr ⟨channel, rest.2⟩
  | none =>
    rw [connected] at rest
    exact .inl rest.2

/-- A search is refused before it asks for anything, or asks for the rows and for their count and ends with what is in them. -/
theorem goes_find (known : adapter.recordType typeName = .ok type) (restricted : asksForNone keys = false)
    (built : findStatements type keys options = .ok statements)
    (goes : (adapter.find party typeName keys options).run.Goes asked outcome) :
    asked = [] ∧ outcome = .error (.ofError .notConnected) ∨
    ∃ channel, ∃ selected counted : Outcome StatementResult,
      asked = [⟨.execute channel statements.select statements.params "select", selected⟩,
        ⟨.execute channel statements.count statements.params "count", counted⟩] ∧
      ∀ rows total, selected = .ok rows → counted = .ok total →
        outcome = liftM (foundIn type adapter.nesting rows.rows total.rows) := by
  unfold find at goes
  rw [known] at goes
  obtain ⟨_, _, more, rfl, ⟨rfl, rfl⟩, goes⟩ := goes_bind_run goes
  simp only [restricted, built] at goes
  obtain ⟨_, _, more, rfl, ⟨rfl, rfl⟩, goes⟩ := goes_bind_run goes
  obtain ⟨before, result, more, rfl, went, goes⟩ := goes_bind_run goes
  obtain ⟨rfl, rfl | ⟨channel, rfl⟩⟩ := goes_executor went
  · obtain ⟨rfl, rfl⟩ := goes
    exact .inl ⟨rfl, rfl⟩
  · obtain ⟨both, answers, more, rfl, went, goes⟩ := goes_bind_run goes
    obtain ⟨selected, counted, first, second, rfl, select, count, rfl⟩ := goes_pair went
    rw [goes_perform select, goes_perform count]
    refine .inr ⟨channel, selected, counted, ?_, ?_⟩
    · cases selected with
      | ok rows =>
        cases counted with
        | ok total => rw [goes.1]; rfl
        | error failure => rw [goes.1]; rfl
      | error failure => rw [goes.1]; rfl
    · rintro rows total rfl rfl
      exact goes.2

theorem foundIn_ok_iff {rows total : List Value} {found : Found} : foundIn type nesting rows total = .ok found ↔
    readCount total = .ok found.count ∧ rows.mapM (type.decodeRecord nesting) = .ok found.records := by
  unfold foundIn
  constructor
  · intro made
    obtain ⟨count, counted, made⟩ := bind_ok made
    obtain ⟨records, read, made⟩ := bind_ok made
    cases made
    exact ⟨counted, read⟩
  · rintro ⟨counted, read⟩
    rw [counted, read]
    rfl

/-- What a search comes to where both of its statements are answered and the rows are those of its selection: it finds records
exactly if the count and the rows can be read, and then a record from every row, in their order. -/
structure Finds (type : RecordType) (selection : Projection) (nesting : Option Nat) (rows total : List Value)
    (outcome : Outcome Found) : Prop where
  ends : (∃ found, outcome = .ok found) ↔ (∃ count, readCount total = .ok count) ∧ ∀ row ∈ rows, type.Readable nesting row
  found : ∀ found, outcome = .ok found → found.records.length = rows.length ∧
    ∀ (i : Nat) row, rows[i]? = some row → ∃ record, found.records[i]? = some record ∧
      FoundFrom type selection nesting row record

theorem finds_of_carries {fields : Value} {rows total : List Value} (selects : Selects type fields selection)
    (carries : ∀ row ∈ rows, Carries type selection row) :
    Finds type selection nesting rows total (liftM (foundIn type nesting rows total)) := by
  have read (row : Value) (member : row ∈ rows) : (∃ record, type.decodeRecord nesting row = .ok record) ↔
      type.Readable nesting row := by
    obtain ⟨entries, rfl⟩ := (carries row member).map
    exact RecordType.decodeRecord_ok_iff
  constructor
  · constructor
    · rintro ⟨found, made⟩
      obtain ⟨counted, decoded⟩ := foundIn_ok_iff.1 (misuse_ok made)
      refine ⟨⟨_, counted⟩, fun row member => (read row member).1 ?_⟩
      obtain ⟨i, place⟩ := List.getElem?_of_mem member
      obtain ⟨record, _, own⟩ := (mapM_ok_iff.1 decoded).2 i row place
      exact ⟨record, own⟩
    · rintro ⟨⟨count, counted⟩, readable⟩
      obtain ⟨records, decoded⟩ := mapM_total fun row member => (read row member).2 (readable row member)
      have made : foundIn type nesting rows total = .ok { records, count } := foundIn_ok_iff.2 ⟨counted, decoded⟩
      rw [made]
      exact ⟨_, rfl⟩
  · intro found made
    obtain ⟨_, decoded⟩ := foundIn_ok_iff.1 (misuse_ok made)
    obtain ⟨length, each⟩ := mapM_ok_iff.1 decoded
    refine ⟨length, fun i row place => ?_⟩
    obtain ⟨record, there, own⟩ := each i row place
    exact ⟨record, there, foundFrom_of_carries selects (carries row (List.mem_of_getElem? place)) own⟩

/-- Fields that are accepted select declared columns. A search with such fields selects exactly these, and however it goes, it
finds a record with exactly these from every row of a store that answers with them. -/
theorem search_finds_selection {fields : Value} (distinct : Value.DistinctKeys fields.ownEntries)
    (accepted : projection type fields = .ok selection) :
    Selects type fields selection ∧
    ∀ {adapter : Adapter} {typeName keys options : Value} {statements : FindStatements},
      adapter.recordType typeName = .ok type → asksForNone keys = false → options.fieldValue "fields" = fields →
      findStatements type keys options = .ok statements →
      (∃ behind, statements.select = "select " ++ selection.sql ++ " from " ++ behind) ∧
      ∀ (party : Party) (asked : List Asked) (outcome : Outcome Found),
        (adapter.find party typeName keys options).run.Goes asked outcome →
          asked = [] ∧ outcome = .error (.ofError .notConnected) ∨
          ∃ channel, ∃ selected counted : Outcome StatementResult,
            asked = [⟨.execute channel statements.select statements.params "select", selected⟩,
              ⟨.execute channel statements.count statements.params "count", counted⟩] ∧
            ∀ rows total, selected = .ok rows → counted = .ok total → (∀ row ∈ rows.rows, Carries type selection row) →
              Finds type selection adapter.nesting rows.rows total.rows outcome := by
  have selects := projection_selects distinct accepted
  refine ⟨selects, fun known restricted given built => ⟨?_, fun party asked outcome goes => ?_⟩⟩
  · obtain ⟨search, _, _, _, _, presented, states⟩ := findStatements_parts built
    have same := presented.projection
    rw [given, accepted] at same
    rw [states.select, ← Except.ok.inj same]
    simp only [String.append_assoc]
    exact ⟨_, rfl⟩
  · refine (goes_find known restricted built goes).imp_right ?_
    rintro ⟨channel, selected, counted, exchanges, ends⟩
    refine ⟨channel, selected, counted, exchanges, fun rows total answered also carries => ?_⟩
    rw [ends rows total answered also]
    exact finds_of_carries selects carries

/-- Reports with a scan, data, repeated links and a headline. -/
def reportSample : RecordType where
  name := ⟨"report", by decide⟩
  key := RecordType.noteSample.key
  fields := [(⟨"scan", by decide⟩, { kind := .binary }), (⟨"data", by decide⟩, { kind := .structured, isArray := true }),
    (⟨"headline", by decide⟩, { kind := .text }), (⟨"viewers", by decide⟩, { kind := .scalar, isArray := true, isInverse := true })]
  nodup_fields := by decide
  key_not_field := by decide

def reportsAdapter : Adapter where
  types := [(.text "report", reportSample)]
  nesting := some 988

/-- Everything but headlines, and the key even where it is named. -/
def unheaded : Value := .map [(.text "headline", .bool false), (.text "id", .bool true)]

/-- Rows in the order of the store, with a column that is not declared. -/
def reportRows : List Value :=
  [.map [(.text "data", .list [.text "\x7b\"a\": [1]\x7d", .text "no JSON", .null]), (.text "id", .text "r2"),
      (.text "scan", .text "\\x00fF"), (.text "rank", .int 1), (.text "viewers", .text "u1")],
    .map [(.text "id", .text "r1"), (.text "scan", .bytes .view [7]), (.text "data", .null), (.text "viewers", .null)],
    .map [(.text "scan", .text "none"), (.text "data", .list []), (.text "viewers", .list [.int 3]), (.text "id", .text "r3")]]

def reportRecords : List Value :=
  [.map [(.text "scan", .bytes .fixed [0, 255]),
      (.text "data", .list [.map [(.text "a", .list [.int 1])], .text "no JSON", .null]), (.text "viewers", .text "u1"),
      (.text "id", .text "r2")],
    .map [(.text "scan", .bytes .fixed [7]), (.text "data", .null), (.text "viewers", .null), (.text "id", .text "r1")],
    .map [(.text "scan", .text "none"), (.text "data", .list []), (.text "viewers", .list [.int 3]), (.text "id", .text "r3")]]

/-- A store with these three reports. -/
def reportStore : Store
  | _, .open .. => (.ok () : Outcome Unit)
  | _, .execute _ _ _ "count" => (.ok ⟨[.map [(.text "count", .int 3)]], none⟩ : Outcome StatementResult)
  | _, .execute .. => (.ok ⟨reportRows, none⟩ : Outcome StatementResult)
  | _, .begin => (.ok 0 : Outcome Nat)
  | _, .commit _ => (.ok () : Outcome Unit)
  | _, .rollback _ => (.ok () : Outcome Unit)
  | _, .dispose => (.ok () : Outcome Unit)

theorem carries_reportRows {selection : Projection} (accepted : projection reportSample unheaded = .ok selection) :
    ∀ row ∈ reportRows, Carries reportSample selection row := by
  cases accepted
  have columns : ∀ row ∈ reportRows, ∀ column ∈ reportSample.columns, (lookup column.text row.ownEntries).isSome ↔
      column ∈ [reportSample.key, ⟨"scan", by decide⟩, ⟨"data", by decide⟩, ⟨"viewers", by decide⟩] := by decide
  refine fun row member => ⟨?_, columns row member⟩
  simp only [reportRows, List.mem_cons, List.not_mem_nil, or_false] at member
  obtain rfl | rfl | rfl := member <;> exact ⟨_, rfl⟩

def reportOptions : Value := .map [(.text "fields", unheaded)]

def reportSearch : Task AdapterState StoreCall StoreCall.Answer (Outcome Found) :=
  (reportsAdapter.find .plain (.text "report") .null reportOptions).run

theorem reports_found : ∃ selection asked found,
    projection reportSample unheaded = .ok selection ∧ selection.sql = "\"id\", \"scan\", \"data\", \"viewers\"" ∧
    reportSearch.Goes asked (.ok found) ∧
    found.records = reportRecords ∧ found.count = 3 ∧
    ∀ (i : Nat) row, reportRows[i]? = some row → ∃ record, found.records[i]? = some record ∧
      FoundFrom reportSample selection (some 988) row record := by
  have distinct : Value.DistinctKeys unheaded.ownEntries :=
    .cons (fun _ member => List.mem_singleton.1 member ▸ rfl) (List.pairwise_singleton ..)
  obtain ⟨_, searches⟩ := @search_finds_selection reportSample _ _ distinct rfl
  obtain ⟨_, courses⟩ := @searches reportsAdapter (.text "report") .null reportOptions _ rfl rfl rfl rfl
  obtain ⟨asked, grown, goes⟩ := goes_against reportStore reportSearch { connected := true } []
  have outcome : (against reportStore reportSearch { connected := true } []).1.1 = .ok ⟨reportRecords, 3⟩ := rfl
  rw [outcome] at goes
  obtain ⟨_, refused⟩ | ⟨channel, selected, counted, exchanges, finds⟩ := courses .plain asked _ goes
  · cases refused
  · obtain ⟨rfl, rfl⟩ : selected = (.ok ⟨reportRows, none⟩ : Outcome StatementResult) ∧
        counted = (.ok ⟨[.map [(.text "count", .int 3)]], none⟩ : Outcome StatementResult) := by
      rw [List.nil_append] at grown
      injection grown.trans exchanges with first rest
      injection rest with second
      injection first with _ one
      injection second with _ two
      exact ⟨one.symm, two.symm⟩
    have found := (finds _ _ rfl rfl (carries_reportRows rfl)).found _ rfl
    exact ⟨_, asked, _, rfl, rfl, goes, rfl, rfl, found.2⟩

end RecordStore.Adapter
