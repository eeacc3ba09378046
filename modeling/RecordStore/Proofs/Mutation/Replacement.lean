import RecordStore.Proofs.Mutation.Execution
import RecordStore.Proofs.Record.Batch

/-!
# What is inserted and what is replaced

A record's value is encoded by the definition of its field, the value that an update puts in its place by its own shape:
lists and tuples are encoded element by element. Both come to the same for array fields with an array or null, and for
other fields with any value but tuples and lists of something that has an encoding of its own.
-/

namespace RecordStore

open Mutation Sql Binding

/-! ### One value -/

/-- Whether a value is stored in a form of its own: bytes and maps are written as texts. -/
def Value.isWritten (v : Value) : Bool := v.isBytes || v.entries?.isSome

theorem encoded_of_plain {v : Value} (plain : v.isWritten = false) : v.encoded = .ok v := by
  cases v with
  | bytes form data => cases plain
  | map entries => cases plain
  | _ => rfl

theorem plain_of_encoded {v : Value} (same : v.encoded = .ok v) : v.isWritten = false := by
  cases v with
  | bytes form data => cases same
  | map entries =>
    rw [Value.encoded] at same
    obtain ⟨text, _, other⟩ := map_ok same
    cases other
  | _ => rfl

/-- Whether a value takes the same form when it is inserted into a field and when it replaces what the field holds. -/
def Field.replacesAlike (field : Field) (v : Value) : Bool :=
  match field.isArray, v with
  | true, v => v.isNull || v.sequence?.isSome
  | false, .tuple _ => false
  | false, .list items => items.all fun item => !item.isWritten
  | false, _ => true

theorem wholeForm_list {items stored : List Value} :
    wholeForm (.list items) = .ok (.list stored) ↔ items.mapM Value.encoded = .ok stored := by
  show (items.mapM Value.encoded).map Value.list = _ ↔ _
  cases items.mapM Value.encoded <;> simp [Except.map]

theorem mapM_encoded_self {items : List Value} :
    items.mapM Value.encoded = .ok items ↔ ∀ item ∈ items, item.isWritten = false := by
  rw [mapM_ok_iff]
  constructor
  · rintro ⟨_, each⟩ item member
    obtain ⟨i, found⟩ := List.getElem?_of_mem member
    obtain ⟨stored, there, made⟩ := each i item found
    rw [found] at there
    cases there
    exact plain_of_encoded made
  · intro plain
    exact ⟨rfl, fun i item found => ⟨item, found, encoded_of_plain (plain item (List.mem_of_getElem? found))⟩⟩

theorem encode_array {field : Field} {v : Value} (array : field.isArray = true)
    (alike : (v.isNull || v.sequence?.isSome) = true) : field.encode v = wholeForm v := by
  have each : ∀ items : List Value, v.isNull = false → v.elements = .ok items → v.sequence? = some items →
      field.encode v = wholeForm v := by
    intro items some listed sequence
    unfold Field.encode Field.convert
    rw [array, some, listed, wholeForm, sequence]
    show (items.mapM Value.encoded >>= fun stored => pure (Value.list stored)) = (items.mapM Value.encoded).map Value.list
    cases items.mapM Value.encoded <;> rfl
  cases v with
  | null => exact Field.convert_null _
  | list items => exact each items rfl rfl rfl
  | tuple items => exact each items rfl rfl rfl
  | _ => cases alike

theorem encode_one_iff {field : Field} (one : field.isArray = false) (v : Value) :
    field.encode v = wholeForm v ↔ field.replacesAlike v = true := by
  unfold Field.replacesAlike
  rw [Field.encode, Field.convert_one one, one]
  cases v with
  | list items =>
    have plain : items.all (fun item => !item.isWritten) = true ↔ items.mapM Value.encoded = .ok items := by
      rw [mapM_encoded_self, List.all_eq_true]
      simp
    rw [plain, ← wholeForm_list]
    exact eq_comm
  | tuple items =>
    show (.ok (.tuple items) : Except Misuse Value) = (items.mapM Value.encoded).map Value.list ↔
      false = true
    cases items.mapM Value.encoded <;> simp [Except.map]
  | _ => simp [wholeForm, Value.sequence?]

theorem encoded_ne_list {v : Value} (none : v.sequence? = none) (items : List Value) : v.encoded ≠ .ok (.list items) := by
  intro same
  cases v with
  | list => cases none
  | tuple => cases none
  | map entries =>
    obtain ⟨_, _, other⟩ := map_ok same
    cases other
  | _ => cases same

/-- Of the values that can be inserted into a field, exactly those that are said to be alike take the same form when they
replace what it holds. -/
theorem wholeForm_iff {field : Field} {v stored : Value} (encodes : field.encode v = .ok stored) :
    wholeForm v = .ok stored ↔ field.replacesAlike v = true := by
  cases array : field.isArray with
  | false => rw [← encode_one_iff array, encodes, eq_comm]
  | true =>
    have alike : field.replacesAlike v = (v.isNull || v.sequence?.isSome) := by
      unfold Field.replacesAlike
      rw [array]
    rw [alike]
    constructor
    · intro form
      cases null : v.isNull with
      | true => rfl
      | false =>
        have given : v ≠ .null := by
          rintro rfl
          cases null
        obtain ⟨_, items, _, _, rfl⟩ := (Field.convert_each array given _).1 encodes
        cases sequence : v.sequence? with
        | some => rfl
        | none =>
          rw [wholeForm, sequence] at form
          exact absurd form (encoded_ne_list sequence items)
    · intro same
      rw [← encode_array array same, encodes]

/-! ### Updates -/

namespace Mutation

variable {type : RecordType} {values after : ParameterList} {column : Identifier} {v stored : Value}

/-- What an expression starts from, before anything is pushed to it or pulled from it. -/
def Expression.root : Expression → Expression
  | concat base _ | append base _ | without base _ | remove base _ => base.root
  | expression => expression

/-- The value that an update puts in the place of what a column held. -/
def Update.replacedBy? (update : Update) (params : List Value) (column : Identifier) : Option Value :=
  match (update.assignments.current column).root with
  | .value slot => slotValue params slot
  | _ => none

/-- A column starts from a slot for this value. -/
def StartsFrom (column : Identifier) (stored : Value) (assignments : Assignments) (values : ParameterList) : Prop :=
  ∃ slot, (assignments.current column).root = .value slot ∧ slotValue values slot = some stored

theorem StartsFrom.grow {assignments : Assignments} (starts : StartsFrom column stored assignments values)
    (more : List Value) : StartsFrom column stored assignments (values ++ more) := by
  obtain ⟨slot, root, value⟩ := starts
  exact ⟨slot, root, slotValue_append value more⟩

/-- Setting a column to something that starts from what it was, or setting another column, changes no start. -/
theorem StartsFrom.set {assignments : Assignments} (starts : StartsFrom column stored assignments values)
    {other : Identifier} {expression : Expression} (same : expression.root = (assignments.current other).root) :
    StartsFrom column stored (assignments.set other expression) values := by
  obtain ⟨slot, root, value⟩ := starts
  refine ⟨slot, ?_, value⟩
  rw [Assignments.current_set]
  by_cases own : other = column
  · subst own
    rw [if_pos rfl, same, root]
  · rw [if_neg own, root]

theorem startsFrom_new (column : Identifier) (stored : Value) (assignments : Assignments) (values : ParameterList) :
    StartsFrom column stored (assignments.set column (.value ⟨values.length + 1, ""⟩)) (values ++ [stored]) := by
  refine ⟨⟨values.length + 1, ""⟩, ?_, slotValue_new stored⟩
  rw [Assignments.current_set, if_pos rfl]
  rfl

theorem startsFrom_replace {assignments next : Assignments} {entries : List (Value × Value)}
    (made : wholeForm v = .ok stored) (only : ∀ x, (Value.text column.text, x) ∈ entries → x = v)
    (starts : StartsFrom column stored assignments values ∨ (.text column.text, v) ∈ entries)
    (ran : (entries.foldlM (fun done entry => replace type done entry.1 entry.2) assignments).runFrom values =
      (.ok next, after)) : StartsFrom column stored next after := by
  -- Until the entry of the column has been met, it is among those that are left.
  refine (foldlM_run (fun rest done values => (∀ x, (Value.text column.text, x) ∈ rest → x = v) ∧
      (StartsFrom column stored done values ∨ (.text column.text, v) ∈ rest)) ?_ ⟨only, starts⟩ ran).2.resolve_right
    List.not_mem_nil
  · intro entry rest done values next after ⟨only, starts⟩ ran
    refine ⟨fun x member => only x (List.mem_cons_of_mem _ member), ?_⟩
    obtain ⟨other, form, named, stores, rfl, rfl⟩ := replace_run ran
    have name : entry.1 = .text other.text := Identifier.ofValue_ok named
    by_cases own : other = column
    · subst own
      have value : entry.2 = v := only entry.2 (List.mem_cons.2 (.inl (Prod.ext name.symm rfl)))
      rw [value, made] at stores
      cases stores
      exact .inl (startsFrom_new other stored done values)
    · obtain starts | member := starts
      · refine .inl ?_
        obtain ⟨slot, root, value⟩ := starts.grow [form]
        exact ⟨slot, by rw [Assignments.current_set, if_neg own]; exact root, value⟩
      · obtain same | later := List.mem_cons.1 member
        · rw [← same] at name
          have texts : column.text = other.text := Value.string_inj name
          exact absurd (Identifier.eq_of_text texts).symm own
        · exact .inr later

theorem startsFrom_push {assignments next : Assignments} {entries : List (Value × Value)}
    (starts : StartsFrom column stored assignments values)
    (ran : (entries.foldlM (fun done entry => push done entry.1 entry.2) assignments).runFrom values = (.ok next, after)) :
    StartsFrom column stored next after := by
  refine foldlM_run (fun _ => StartsFrom column stored) (fun entry rest done values next after starts ran => ?_) starts ran
  obtain ⟨other, form, _, _, rfl, rfl⟩ := push_run ran
  apply (starts.grow [form]).set
  split <;> rfl

theorem startsFrom_pull {assignments next : Assignments} {entries : List (Value × Value)}
    (starts : StartsFrom column stored assignments values)
    (ran : (entries.foldlM (fun done entry => pull done entry.1 entry.2) assignments).runFrom values = (.ok next, after)) :
    StartsFrom column stored next after := by
  refine foldlM_run (fun _ => StartsFrom column stored) (fun entry rest done values next after starts ran => ?_) starts ran
  cases pull_run ran with
  | nothing => exact starts
  | several => exact (starts.grow _).set rfl
  | one => exact (starts.grow _).set rfl

theorem wholeForm_of_replaced {assignments next : Assignments} {entries : List (Value × Value)} {name : Value}
    (member : (name, v) ∈ entries)
    (ran : (entries.foldlM (fun done entry => replace type done entry.1 entry.2) assignments).runFrom values =
      (.ok next, after)) : ∃ stored, wholeForm v = .ok stored := by
  have met := foldlM_run (fun rest _ _ => (name, v) ∈ rest ∨ ∃ stored, wholeForm v = .ok stored) ?_ (.inl member) ran
  · exact met.resolve_left List.not_mem_nil
  intro entry rest done values next after left ran
  obtain ⟨_, form, _, made, _⟩ := replace_run ran
  obtain member | found := left
  · obtain rfl | later := List.mem_cons.1 member
    · exact .inr ⟨form, made⟩
    · exact .inl later
  · exact .inr found

/-- An update that replaces what a column held puts the value's form there, whatever else it does. -/
theorem update_replaces {update : Value} {statement : Update} {params : List Value}
    (replacing : (.text column.text, v) ∈ part update "replace")
    (only : ∀ x, (Value.text column.text, x) ∈ part update "replace" → x = v)
    (ran : (Mutation.update type update).runFrom [] = (.ok (some statement), params)) :
    ∃ form, wholeForm v = .ok form ∧ statement.replacedBy? params column = some form := by
  obtain ⟨run⟩ := update_run ran
  obtain ⟨form, made⟩ := wholeForm_of_replaced replacing run.replacing
  have starts : StartsFrom column form run.pulled run.afterPull :=
    startsFrom_pull (startsFrom_push (startsFrom_replace made only (.inr replacing) run.replacing) run.pushing) run.pulling
  refine ⟨form, made, ?_⟩
  have written := run.made
  split at written
  · cases written.1
  · obtain ⟨slot, root, value⟩ := starts.grow [run.key]
    rw [← written.2] at value
    rw [Option.some.inj written.1, Update.replacedBy?, root]
    exact value

/-! ### The statement of a replacement -/

theorem bindEncoded_run (made : v.encoded = .ok stored) (values : ParameterList) :
    (bindEncoded v).runFrom values = (.ok ⟨values.length + 1, ""⟩, values ++ [stored]) := by
  rw [bindEncoded, made]
  rfl

theorem bindArrayOrValue_run (made : wholeForm v = .ok stored) (values : ParameterList) :
    (bindArrayOrValue v).runFrom values = (.ok ⟨values.length + 1, ""⟩, values ++ [stored]) := by
  unfold bindArrayOrValue
  unfold wholeForm at made
  cases sequence : v.sequence? with
  | some items =>
    rw [sequence] at made
    obtain ⟨form, encoded, rfl⟩ := map_ok made
    dsimp only
    rw [encoded]
    rfl
  | none =>
    rw [sequence] at made
    exact bindEncoded_run made values

theorem replace_runs (made : wholeForm v = .ok stored) (other : column.text ≠ type.key.text) (assignments : Assignments)
    (values : ParameterList) : (replace type assignments (.text column.text) v).runFrom values =
      (.ok (assignments.set column (.value ⟨values.length + 1, ""⟩)), values ++ [stored]) := by
  have apart : (Value.text column.text).isText type.key.text = false := by simpa [Value.isText] using other
  unfold replace
  rw [apart, Identifier.ofValue_text]
  exact runFrom_bind_of_ok (bindArrayOrValue_run made values) _

theorem applyPart_nothing {step : Assignments → Value → Value → Binding Assignments} {entries : List (Value × Value)}
    {name : String} (absent : Value.lookup name entries = none) (assignments : Assignments) (values : ParameterList) :
    (applyPart step (.map entries) name assignments).runFrom values = (.ok assignments, values) := by
  have looked : (Value.map entries).field? name = .ok none := congrArg Except.ok absent
  unfold applyPart partEntries
  rw [looked]
  rfl

theorem updateKey_given {entries : List (Value × Value)} {key : Value}
    (keyed : Value.lookup type.key.text entries = some key) (given : key ≠ .null) (values : ParameterList) :
    (ofOutcome (updateKey type (.map entries))).runFrom values = (.ok key, values) := by
  have looked : (Value.map entries).field? type.key.text = .ok (some key) := congrArg Except.ok keyed
  unfold updateKey
  rw [looked]
  cases key with
  | null => exact absurd rfl given
  | _ => rfl

/-- An update that only replaces what one column held. -/
theorem replace_only {entries : List (Value × Value)} {key : Value} (made : wholeForm v = .ok stored)
    (other : column.text ≠ type.key.text) (keyed : Value.lookup type.key.text entries = some key) (given : key ≠ .null)
    (replacing : Value.lookup "replace" entries = some (.map [(.text column.text, v)]))
    (pushing : Value.lookup "push" entries = none) (pulling : Value.lookup "pull" entries = none) :
    (Mutation.update type (.map entries)).runFrom [] =
      (.ok (some ⟨type.name, [(column, .value ⟨1, ""⟩)], type.key, ⟨2, ""⟩⟩), [stored, key]) := by
  have replaced : (applyPart (replace type) (.map entries) "replace" []).runFrom [] =
      (.ok [(column, .value ⟨1, ""⟩)], [stored]) := by
    have looked : (Value.map entries).field? "replace" = .ok (some (.map [(.text column.text, v)])) :=
      congrArg Except.ok replacing
    have one := replace_runs made other [] []
    unfold applyPart partEntries
    rw [looked]
    exact runFrom_bind_of_ok one _
  unfold Mutation.update
  rw [runFrom_bind_of_ok (updateKey_given keyed given []), runFrom_bind_of_ok replaced,
    runFrom_bind_of_ok (applyPart_nothing pushing _ _), runFrom_bind_of_ok (applyPart_nothing pulling _ _)]
  rfl

/-- What is stored for a field of an inserted record is what an update binds that replaces the field by the same value, for
exactly the values that are said to be alike. This is so of an update that does nothing else, and of the part of any other
update that replaces the field. -/
theorem replace_as_inserted {e : Identifier × Field} {record row : Value} {source : Option KeySource} {made after : Nat}
    (declared : e ∈ type.fields) (holding : Value.lookup e.1.text record.ownEntries = some v)
    (encodes : (type.encodeRecord source record).run.run made = (.ok row, after)) :
    ∃ stored, Value.lookup e.1.text row.ownEntries = some stored ∧
      (∀ entries key, Value.lookup type.key.text entries = some key → key ≠ .null →
        Value.lookup "replace" entries = some (.map [(.text e.1.text, v)]) →
        Value.lookup "push" entries = none → Value.lookup "pull" entries = none →
        ((Mutation.update type (.map entries)).runFrom [] =
          (.ok (some ⟨type.name, [(e.1, .value ⟨1, ""⟩)], type.key, ⟨2, ""⟩⟩), [stored, key]) ↔
            e.2.replacesAlike v = true)) ∧
      ∀ update statement params, (.text e.1.text, v) ∈ part update "replace" →
        (∀ x, (Value.text e.1.text, x) ∈ part update "replace" → x = v) →
        (Mutation.update type update).runFrom [] = (.ok (some statement), params) →
        (statement.replacedBy? params e.1 = some stored ↔ e.2.replacesAlike v = true) := by
  obtain ⟨stored, found, encoded⟩ := (RecordType.encodeRecord_ok encodes).1.fields e declared
  have inserted : e.2.encode v = .ok stored := by
    unfold RecordType.encodeField at encoded
    obtain ⟨own, looked, encoded⟩ := bind_ok encoded
    obtain rfl : own = some v := (Value.field?_ok looked).trans holding
    obtain ⟨w, one, same⟩ := bind_ok encoded
    rw [one]
    exact congrArg Except.ok (Prod.mk.inj (pure_ok same)).2
  have other : e.1.text ≠ type.key.text := fun same => type.key_not_field (List.mem_map.2 ⟨e, declared, same⟩)
  have any : ∀ update statement params, (.text e.1.text, v) ∈ part update "replace" →
      (∀ x, (Value.text e.1.text, x) ∈ part update "replace" → x = v) →
      (Mutation.update type update).runFrom [] = (.ok (some statement), params) →
      (statement.replacedBy? params e.1 = some stored ↔ e.2.replacesAlike v = true) := by
    intro update statement params replacing only ran
    obtain ⟨form, made, replaced⟩ := update_replaces replacing only ran
    rw [replaced, ← wholeForm_iff inserted, made, Option.some.injEq, Except.ok.injEq]
  refine ⟨stored, found, fun entries key keyed given replacing pushing pulling => ⟨fun ran => ?_, fun alike => ?_⟩, any⟩
  · have entry : part (.map entries) "replace" = [(.text e.1.text, v)] := by
      have looked : Value.lookup "replace" (Value.map entries).ownEntries = some (.map [(.text e.1.text, v)]) := replacing
      rw [part, Value.fieldValue, looked]
      rfl
    refine (any _ _ _ ?_ (fun x member => ?_) ran).1 ?_
    · rw [entry]
      exact List.mem_singleton_self _
    · rw [entry] at member
      exact (Prod.mk.inj (List.mem_singleton.1 member)).2
    · have first : (Assignments.current [(e.1, .value ⟨1, ""⟩)] e.1) = .value ⟨1, ""⟩ := by
        simp [Assignments.current, Assignments.expression?]
      rw [Update.replacedBy?, first]
      rfl
  · exact replace_only ((wholeForm_iff inserted).2 alike) other keyed given replacing pushing pulling

def plainList : Value := .list [.int 1, .text "x"]

def plainListUpdate : Value :=
  .map [(.text "id", .text "n1"), (.text "push", .map [(.text "meta", .int 2)]),
    (.text "replace", .map [(.text "meta", plainList)])]

/-- A list of plain items replaces what a structured field holds as it would be inserted, also where more is pushed to it. -/
theorem plainList_replaced : ∃ statement params,
    (Mutation.update RecordType.noteSample plainListUpdate).runFrom [] = (.ok (some statement), params) ∧
      statement.replacedBy? params ⟨"meta", by decide⟩ = some plainList := by
  obtain ⟨stored, found, _, replaced⟩ := @replace_as_inserted RecordType.noteSample plainList
    (⟨"meta", by decide⟩, { kind := .structured }) (.map [(.text "id", .text "n1"), (.text "meta", plainList)]) _ none 0 0
    (by decide) rfl rfl
  cases found
  refine ⟨_, _, rfl, (replaced plainListUpdate _ _ (List.mem_singleton_self _) (fun x member => ?_) rfl).2 rfl⟩
  cases List.mem_singleton.1 member
  rfl

/-- A list of maps is inserted into a structured field as it is, but replaced by a list of texts. -/
theorem mapList_replaced_apart :
    let v : Value := .list [.map [(.text "a", .bool true)]]
    (∃ row, (RecordType.noteSample.encodeRecord none (.map [(.text "id", .text "n1"), (.text "meta", v)])).run.run 0 =
        (.ok row, 0) ∧ Value.lookup "meta" row.ownEntries = some v) ∧
      (Mutation.update RecordType.noteSample
          (.map [(.text "id", .text "n1"), (.text "replace", .map [(.text "meta", v)])])).runFrom [] =
        (.ok (some ⟨⟨"note", by decide⟩, [(⟨"meta", by decide⟩, .value ⟨1, ""⟩)], ⟨"id", by decide⟩, ⟨2, ""⟩⟩),
          [.list [.text "\x7b\"a\": true\x7d"], .text "n1"]) :=
  ⟨⟨_, rfl, rfl⟩, rfl⟩

end Mutation
end RecordStore
