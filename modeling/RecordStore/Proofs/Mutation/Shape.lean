import RecordStore.Mutation.Delete
import RecordStore.Mutation.Insert
import RecordStore.Mutation.Update
import RecordStore.Proofs.Query.SearchShape

/-!
# Shapes of changes

What inserts, updates and deletions ask for besides the values that they bind. Two of one shape make the same
statement with the same slots.
-/

namespace RecordStore.Mutation
open Sql Binding

variable {type : RecordType}

/-! ### Inserts -/

/-- How many records there are, and whether every one of them has a key that is not null. -/
structure InsertShape where
  records : Nat
  keyed : Bool
  deriving DecidableEq

def insertShape (type : RecordType) (records : Value) : InsertShape where
  records := records.elementCount
  keyed := (records.elements?.getD []).all fun record => !(record.fieldValue type.key.text).isNull

theorem allHaveKeys_ok {records : List Value} {keyed : Bool} (h : allHaveKeys type records = .ok keyed) :
    keyed = records.all fun record => !(record.fieldValue type.key.text).isNull := by
  induction records with
  | nil =>
    cases h
    rfl
  | cons record rest ih =>
    rw [allHaveKeys] at h
    obtain ⟨found, looked, h⟩ := bind_ok h
    rw [List.all_cons, Value.fieldValue, ← Value.field?_ok looked]
    split at h
    · cases h
      rfl
    · cases h
      rfl
    · rename_i key notNull
      have present : key.isNull = false := by
        cases key with
        | null => exact absurd rfl notNull
        | _ => rfl
      rw [ih h, Option.getD_some, present]
      rfl

theorem aligned_bindRow (columns : List Identifier) (record other : Value) :
    Aligned (bindRow columns record) (bindRow columns other) := by
  have itself : columns.map id = columns.map id := rfl
  refine aligned_mapM (fun column column' same => ?_) itself
  obtain rfl : column = column' := same
  exact aligned_misuse fun found found' _ _ => aligned_slot _ _ _

/-- What is left of an insert once there are records. -/
def insertRows (type : RecordType) (records : Value) : Binding Insert := do
  let records ← (liftM records.elements : Binding (List Value))
  let keyed ← (liftM (allHaveKeys type records) : Binding Bool)
  let columns := if keyed then type.key :: type.sortedFields else type.sortedFields
  let rows ← records.mapM (bindRow columns)
  return { table := type.name, columns, rows, returning := if keyed then none else some type.key }

theorem follows_insert (records : Value) : Follows (insert type records) (insertRows type records) := by
  intro values made after ran
  unfold insert at ran
  cases holding : records.holds with
  | true =>
    rw [holding] at ran
    exact ran
  | false =>
    rw [holding] at ran
    cases ran

theorem aligned_insert {records others : Value} (same : insertShape type records = insertShape type others) :
    Aligned (insert type records) (insert type others) := by
  refine aligned_follows (follows_insert records) (follows_insert others) ?_
  refine aligned_misuse fun items items' own own' => ?_
  refine aligned_misuse fun keyed keyed' known known' => ?_
  injection same with long answer
  rw [Value.elementCount_of_ok own, Value.elementCount_of_ok own'] at long
  rw [Value.elements_ok own, Value.elements_ok own', Option.getD_some, Option.getD_some, ← allHaveKeys_ok known,
    ← allHaveKeys_ok known'] at answer
  subst answer
  exact aligned_bind (aligned_mapM_of_length (aligned_bindRow _) long) fun rows => aligned_pure rfl

/-! ### Updates -/

def part (update : Value) (name : String) : List (Value × Value) := (update.fieldValue name).ownEntries

/-- The fields of each part in their order; whether an array is pushed or a single element, and how many
elements are pulled if it is several. -/
structure UpdateShape where
  replaced : List Value
  pushed : List (Value × Bool)
  pulled : List (Value × Option Nat)

def updateShape (update : Value) : UpdateShape where
  replaced := (part update "replace").map (·.1)
  pushed := (part update "push").map fun e => (e.1, e.2.sequence?.isSome)
  pulled := (part update "pull").map fun e => (e.1, e.2.sequence?.map List.length)

theorem partEntries_ok {update : Value} {name : String} {entries : List (Value × Value)}
    (h : partEntries update name = .ok entries) : entries = part update name := by
  unfold partEntries at h
  obtain ⟨found, looked, h⟩ := bind_ok h
  have value : found.getD .null = update.fieldValue name := by
    rw [Value.field?_ok looked]
    rfl
  rw [value] at h
  dsimp only at h
  rw [part]
  split at h
  · rw [Value.entries_ok h]
    rfl
  · rename_i empty
    cases h
    rw [Value.ownEntries_empty empty]

theorem follows_replace (assignments : Assignments) (name value : Value) :
    Follows (replace type assignments name value) (do
      let column ← (liftM (Identifier.ofValue name) : Binding Identifier)
      return assignments.set column (.value (← bindArrayOrValue value))) := by
  intro values made after ran
  unfold replace at ran
  cases primary : name.isText type.key.text with
  | true =>
    rw [primary] at ran
    cases ran
  | false =>
    rw [primary] at ran
    exact ran

theorem aligned_replace (assignments : Assignments) (name v w : Value) :
    Aligned (replace type assignments name v) (replace type assignments name w) := by
  refine aligned_follows (follows_replace assignments name v) (follows_replace assignments name w) ?_
  refine aligned_same fun column named => ?_
  exact aligned_bind (aligned_bindArrayOrValue v w) fun slot => aligned_pure rfl

theorem aligned_push (assignments : Assignments) {name v w : Value}
    (same : v.sequence?.isSome = w.sequence?.isSome) :
    Aligned (push assignments name v) (push assignments name w) := by
  refine aligned_same fun column named => ?_
  rw [same]
  split
  · exact aligned_bind (aligned_bindArrayOrValue v w) fun slot => aligned_pure rfl
  · exact aligned_bind (aligned_bindEncoded v w) fun slot => aligned_pure rfl

theorem aligned_pull (assignments : Assignments) {name v w : Value}
    (same : v.sequence?.map List.length = w.sequence?.map List.length) :
    Aligned (pull assignments name v) (pull assignments name w) := by
  unfold pull
  generalize v.sequence? = items at same ⊢
  generalize w.sequence? = others at same ⊢
  match items, others with
  | none, none =>
    refine aligned_same fun column named => ?_
    exact aligned_bind (aligned_bindEncoded v w) fun slot => aligned_pure rfl
  | some [], some [] => exact aligned_pure rfl
  | some (_ :: _), some (_ :: _) =>
    refine aligned_bind (aligned_mapM_of_length aligned_bindEncoded (Option.some.inj same)) fun slots => ?_
    exact aligned_same fun column named => aligned_pure rfl

theorem aligned_applyPart {σ : Type} {look : Value × Value → σ}
    {step : Assignments → Value → Value → Binding Assignments}
    (each : ∀ done e e', look e = look e' → Aligned (step done e.1 e.2) (step done e'.1 e'.2))
    {update update' : Value} {name : String} (same : (part update name).map look = (part update' name).map look)
    (assignments : Assignments) :
    Aligned (applyPart step update name assignments) (applyPart step update' name assignments) := by
  refine aligned_misuse fun entries entries' own own' => ?_
  rw [partEntries_ok own, partEntries_ok own']
  exact aligned_foldlM each same assignments

theorem aligned_update {update update' : Value} (same : updateShape update = updateShape update') :
    Aligned (Mutation.update type update) (Mutation.update type update') := by
  injection same with replaced pushed pulled
  refine aligned_outcome fun key key' _ _ => ?_
  have replace : ∀ done (e e' : Value × Value), e.1 = e'.1 →
      Aligned (replace type done e.1 e.2) (replace type done e'.1 e'.2) := by
    rintro done ⟨name, v⟩ ⟨name', w⟩ rfl
    exact aligned_replace done name v w
  refine aligned_bind (aligned_applyPart replace replaced []) fun assignments => ?_
  have push : ∀ done (e e' : Value × Value), (e.1, e.2.sequence?.isSome) = (e'.1, e'.2.sequence?.isSome) →
      Aligned (push done e.1 e.2) (push done e'.1 e'.2) := by
    rintro done ⟨name, v⟩ ⟨name', w⟩ look
    obtain ⟨rfl, isArray⟩ := Prod.mk.inj look
    exact aligned_push done isArray
  refine aligned_bind (aligned_applyPart push pushed assignments) fun assignments => ?_
  have pull : ∀ done (e e' : Value × Value),
      (e.1, e.2.sequence?.map List.length) = (e'.1, e'.2.sequence?.map List.length) →
      Aligned (pull done e.1 e.2) (pull done e'.1 e'.2) := by
    rintro done ⟨name, v⟩ ⟨name', w⟩ look
    obtain ⟨rfl, long⟩ := Prod.mk.inj look
    exact aligned_pull done long
  refine aligned_bind (aligned_applyPart pull pulled assignments) fun assignments => ?_
  split
  · exact aligned_pure rfl
  · exact aligned_bind (aligned_slot key key' _) fun slot => aligned_pure rfl

/-! ### Deletions -/

/-- How many keys there are, unless every record is deleted. -/
def deleteShape (keys : Value) : Option Nat := if keys.isNull then none else some keys.elementCount

/-- A deletion by keys; the keys of a value that cannot be gone through are none. -/
def deleteItems (type : RecordType) (keys : List Value) : Binding (Option Delete) := do
  let slots ← keys.mapM bindEncoded
  return if keys.isEmpty then none else some ⟨type.name, type.key, some slots⟩

theorem follows_delete {keys : Value} (given : keys.isNull = false) :
    Follows (delete type keys) (deleteItems type (keys.elements?.getD [])) := by
  intro values made after ran
  unfold delete at ran
  rw [given] at ran
  cases holding : keys.holds with
  | true =>
    rw [holding] at ran
    obtain ⟨items, middle, found, ran⟩ := bind_runFrom_ok ran
    obtain ⟨ok, rfl⟩ := misuse_runFrom_ok found
    have filled : items.isEmpty = false := by
      have holds := Value.holds_elements (Value.elements_ok ok)
      rw [holding] at holds
      simpa using holds
    rw [Value.elements_ok ok, Option.getD_some, deleteItems, filled]
    exact ran
  | false =>
    rw [holding] at ran
    rw [Value.elements_empty (by rw [holding]; simp)]
    exact ran

theorem aligned_delete {keys keys' : Value} (same : deleteShape keys = deleteShape keys') :
    Aligned (delete type keys) (delete type keys') := by
  unfold deleteShape at same
  cases given : keys.isNull with
  | true =>
    cases given' : keys'.isNull with
    | true => 
      unfold delete
      rw [given, given']
      exact aligned_pure rfl
    | false =>
      rw [given, given'] at same
      cases same
  | false =>
    cases given' : keys'.isNull with
    | true =>
      rw [given, given'] at same
      cases same
    | false =>
      rw [given, given'] at same
      have long : keys.elementCount = keys'.elementCount := Option.some.inj same
      refine aligned_follows (follows_delete given) (follows_delete given') ?_
      have none : (keys.elements?.getD []).isEmpty = (keys'.elements?.getD []).isEmpty := by
        rw [Bool.eq_iff_iff, List.isEmpty_iff_length_eq_zero, List.isEmpty_iff_length_eq_zero]
        exact iff_of_eq (congrArg (· = 0) long)
      refine aligned_bind (aligned_mapM_of_length aligned_bindEncoded long) fun slots => aligned_pure ?_
      rw [none]

end RecordStore.Mutation
