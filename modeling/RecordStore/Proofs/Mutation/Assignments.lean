import RecordStore.Proofs.Mutation.Shape
import RecordStore.Proofs.Sql.Slots

/-!
# The entries of an update

Each entry of an update gives one column an expression over what the column had before, whose slots are new.
Here the three kinds of entries are said exactly, and a whole update is taken apart into the runs of its parts.
-/

namespace RecordStore

namespace Sql.Binding

/-- What holds before each of the elements that are left holds at the end with no element left. -/
theorem foldlM_run {α β : Type} {f : β → α → Binding β} (holds : List α → β → ParameterList → Prop)
    (each : ∀ a rest b values next after, holds (a :: rest) b values → (f b a).runFrom values = (.ok next, after) →
      holds rest next after)
    {as : List α} {b last : β} {values after : ParameterList} (start : holds as b values)
    (ran : (as.foldlM f b).runFrom values = (.ok last, after)) : holds [] last after := by
  induction as generalizing b values with
  | nil =>
    obtain ⟨rfl, rfl⟩ := pure_runFrom_ok ran
    exact start
  | cons a rest ih =>
    rw [List.foldlM_cons] at ran
    obtain ⟨next, middle, head, tail⟩ := bind_runFrom_ok ran
    exact ih (each a rest b values next middle start head) tail

end Sql.Binding

namespace Mutation
open Sql Binding

variable {type : RecordType} {values after : ParameterList}

/-! ### Assignments -/

namespace Assignments

def columns (assignments : Assignments) : List Identifier := assignments.map (·.1)

theorem current_nil (column : Identifier) : current [] column = .column column := rfl

theorem current_cons (c : Identifier) (e : Expression) (rest : Assignments) (column : Identifier) :
    current ((c, e) :: rest) column = if c = column then e else rest.current column := by
  unfold current expression?
  by_cases same : c = column
  · rw [List.find?_cons_of_pos (by simpa using same), if_pos same]
    rfl
  · rw [List.find?_cons_of_neg (by simpa using same), if_neg same]

theorem current_set (assignments : Assignments) (column : Identifier) (expression : Expression) (other : Identifier) :
    (assignments.set column expression).current other =
      if column = other then expression else assignments.current other := by
  induction assignments with
  | nil => exact current_cons column expression [] other
  | cons pair rest ih =>
    obtain ⟨c, e⟩ := pair
    rw [set]
    by_cases own : c = column
    · subst own
      rw [if_pos rfl, current_cons, current_cons]
      by_cases same : c = other <;> simp [same]
    · rw [if_neg own, current_cons, current_cons, ih]
      by_cases same : c = other
      · subst same
        simp [Ne.symm own]
      · simp [same]

theorem current_of_not_mem {assignments : Assignments} {column : Identifier} (new : column ∉ assignments.columns) :
    assignments.current column = .column column := by
  induction assignments with
  | nil => rfl
  | cons pair rest ih =>
    have other : pair.1 ≠ column := fun same => new (by simp [columns, same])
    have later : column ∉ columns rest := fun member => new (List.mem_cons_of_mem _ member)
    rw [current_cons pair.1 pair.2, if_neg other, ih later]

theorem mem_columns_set {assignments : Assignments} {column other : Identifier} {expression : Expression} :
    other ∈ (assignments.set column expression).columns ↔ other = column ∨ other ∈ assignments.columns := by
  induction assignments with
  | nil => simp [set, columns]
  | cons pair rest ih =>
    obtain ⟨c, e⟩ := pair
    rw [set]
    by_cases own : c = column
    · subst own
      simp [columns]
    · rw [if_neg own]
      simp only [columns, List.map_cons, List.mem_cons] at ih ⊢
      rw [ih, or_left_comm]

theorem nodup_set {assignments : Assignments} (distinct : assignments.columns.Nodup) (column : Identifier)
    (expression : Expression) : (assignments.set column expression).columns.Nodup := by
  induction assignments with
  | nil => simp [set, columns]
  | cons pair rest ih =>
    obtain ⟨c, e⟩ := pair
    obtain ⟨first, others⟩ := List.nodup_cons.1 distinct
    rw [set]
    by_cases own : c = column
    · rw [if_pos own]
      exact distinct
    · rw [if_neg own]
      refine List.nodup_cons.2 ⟨fun member => ?_, ih others⟩
      rcases mem_columns_set.1 member with same | later
      · exact own same
      · exact first later

/-- Where the new expression of a column is made of the one that it had and of something new, all expressions
together are made of the same as before and of what is new. -/
theorem flatMap_set {α : Type} (parts : Expression → List α) (column : Identifier)
    (none : parts (.column column) = []) {expression : Expression} {new : List α} (assignments : Assignments)
    (grown : parts expression = parts (assignments.current column) ++ new) :
    ((assignments.set column expression).flatMap fun pair => parts pair.2).Perm
      ((assignments.flatMap fun pair => parts pair.2) ++ new) := by
  induction assignments with
  | nil =>
    rw [current_nil, none] at grown
    simp [set, grown]
  | cons pair rest ih =>
    obtain ⟨c, e⟩ := pair
    rw [current_cons] at grown
    rw [set]
    by_cases own : c = column
    · rw [if_pos own] at grown ⊢
      rw [List.flatMap_cons, List.flatMap_cons, grown, List.append_assoc, List.append_assoc]
      exact List.perm_append_comm.append_left _
    · rw [if_neg own] at grown ⊢
      rw [List.flatMap_cons, List.flatMap_cons, List.append_assoc]
      exact (ih grown).append_left _

end Assignments

/-! ### Single entries -/

/-- What is bound for a value that is stored as a whole: a list is bound as one array. -/
def wholeForm (value : Value) : Except Misuse Value :=
  match value.sequence? with
  | some items => (items.mapM Value.encoded).map .list
  | none => value.encoded

theorem bindArrayOrValue_slot {v : Value} {slot : Slot}
    (ran : (bindArrayOrValue v).runFrom values = (.ok slot, after)) :
    ∃ stored, wholeForm v = .ok stored ∧ slot = ⟨values.length + 1, ""⟩ ∧ after = values ++ [stored] := by
  unfold bindArrayOrValue at ran
  unfold wholeForm
  cases list : v.sequence? with
  | some items =>
    rw [list] at ran
    obtain ⟨stored, middle, made, ran⟩ := bind_runFrom_ok ran
    obtain ⟨ok, rfl⟩ := misuse_runFrom_ok made
    obtain ⟨rfl, rfl⟩ := bind_slot ran
    exact ⟨.list stored, congrArg (Except.map Value.list) ok, rfl, rfl⟩
  | none =>
    rw [list] at ran
    exact bindEncoded_slot ran

theorem replace_run {assignments next : Assignments} {name value : Value}
    (ran : (replace type assignments name value).runFrom values = (.ok next, after)) :
    ∃ column stored, Identifier.ofValue name = .ok column ∧ wholeForm value = .ok stored ∧
      next = assignments.set column (.value ⟨values.length + 1, ""⟩) ∧ after = values ++ [stored] := by
  obtain ⟨column, middle, named, ran⟩ := bind_runFrom_ok (follows_replace assignments name value values next after ran)
  obtain ⟨ok, rfl⟩ := adapter_runFrom_ok named
  obtain ⟨slot, last, bound, ran⟩ := bind_runFrom_ok ran
  obtain ⟨rfl, rfl⟩ := pure_runFrom_ok ran
  obtain ⟨stored, made, rfl, rfl⟩ := bindArrayOrValue_slot bound
  exact ⟨column, stored, ok, made, rfl, rfl⟩

theorem push_run {assignments next : Assignments} {name value : Value}
    (ran : (push assignments name value).runFrom values = (.ok next, after)) :
    ∃ column stored, Identifier.ofValue name = .ok column ∧ wholeForm value = .ok stored ∧
      next = assignments.set column
        ((if value.sequence?.isSome then Expression.concat else Expression.append) (assignments.current column)
          ⟨values.length + 1, ""⟩) ∧
      after = values ++ [stored] := by
  unfold push at ran
  obtain ⟨column, middle, named, ran⟩ := bind_runFrom_ok ran
  obtain ⟨ok, rfl⟩ := adapter_runFrom_ok named
  dsimp only at ran
  split at ran
  · rename_i list
    obtain ⟨slot, last, bound, ran⟩ := bind_runFrom_ok ran
    obtain ⟨rfl, rfl⟩ := pure_runFrom_ok ran
    obtain ⟨stored, made, rfl, rfl⟩ := bindArrayOrValue_slot bound
    exact ⟨column, stored, ok, made, by rw [if_pos list], rfl⟩
  · rename_i single
    obtain ⟨slot, last, bound, ran⟩ := bind_runFrom_ok ran
    obtain ⟨rfl, rfl⟩ := pure_runFrom_ok ran
    obtain ⟨stored, made, rfl, rfl⟩ := bindEncoded_slot bound
    have form : wholeForm value = value.encoded := by
      rw [wholeForm, Option.not_isSome_iff_eq_none.1 single]
    exact ⟨column, stored, ok, form.trans made, by rw [if_neg single], rfl⟩

/-- What pulling an entry does: nothing for an empty list; else one element or several are taken out. -/
inductive Pulled (assignments : Assignments) (values : ParameterList) (name : Value) :
    Value → Assignments → ParameterList → Prop where
  | nothing {value : Value} (empty : value.sequence? = some []) :
    Pulled assignments values name value assignments values
  | several {value : Value} {items stored : List Value} {column : Identifier} (list : value.sequence? = some items)
    (filled : items ≠ []) (named : Identifier.ofValue name = .ok column) (made : items.mapM Value.encoded = .ok stored) :
    Pulled assignments values name value
      (assignments.set column (.without (assignments.current column) (slotsFrom (values.length + 1) items.length)))
      (values ++ stored)
  | one {value stored : Value} {column : Identifier} (single : value.sequence? = none)
    (named : Identifier.ofValue name = .ok column) (made : value.encoded = .ok stored) :
    Pulled assignments values name value
      (assignments.set column (.remove (assignments.current column) ⟨values.length + 1, ""⟩)) (values ++ [stored])

theorem pull_run {assignments next : Assignments} {name value : Value}
    (ran : (pull assignments name value).runFrom values = (.ok next, after)) :
    Pulled assignments values name value next after := by
  unfold pull at ran
  split at ran
  · rename_i empty
    obtain ⟨rfl, rfl⟩ := pure_runFrom_ok ran
    exact .nothing empty
  · rename_i items filled list
    obtain ⟨slots, middle, bound, ran⟩ := bind_runFrom_ok ran
    obtain ⟨column, last, named, ran⟩ := bind_runFrom_ok ran
    obtain ⟨ok, rfl⟩ := adapter_runFrom_ok named
    obtain ⟨rfl, rfl⟩ := pure_runFrom_ok ran
    obtain ⟨stored, made, rfl, rfl⟩ := mapM_bindEncoded bound
    exact .several list filled ok made
  · rename_i single
    obtain ⟨column, middle, named, ran⟩ := bind_runFrom_ok ran
    obtain ⟨ok, rfl⟩ := adapter_runFrom_ok named
    obtain ⟨slot, last, bound, ran⟩ := bind_runFrom_ok ran
    obtain ⟨rfl, rfl⟩ := pure_runFrom_ok ran
    obtain ⟨stored, made, rfl, rfl⟩ := bindEncoded_slot bound
    exact .one single ok made

/-! ### Whole updates -/

theorem applyPart_run {step : Assignments → Value → Value → Binding Assignments} {update : Value} {name : String}
    {assignments next : Assignments}
    (ran : (applyPart step update name assignments).runFrom values = (.ok next, after)) :
    ((part update name).foldlM (fun done entry => step done entry.1 entry.2) assignments).runFrom values =
      (.ok next, after) := by
  unfold applyPart at ran
  obtain ⟨entries, middle, found, ran⟩ := bind_runFrom_ok ran
  obtain ⟨ok, rfl⟩ := misuse_runFrom_ok found
  rw [← partEntries_ok ok]
  exact ran

theorem updateKey_ok {update key : Value} (found : updateKey type update = .ok key) :
    update.fieldValue type.key.text = key ∧ key ≠ .null := by
  unfold updateKey at found
  obtain ⟨field, looked, found⟩ := bind_ok found
  have own := Value.field?_ok (misuse_ok looked)
  split at found
  · cases found
  · cases found
  · rename_i given notNull
    obtain rfl := pure_ok found
    refine ⟨by rw [Value.fieldValue, ← own]; rfl, ?_⟩
    rintro rfl
    exact notNull rfl

/-- A run that made the statement of an update, or found that there is nothing to do. -/
structure UpdateRun (type : RecordType) (update : Value) (values after : ParameterList) (statement : Option Update) where
  key : Value
  replaced : Assignments
  pushed : Assignments
  pulled : Assignments
  afterReplace : ParameterList
  afterPush : ParameterList
  afterPull : ParameterList
  keyed : update.fieldValue type.key.text = key
  keyGiven : key ≠ .null
  replacing : ((part update "replace").foldlM (fun done entry => replace type done entry.1 entry.2) []).runFrom values =
    (.ok replaced, afterReplace)
  pushing : ((part update "push").foldlM (fun done entry => push done entry.1 entry.2) replaced).runFrom afterReplace =
    (.ok pushed, afterPush)
  pulling : ((part update "pull").foldlM (fun done entry => pull done entry.1 entry.2) pushed).runFrom afterPush =
    (.ok pulled, afterPull)
  made : if pulled = [] then statement = none ∧ after = afterPull
    else statement = some ⟨type.name, pulled, type.key, ⟨afterPull.length + 1, ""⟩⟩ ∧ after = afterPull ++ [key]

theorem update_run {update : Value} {statement : Option Update}
    (ran : (Mutation.update type update).runFrom values = (.ok statement, after)) :
    Nonempty (UpdateRun type update values after statement) := by
  unfold Mutation.update at ran
  obtain ⟨key, _, found, ran⟩ := bind_runFrom_ok ran
  obtain ⟨ok, rfl⟩ := outcome_runFrom_ok found
  obtain ⟨keyed, keyGiven⟩ := updateKey_ok ok
  obtain ⟨replaced, afterReplace, replacing, ran⟩ := bind_runFrom_ok ran
  obtain ⟨pushed, afterPush, pushing, ran⟩ := bind_runFrom_ok ran
  obtain ⟨pulled, afterPull, pulling, ran⟩ := bind_runFrom_ok ran
  refine ⟨⟨key, replaced, pushed, pulled, afterReplace, afterPush, afterPull, keyed, keyGiven, applyPart_run replacing,
    applyPart_run pushing, applyPart_run pulling, ?_⟩⟩
  split at ran
  · rename_i empty
    obtain ⟨rfl, rfl⟩ := pure_runFrom_ok ran
    rw [if_pos (List.isEmpty_iff.1 empty)]
    exact ⟨rfl, rfl⟩
  · rename_i some
    obtain ⟨slot, last, bound, ran⟩ := bind_runFrom_ok ran
    obtain ⟨rfl, rfl⟩ := pure_runFrom_ok ran
    obtain ⟨rfl, rfl⟩ := bind_slot bound
    rw [if_neg fun none => some (List.isEmpty_iff.2 none)]
    exact ⟨rfl, rfl⟩

end Mutation

end RecordStore
