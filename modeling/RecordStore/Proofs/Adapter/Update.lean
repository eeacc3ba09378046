import RecordStore.Adapter.Change
import RecordStore.Proofs.Query.Filter
import RecordStore.Proofs.Store.Exchange
import RecordStore.Proofs.Store.Groups
import RecordStore.Proofs.Value.Access

/-!
# Updating a batch under every schedule

The statements of a batch run together, and their answers come in any order. What the batch comes to depends on what
each statement came to and on nothing else.
-/

namespace RecordStore.Adapter

open RecordStore.Task

section Update

variable {adapter : Adapter} {party : Party} {state : AdapterState} {channel : Channel} {type : RecordType}
  {typeName updates : Value} {items : List Value} {statements : List UpdateStatement}
  {outside : Outside StoreCall StoreCall.Answer} {outcome : Nat → Outcome Int}

/-- Whether a failure is a store error about a column that the store does not have. -/
def missesColumn (failure : Failure) : Bool :=
  match failure.storeError? with
  | some error => error.sqlstate? = some "42703" ∨ error.code = .undefinedColumn
  | none => false

/-- What an update comes to by itself, if its statement, where it has one, comes to a number of rows or a failure. -/
def ownCount (outcome : Outcome Int) : UpdateStatement → Outcome Int
  | none => .ok 0
  | some _ =>
    match outcome with
    | .ok count => .ok count
    | .error failure => if missesColumn failure then .ok 0 else .error failure

def ownCounts (outcome : Nat → Outcome Int) (statements : List UpdateStatement) : List (Outcome Int) :=
  statements.mapIdx fun i statement => ownCount (outcome i) statement

/-- An answer that tells a number of rows, or a failure. -/
def Tells (outcome : Outcome Int) (answer : Outcome StatementResult) : Prop :=
  answer.map (·.rowCount) = outcome.map some

def updateCall (channel : Channel) (statement : String × List Value) : StoreCall :=
  .execute channel statement.1 statement.2 "update"

/-- What happens at the place of an update: nothing, or its statement is issued and answered. -/
inductive UpdatedAt (channel : Channel) (outcome : Outcome Int) (place : Place) :
    UpdateStatement → List (Event StoreCall StoreCall.Answer) → Prop
  | idle : UpdatedAt channel outcome place none []
  | once {statement : String × List Value} {answer : Outcome StatementResult} (tells : Tells outcome answer) :
    UpdatedAt channel outcome place (some statement)
      [.issued place (updateCall channel statement), .answered place (updateCall channel statement) answer]

/-- Every statement of a batch was issued once and answered, and nothing else was; and the batch came to the first
failure among its updates or to the number of all rows. -/
structure Updated (channel : Channel) (outcome : Nat → Outcome Int) (statements : List UpdateStatement)
    (result : Outcome Int) (history : List (Event StoreCall StoreCall.Answer)) : Prop where
  each : ∀ {i statement}, statements[i]? = some statement →
    UpdatedAt channel (outcome i) [i] statement (eventsAt [i] history)
  only : ∀ event ∈ history, ∃ i < statements.length, event.place = [i]
  result : ∃ counts, Overall (ownCounts outcome statements) counts ∧ result = counts.map List.sum

theorem endsAtOnce_executor (connected : state.channel? party = some channel) :
    EndsAtOnce state (executor party).run (.ok channel) := by
  intro place history
  have looks : EndsAtOnce state look.run (.ok state) := fun _ _ => rfl
  unfold executor
  rw [bind_run, advance_bind_ended (looks place history)]
  simp only [connected]
  rfl

theorem skipped_iff (failure : Failure) :
    (failure.storeError?.filter namesUnknownColumn).isSome = missesColumn failure := by
  unfold missesColumn
  cases failure.storeError? with
  | none => rfl
  | some error =>
    have same : decide (error.sqlstate? = some "42703" ∨ error.code = .undefinedColumn) = namesUnknownColumn error := by
      simp [namesUnknownColumn, undefinedColumn, beq_eq_decide]
    simp only [same]
    cases unknown : namesUnknownColumn error with
    | true => rw [Option.filter_some_pos unknown, Option.isSome_some]
    | false => rw [Option.filter_some_neg unknown, Option.isSome_none]

def updateEnd : Outcome StatementResult → Outcome (Option Int)
  | .ok result => .ok result.rowCount
  | .error failure => if missesColumn failure then .ok (some 0) else .error failure

def updatePlan (channel : Channel) : UpdateStatement → Plan StoreCall StoreCall.Answer (Outcome (Option Int))
  | none => .rest (.ok (some 0))
  | some statement => .ask (updateCall channel statement) updateEnd

theorem follows_updateTask (connected : state.channel? party = some channel) (statement : UpdateStatement) :
    Follows state (updateTask party statement).run (updatePlan channel statement) := by
  cases statement with
  | none => exact fun _ _ => rfl
  | some statement =>
    obtain ⟨sql, params⟩ := statement
    have executes : AsksOnce state (execute channel sql params "update").run (updateCall channel (sql, params)) id :=
      ⟨Task.done, fun _ _ => rfl, fun _ _ _ => rfl⟩
    have counts : AsksOnce state (do return (← execute channel sql params "update").rowCount : Run (Option Int)).run
        (updateCall channel (sql, params)) fun answer : Outcome StatementResult => answer.map (·.rowCount) := by
      rw [bind_run]
      refine executes.bind fun answer => ?_
      cases answer <;> exact fun _ _ => rfl
    unfold updateTask
    rw [tryCatch_run]
    refine AsksOnce.bind (?_ : AsksOnce state _ _ fun answer : Outcome StatementResult => answer.map (·.rowCount)) ?_
    · rw [bind_run]
      exact (endsAtOnce_executor connected).bind_asks counts
    · rintro (failure | answer) place history
      · change advance place ((match failure.storeError?.filter namesUnknownColumn with
          | some error => do
            let report := (error.detail? "error_message").getD (.text "")
            log .warning ("Update skipped, unknown column: " ++ report.shown)
            return some 0
          | none => throw failure : Run (Option Int)).run) state history = _
        have misses := skipped_iff failure
        cases found : failure.storeError?.filter namesUnknownColumn with
        | none =>
          rw [found] at misses
          rw [updateEnd, ← misses]
          rfl
        | some error =>
          rw [found] at misses
          rw [updateEnd, ← misses]
          rfl
      · rfl

theorem updateEnd_told {outcome : Outcome Int} {answer : Outcome StatementResult} (tells : Tells outcome answer)
    (statement : String × List Value) : updateEnd answer = (ownCount outcome (some statement)).map some := by
  cases answer with
  | error failure =>
    cases outcome with
    | ok count => cases tells
    | error own =>
      obtain rfl : failure = own := Except.error.inj tells
      rw [updateEnd, ownCount]
      split <;> rfl
  | ok answer =>
    cases outcome with
    | error failure => cases tells
    | ok count =>
      have told : answer.rowCount = some count := Except.ok.inj tells
      rw [updateEnd, told]
      rfl

theorem updatedCount_each (counts : List (Outcome Int)) :
    updatedCount (counts.map (·.map some)) = (counts.mapM id).map List.sum := by
  have whole : (counts.map (·.map some)).mapM id = (counts.mapM id).map (List.map some) := by
    induction counts with
    | nil => rfl
    | cons count rest ih =>
      rw [List.map_cons, List.mapM_cons, List.mapM_cons, ih]
      cases count with
      | error failure => rfl
      | ok count => cases rest.mapM id <;> rfl
  have all : ∀ numbers : List Int, (numbers.map some).mapM id = some numbers := by
    intro numbers
    induction numbers with
    | nil => rfl
    | cons number rest ih =>
      rw [List.map_cons, List.mapM_cons, ih]
      rfl
  unfold updatedCount
  rw [whole]
  cases counts.mapM id with
  | error failure => rfl
  | ok numbers =>
    simp only [Except.map, Bind.bind, Except.bind, all]
    rfl

theorem update_holding (known : adapter.recordType typeName = .ok type) (holds : updates.holds) :
    adapter.update party typeName updates = ofOutcome (updateStatements type updates) >>= fun statements =>
      settled (statements.map (updateTask party)) >>= fun results => ofOutcome (updatedCount results) := by
  unfold update
  rw [known, holds]
  rfl

theorem updateStatements_listed (listed : updates.elements = .ok items) :
    updateStatements type updates = items.mapM (updateStatement type) := by
  rw [updateStatements, listed]
  rfl

theorem updatedAt_of_plan {place : Place} {outcome : Outcome Int} {statement : UpdateStatement} {own : Outcome (Option Int)}
    {events : List (Event StoreCall StoreCall.Answer)}
    (told : ∀ before statement, Tells outcome (outside before place (updateCall channel statement)))
    (comes : (updatePlan channel statement).ComesTo outside place own events) :
    UpdatedAt channel outcome place statement events ∧ own = (ownCount outcome statement).map some := by
  cases statement with
  | none =>
    cases comes
    exact ⟨.idle, rfl⟩
  | some statement =>
    cases comes with
    | ask before => exact ⟨.once (told before statement), updateEnd_told (told before statement) statement⟩

theorem updated_of_plans {history : List (Event StoreCall StoreCall.Answer)} {n : Nat} (length : n = statements.length)
    (told : ∀ before i statement, Tells (outcome i) (outside before [i] (updateCall channel statement)))
    {each : Fin n → Outcome (Option Int)}
    (plans : ∀ (i : Fin n) statement, statements[i.val]? = some statement →
      (updatePlan channel statement).ComesTo outside [i.val] (each i) (eventsAt [i.val] history))
    (only : ∀ event ∈ history, ∃ i : Fin n, event.place = [i.val]) :
    Updated channel outcome statements (updatedCount (List.ofFn each)) history := by
  subst length
  have own : List.ofFn each = (ownCounts outcome statements).map (·.map some) := by
    refine List.ext_getElem (by simp [ownCounts]) fun i _ inside => ?_
    have here : i < statements.length := by simpa [ownCounts] using inside
    have comes := plans ⟨i, here⟩ statements[i] (List.getElem?_eq_getElem here)
    simpa [ownCounts] using (updatedAt_of_plan (told · i ·) comes).2
  have overall := overall_mapM id (ownCounts outcome statements)
  rw [List.map_id] at overall
  refine ⟨fun {i statement} place => ?_, fun event member => ?_, _, overall, ?_⟩
  · obtain ⟨inside, here⟩ := List.getElem?_eq_some_iff.1 place
    exact (updatedAt_of_plan (told · i ·) (plans ⟨i, inside⟩ statement place)).1
  · obtain ⟨i, here⟩ := only event member
    exact ⟨i.val, i.isLt, here⟩
  · rw [own, updatedCount_each]

theorem update_refused {failure : Failure} (known : adapter.recordType typeName = .ok type)
    (listed : updates.elements = .ok items) (built : items.mapM (updateStatement type) = .error failure) :
    Moment.Ends outside (.start state (adapter.update party typeName updates).run) 1 fun result history =>
      result = .error failure ∧ history = [] := by
  have holds : updates.holds := by
    rw [Value.holds_elements (Value.elements_ok listed)]
    cases items with
    | nil => cases built
    | cons => rfl
  have ended : (adapter.update party typeName updates).run.advance [] state [] = ⟨state, [], .ended (.error failure)⟩ := by
    rw [update_holding known holds, updateStatements_listed listed, built]
    rfl
  exact Moment.ends_at_once ended

theorem update_nothing (known : adapter.recordType typeName = .ok type) (listed : updates.elements = .ok []) :
    Moment.Ends outside (.start state (adapter.update party typeName updates).run) 1 (Updated channel outcome []) := by
  have ended : (adapter.update party typeName updates).run.advance [] state [] = ⟨state, [], .ended (.ok 0)⟩ := by
    unfold update
    rw [known, Value.holds_elements (Value.elements_ok listed)]
    rfl
  refine (Moment.ends_at_once ended).mono le_rfl ?_
  rintro result history ⟨rfl, rfl⟩
  exact ⟨fun place => (by cases place), fun event member => (by cases member), .ok [], @Overall.fine _ _ [], rfl⟩

theorem update_together (known : adapter.recordType typeName = .ok type) (listed : updates.elements = .ok items)
    (filled : items ≠ []) (built : items.mapM (updateStatement type) = .ok statements)
    (connected : state.channel? party = some channel)
    (told : ∀ before i statement, Tells (outcome i) (outside before [i] (updateCall channel statement))) :
    Moment.Ends outside (.start state (adapter.update party typeName updates).run) (items.length * 3 + 2)
      (Updated channel outcome statements) := by
  have holds : updates.holds := by simpa [Value.holds_elements (Value.elements_ok listed)] using filled
  generalize tasks : (statements.map (updateTask party)).map ExceptT.run = jobs
  have starts : (adapter.update party typeName updates).run.advance [] state [] =
      ⟨state, [], .settling jobs.length (fun i => .ready (jobs.get i)) fun results => .done (updatedCount results)⟩ := by
    rw [update_holding known holds, updateStatements_listed listed, built, ← tasks]
    rfl
  have length : jobs.length = statements.length := by rw [← tasks, List.length_map, List.length_map]
  have follows : ∀ i : Fin jobs.length,
      Follows state (jobs.get i) (updatePlan channel (statements.get (i.cast length))) := by
    subst tasks
    intro i
    simpa using follows_updateTask connected (statements.get (i.cast length))
  refine (ends_settled_plans starts follows fun _ => rfl).mono ?_ ?_
  · rw [length, length_mapM built]
  · rintro result history ⟨each, rfl, comes, only⟩
    refine updated_of_plans length told (fun i statement place => ?_) only
    obtain ⟨_, rfl⟩ := List.getElem?_eq_some_iff.1 place
    exact comes i

/-- However the answers of the store come in, a batch of updates ends. If a statement cannot be built, the first such
failure is raised and nothing is issued. Otherwise every statement is issued once and answered, and only then the batch
comes to the first failure or to the number of all changed rows. -/
theorem update_ends (known : adapter.recordType typeName = .ok type) (listed : updates.elements = .ok items)
    (connected : state.channel? party = some channel)
    (told : ∀ before i statement, Tells (outcome i) (outside before [i] (updateCall channel statement))) :
    ∃ built, Overall (items.map (updateStatement type)) built ∧
      (∀ failure, built = .error failure →
        Moment.Ends outside (.start state (adapter.update party typeName updates).run) 1 fun result history =>
          result = .error failure ∧ history = []) ∧
      ∀ statements, built = .ok statements →
        Moment.Ends outside (.start state (adapter.update party typeName updates).run) (items.length * 3 + 2)
          (Updated channel outcome statements) := by
  refine ⟨_, overall_mapM (updateStatement type) items, fun failure => update_refused known listed, ?_⟩
  intro statements built
  by_cases filled : items = []
  · subst filled
    cases built
    exact (update_nothing known listed).mono (by omega) fun _ _ updated => updated
  · exact update_together known listed filled built connected told

end Update

def articlesAdapter : Adapter where
  types := [(.text "article", Query.articleSample)]

/-- Updates that change a row, change nothing, name a column that the store lacks, and fail twice. -/
def batchSample : Value :=
  .list [.map [(.text "slug", .int 1), (.text "replace", .map [(.text "heading", .text "a")])],
    .map [(.text "slug", .int 2)],
    .map [(.text "slug", .int 3), (.text "push", .map [(.text "labels", .text "b")])],
    .map [(.text "slug", .int 4), (.text "replace", .map [(.text "heading", .text "c")])],
    .map [(.text "slug", .int 5), (.text "replace", .map [(.text "heading", .text "d")])]]

def headingStatement (heading : String) (slug : Int) : String × List Value :=
  ("update \"article\" set \"heading\" = $1 where \"slug\" = $2", [.text heading, .int slug])

def labelsStatement : String × List Value :=
  ("update \"article\" set \"labels\" = array_append(\"labels\", $1) where \"slug\" = $2", [.text "b", .int 3])

def sampleStatements : List UpdateStatement :=
  [headingStatement "a" 1, none, labelsStatement, headingStatement "c" 4, headingStatement "d" 5]

def sampleFailure (sqlstate : String) : Failure := .ofError (.store .execution [] (some sqlstate))

def sampleOutcome : Nat → Outcome Int
  | 0 => .ok 2
  | 2 => .error (sampleFailure "42703")
  | 3 => .error (sampleFailure "40001")
  | 4 => .error (sampleFailure "40P01")
  | _ => .ok 1

def sampleOutside : Outside StoreCall StoreCall.Answer
  | _, [i], .execute .. => ((sampleOutcome i).map fun count => ⟨[], some count⟩ : Outcome StatementResult)
  | _, _, .execute .. => (.ok {} : Outcome StatementResult)
  | _, _, .open .. => (.ok () : Outcome Unit)
  | _, _, .begin => (.ok 0 : Outcome Nat)
  | _, _, .commit _ => (.ok () : Outcome Unit)
  | _, _, .rollback _ => (.ok () : Outcome Unit)
  | _, _, .dispose => (.ok () : Outcome Unit)

/-- The last statement fails before the one before it is answered. -/
def sampleSchedule : List Place :=
  [[], [4], [3], [4], [4], [0], [2], [1], [2], [0], [3], [0], [3], [2], []]

theorem batchSample_ends : ∃ m result, Moment.play sampleOutside
      (.start { connected := true } (articlesAdapter.update .plain (.text "article") batchSample).run) sampleSchedule = some m ∧
    m.running.result? = some result ∧ result = .error (sampleFailure "40001") ∧ eventsAt [1] m.history = [] ∧
    ∃ answer, eventsAt [2] m.history =
      [.issued [2] (updateCall .pool labelsStatement), .answered [2] (updateCall .pool labelsStatement) answer] := by
  have plays : ((Moment.play sampleOutside
      (.start { connected := true } (articlesAdapter.update .plain (.text "article") batchSample).run)
      sampleSchedule).bind fun m => m.running.result?).isSome := by rfl
  obtain ⟨result, found⟩ := Option.isSome_iff_exists.1 plays
  obtain ⟨m, played, ended⟩ := Option.bind_eq_some_iff.1 found
  obtain ⟨built, overall, _, ends⟩ := @update_ends articlesAdapter .plain { connected := true } .pool Query.articleSample
    (.text "article") batchSample _ sampleOutside sampleOutcome rfl rfl rfl fun before i statement => by
      change ((sampleOutcome i).map _).map _ = (sampleOutcome i).map some
      cases sampleOutcome i <;> rfl
  obtain rfl : built = .ok sampleStatements := overall.unique (Overall.fine : Overall (sampleStatements.map .ok) _)
  have updated := (ends sampleStatements rfl).good played ended
  obtain ⟨counts, first, rfl⟩ := updated.result
  have failed : Overall (ownCounts sampleOutcome sampleStatements) (.error (sampleFailure "40001")) :=
    @Overall.failed _ _ _ 3 _ rfl fun
      | 0, _ => ⟨2, rfl⟩
      | 1, _ => ⟨0, rfl⟩
      | 2, _ => ⟨0, rfl⟩
  obtain rfl := first.unique failed
  refine ⟨m, _, played, ended, rfl, ?_, ?_⟩
  · have nothing := @updated.each 1 none rfl
    generalize eventsAt [1] m.history = events at nothing ⊢
    cases nothing
    rfl
  · have issued := @updated.each 2 labelsStatement rfl
    generalize eventsAt [2] m.history = events at issued ⊢
    cases issued
    exact ⟨_, rfl⟩

end RecordStore.Adapter
