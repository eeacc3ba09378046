import RecordStore.Adapter.Change
import RecordStore.Adapter.Find
import RecordStore.Adapter.Lifecycle
import RecordStore.Proofs.Store.Exchange

/-!
# What each operation asks of the store

Every operation of an adapter or of one of its sessions, with what it asks of the store and what it changes, whatever the
store answers. Statements go to the channel of the party that makes them; a party without one makes none.
-/

namespace RecordStore.Adapter

open RecordStore.Task

abbrev Asked := Exchange StoreCall StoreCall.Answer

abbrev Store := Oracle StoreCall StoreCall.Answer

/-- A store that answers all statements alike and does whatever else it is asked for. -/
def answering (answer : Outcome StatementResult) : Store
  | _, .execute .. => answer
  | _, .open .. => (.ok () : Outcome Unit)
  | _, .begin => (.ok 0 : Outcome Nat)
  | _, .commit _ => (.ok () : Outcome Unit)
  | _, .rollback _ => (.ok () : Outcome Unit)
  | _, .dispose => (.ok () : Outcome Unit)

/-! ### Operations -/

inductive Work where
  | find (typeName keys options : Value)
  | create (typeName records : Value)
  | update (typeName updates : Value)
  | delete (typeName keys : Value)

/-- What a user may do with an adapter and with the sessions begun from it. Only sessions can be ended, and only they are
used in blocks; a block is left with what came of it. -/
inductive Use where
  | work (party : Party) (records : Work)
  | connect (party : Party)
  | disconnect (party : Party)
  | begin (party : Party)
  | finish (session : Nat) (error : Option Failure) (withRollback : Bool)
  | leave (session : Nat) (body : Outcome Unit)

def Work.task (adapter : Adapter) (party : Party) : Work → Run Unit
  | find typeName keys options => discard (adapter.find party typeName keys options)
  | create typeName records => discard (adapter.create party typeName records)
  | update typeName updates => discard (adapter.update party typeName updates)
  | delete typeName keys => discard (adapter.delete party typeName keys)

def Use.task (adapter : Adapter) : Use → Run Unit
  | work party records => records.task adapter party
  | connect party => adapter.connect party
  | disconnect party => Adapter.disconnect party
  | begin party => discard (beginTransaction party)
  | finish session error withRollback => endTransaction session (error.isSome || withRollback)
  | leave session body => exitBlock session body

def Use.party : Use → Party
  | work party _ | connect party | disconnect party | begin party => party
  | finish session _ _ | leave session _ => .session session

/-! ### Statements -/

structure Statement where
  sql : String
  params : List Value
  operation : String

def Statement.on (channel : Channel) (statement : Statement) : StoreCall :=
  .execute channel statement.sql statement.params statement.operation

/-- The statements that work is made of, if they can be built. -/
def Work.built (adapter : Adapter) (keysMade : Nat) : Work → Outcome (List Statement)
  | find typeName keys options => do
    let type ← adapter.recordType typeName
    if asksForNone keys then return []
    let statements ← findStatements type keys options
    return [⟨statements.select, statements.params, "select"⟩, ⟨statements.count, statements.params, "count"⟩]
  | create typeName records => do
    let type ← adapter.recordType typeName
    if !records.holds then return []
    let items ← liftM records.elements
    let encoded ← liftM ((items.mapM (type.encodeRecord adapter.keySource)).run.run keysMade).1
    let (insert, params) ← buildInsert type encoded
    return [⟨insert.sql, params, "insert"⟩]
  | update typeName updates => do
    let type ← adapter.recordType typeName
    if !updates.holds then return []
    let statements ← updateStatements type updates
    return statements.filterMap (·.map fun (sql, params) => ⟨sql, params, "update"⟩)
  | delete typeName keys => do
    let type ← adapter.recordType typeName
    match ← deleteStatement type keys with
    | none => return []
    | some (sql, params) => return [⟨sql, params, "delete"⟩]

/-- Statements go to a channel; where they cannot be built or there is no channel, nothing is asked. -/
def issuedOn (channel : Option Channel) (built : Outcome (List Statement)) : List StoreCall :=
  match channel, built with
  | some channel, .ok statements => statements.map (·.on channel)
  | _, _ => []

@[simp] theorem issuedOn_error (channel : Option Channel) (failure : Failure) : issuedOn channel (.error failure) = [] := by
  cases channel <;> rfl

@[simp] theorem issuedOn_nil (channel : Option Channel) : issuedOn channel (.ok []) = [] := by cases channel <;> rfl

@[simp] theorem issuedOn_none (built : Outcome (List Statement)) : issuedOn none built = [] := rfl

/-- What work of a party asks of the store. -/
def Work.calls (adapter : Adapter) (party : Party) (state : AdapterState) (work : Work) : List StoreCall :=
  issuedOn (state.channel? party) (work.built adapter state.keysMade)

/-! ### Single steps -/

variable {store : Store} {adapter : Adapter} {party : Party} {state after : AdapterState} {log later : List Asked} {n : Nat}
  {channel : Channel} {α β : Type}

theorem meets_ofOutcome (outcome : Outcome α) : meets store (ofOutcome outcome) state log = ((outcome, state), log) := rfl

theorem meets_look : meets store look state log = ((.ok state, state), log) := rfl

theorem meets_change (f : AdapterState → AdapterState) : meets store (change f) state log = ((.ok (), f state), log) := rfl

theorem meets_execute (channel : Channel) (sql : String) (params : List Value) (operation : String) :
    meets store (execute channel sql params operation) state log =
      ((store log (.execute channel sql params operation), state),
        log ++ [⟨.execute channel sql params operation, store log (.execute channel sql params operation)⟩]) := rfl

theorem meets_executor (connected : state.channel? party = some channel) :
    meets store (executor party) state log = ((.ok channel, state), log) := by
  rw [executor, meets_ok meets_look, connected]
  rfl

theorem meets_executor_none (none : state.channel? party = none) :
    meets store (executor party) state log = ((.error (.ofError .notConnected), state), log) := by
  rw [executor, meets_ok meets_look, none]
  rfl

/-- An operation that asks the store nothing and changes nothing. -/
def Quiet (operation : Run α) : Prop :=
  ∀ (store : Store) state log, ∃ outcome, meets store operation state log = ((outcome, state), log)

theorem quiet_pure (a : α) : Quiet (pure a : Run α) := fun _ _ _ => ⟨_, rfl⟩

theorem quiet_ofOutcome (outcome : Outcome α) : Quiet (ofOutcome outcome) := fun _ _ _ => ⟨_, rfl⟩

theorem quiet_ofMisuse (result : Except Misuse α) : Quiet (ofMisuse result) := fun _ _ _ => ⟨_, rfl⟩

theorem quiet_refusal (failure : Failure) : Quiet (throw failure : Run α) := fun _ _ _ => ⟨_, rfl⟩

/-- An operation that makes these calls. Of the state it may change how many keys were made. -/
def Makes (store : Store) (operation : Run α) (state : AdapterState) (log : List Asked) (calls : List StoreCall) : Prop :=
  ∃ outcome keysMade asked, meets store operation state log = ((outcome, { state with keysMade }), log ++ asked) ∧
    asked.map (·.call) = calls

theorem Quiet.makes {operation : Run α} (quiet : Quiet operation) : Makes store operation state log [] := by
  obtain ⟨outcome, came⟩ := quiet store state log
  exact ⟨outcome, state.keysMade, [], came.trans (by rw [List.append_nil]), rfl⟩

/-- After a step that asks nothing, an operation makes the calls of the rest. -/
theorem makes_after {operation : Run α} {f : α → Run β} {a : α} {calls : List StoreCall}
    (came : meets store operation state log = ((.ok a, state), log)) (rest : Makes store (f a) state log calls) :
    Makes store (operation >>= f) state log calls := by
  obtain ⟨outcome, made, asked, more, same⟩ := rest
  exact ⟨outcome, made, asked, (meets_ok came f).trans more, same⟩

/-- What cannot be had ends an operation before it asks anything, and so it ends the building of its statements. -/
theorem makes_outcome {outcome : Outcome α} {f : α → Run β} {channel? : Option Channel} {built : α → Outcome (List Statement)}
    (each : ∀ a, Makes store (f a) state log (issuedOn channel? (built a))) :
    Makes store (ofOutcome outcome >>= f) state log (issuedOn channel? (outcome >>= built)) := by
  cases outcome with
  | ok a => exact makes_after (meets_ofOutcome (.ok a)) (each a)
  | error failure =>
    change Makes store _ state log (issuedOn channel? (.error failure))
    rw [issuedOn_error]
    exact ⟨_, state.keysMade, [], (meets_error (meets_ofOutcome _) f).trans (by rw [List.append_nil]), rfl⟩

theorem makes_executor {f : Channel → Run α} {statements : List Statement}
    (each : ∀ channel, Makes store (f channel) state log (statements.map (·.on channel))) :
    Makes store (executor party >>= f) state log (issuedOn (state.channel? party) (.ok statements)) := by
  cases found : state.channel? party with
  | none => exact ⟨_, state.keysMade, [], (meets_error (meets_executor_none found) f).trans (by rw [List.append_nil]), rfl⟩
  | some channel => exact makes_after (meets_executor found) (each channel)

theorem meets_before {operation : Run α} {f : α → Run β} {outcome : Outcome α}
    (came : meets store operation state log = ((outcome, after), later)) (quiet : ∀ a, Quiet (f a)) :
    ∃ outcome, meets store (operation >>= f) state log = ((outcome, after), later) := by
  cases outcome with
  | ok a =>
    obtain ⟨outcome, more⟩ := quiet a store after later
    exact ⟨outcome, (meets_ok came f).trans more⟩
  | error failure => exact ⟨_, meets_error came f⟩

theorem Makes.before {operation : Run α} {f : α → Run β} {calls : List StoreCall}
    (makes : Makes store operation state log calls) (quiet : ∀ a, Quiet (f a)) :
    Makes store (operation >>= f) state log calls := by
  obtain ⟨_, keysMade, asked, came, same⟩ := makes
  obtain ⟨outcome, whole⟩ := meets_before came quiet
  exact ⟨outcome, keysMade, asked, whole, same⟩

theorem meets_handled {operation : Run α} {handle : Failure → Run α} {outcome : Outcome α}
    (came : meets store operation state log = ((outcome, after), later)) (quiet : ∀ failure, Quiet (handle failure)) :
    ∃ outcome, meets store (tryCatch operation handle) state log = ((outcome, after), later) := by
  cases outcome with
  | ok a => exact ⟨_, meets_tryCatch_ok came handle⟩
  | error failure =>
    obtain ⟨outcome, more⟩ := quiet failure store after later
    exact ⟨outcome, (meets_tryCatch_error came handle).trans more⟩

theorem Makes.handled {operation : Run α} {handle : Failure → Run α} {calls : List StoreCall}
    (makes : Makes store operation state log calls) (quiet : ∀ failure, Quiet (handle failure)) :
    Makes store (tryCatch operation handle) state log calls := by
  obtain ⟨_, keysMade, asked, came, same⟩ := makes
  obtain ⟨outcome, handled⟩ := meets_handled came quiet
  exact ⟨outcome, keysMade, asked, handled, same⟩

theorem Makes.discard {operation : Run α} {calls : List StoreCall} (makes : Makes store operation state log calls) :
    Makes store (discard operation) state log calls := makes.before fun _ => quiet_pure _

theorem makes_execute (channel : Channel) (statement : Statement) :
    Makes store (execute channel statement.sql statement.params statement.operation) state log [statement.on channel] :=
  ⟨_, state.keysMade, _, meets_execute _ _ _ _, rfl⟩

/-! ### Groups -/

/-- An operation that makes these calls and leaves the state alone. -/
def Leaves (store : Store) (operation : Run α) (state : AdapterState) (calls : List StoreCall) : Prop :=
  ∀ log, ∃ outcome asked, meets store operation state log = ((outcome, state), log ++ asked) ∧ asked.map (·.call) = calls

variable {ι : Type} {items : List ι} {operations : ι → Run α} {calls : ι → List StoreCall}

theorem leaves_all (each : ∀ item ∈ items, Leaves store (operations item) state (calls item)) (log : List Asked) :
    ∃ results asked, allAgainst store ((items.map operations).map ExceptT.run) state log = ((results, state), log ++ asked) ∧
      asked.map (·.call) = items.flatMap calls := by
  induction items generalizing log with
  | nil => exact ⟨[], [], by rw [List.append_nil]; rfl, rfl⟩
  | cons item rest ih =>
    obtain ⟨outcome, first, came, own⟩ := each item List.mem_cons_self log
    obtain ⟨results, more, others, same⟩ := ih (fun other member => each other (List.mem_cons_of_mem _ member)) (log ++ first)
    have once : against store (operations item).run state log = ((outcome, state), log ++ first) := came
    refine ⟨outcome :: results, first ++ more, ?_, by rw [List.map_append, own, same, List.flatMap_cons]⟩
    rw [List.map_cons, List.map_cons, allAgainst, once]
    dsimp only
    rw [others, List.append_assoc]

theorem meets_joined (operations : List (Run α)) :
    meets store (joined operations) state log =
      let all := allAgainst store (operations.map ExceptT.run) state log
      ((all.1.1.mapM id, all.1.2), all.2) := by
  unfold meets joined
  rw [ExceptT.run_mk, against_joined]

theorem meets_settled (operations : List (Run α)) :
    meets store (settled operations) state log =
      let all := allAgainst store (operations.map ExceptT.run) state log
      ((.ok all.1.1, all.1.2), all.2) := by
  unfold meets settled
  change against store (Task.bind (Task.settled (operations.map ExceptT.run)) fun results =>
    (.done (.ok results) : Job (Except Failure (List (Outcome α))))) state log = _
  rw [against_bind, against_settled]
  rfl

theorem makes_joined (each : ∀ item ∈ items, Leaves store (operations item) state (calls item)) :
    Makes store (joined (items.map operations)) state log (items.flatMap calls) := by
  obtain ⟨results, asked, came, same⟩ := leaves_all each log
  exact ⟨results.mapM id, state.keysMade, asked, by rw [meets_joined, came], same⟩

theorem makes_settled (each : ∀ item ∈ items, Leaves store (operations item) state (calls item)) :
    Makes store (settled (items.map operations)) state log (items.flatMap calls) := by
  obtain ⟨results, asked, came, same⟩ := leaves_all each log
  exact ⟨.ok results, state.keysMade, asked, by rw [meets_settled, came], same⟩

/-! ### Work -/

theorem makes_find (typeName keys options : Value) : Makes store (adapter.find party typeName keys options) state log
    ((Work.find typeName keys options).calls adapter party state) := by
  refine makes_outcome fun type => ?_
  by_cases none : asksForNone keys
  · rw [if_pos none, if_pos none]
    exact issuedOn_nil (state.channel? party) ▸ (quiet_pure _).makes
  · rw [if_neg none, if_neg none]
    refine makes_outcome fun statements => makes_executor fun channel => ?_
    let both : List Statement :=
      [⟨statements.select, statements.params, "select"⟩, ⟨statements.count, statements.params, "count"⟩]
    have together : Makes store (joined (findTasks channel statements)) state log (both.flatMap fun s => [s.on channel]) :=
      @makes_joined store state log _ _ both (fun s => execute channel s.sql s.params s.operation) _
        fun s _ log => ⟨_, _, meets_execute _ _ _ _, rfl⟩
    refine together.before fun results => ?_
    split
    · exact quiet_ofMisuse _
    · exact quiet_pure _

theorem makes_delete (typeName keys : Value) : Makes store (adapter.delete party typeName keys) state log
    ((Work.delete typeName keys).calls adapter party state) := by
  refine makes_outcome fun type => makes_outcome fun statement => ?_
  cases statement with
  | none => exact issuedOn_nil (state.channel? party) ▸ (quiet_pure _).makes
  | some statement =>
    obtain ⟨sql, params⟩ := statement
    exact makes_executor fun channel => (makes_execute channel ⟨sql, params, "delete"⟩).before fun _ => quiet_pure _

/-- An update of a column that the store does not have is only noted. -/
theorem quiet_skipping (failure : Failure) : Quiet (match failure.storeError?.filter namesUnknownColumn with
    | some error => do
      let report := (error.detail? "error_message").getD (.text "")
      Adapter.log .warning ("Update skipped, unknown column: " ++ report.shown)
      return some 0
    | none => throw failure : Run (Option Int)) := by
  split
  · exact fun _ _ _ => ⟨_, rfl⟩
  · exact quiet_refusal failure

theorem leaves_updateTask (statement : UpdateStatement) : Leaves store (updateTask party statement) state
    (issuedOn (state.channel? party) (.ok (statement.map fun (sql, params) => ⟨sql, params, "update"⟩).toList)) := by
  intro log
  cases statement with
  | none => exact ⟨_, [], by rw [List.append_nil]; rfl, (issuedOn_nil _).symm⟩
  | some statement =>
    obtain ⟨sql, params⟩ := statement
    cases found : state.channel? party with
    | none =>
      obtain ⟨outcome, came⟩ := meets_handled (meets_error (@meets_executor_none store party state log found) _) quiet_skipping
      exact ⟨outcome, [], came.trans (by rw [List.append_nil]), rfl⟩
    | some channel =>
      obtain ⟨_, counted⟩ := meets_before (@meets_execute store state log channel sql params "update") fun result =>
        quiet_pure result.rowCount
      have body := meets_ok (@meets_executor store party state log channel found) fun channel => (do
        return (← execute channel sql params "update").rowCount : Run (Option Int))
      obtain ⟨outcome, came⟩ := meets_handled (body.trans counted) quiet_skipping
      exact ⟨outcome, _, came, rfl⟩

theorem issuedOn_flatMap (channel? : Option Channel) {ι : Type} (items : List ι) (statements : ι → List Statement) :
    items.flatMap (fun item => issuedOn channel? (.ok (statements item))) =
      issuedOn channel? (.ok (items.flatMap statements)) := by
  cases channel? with
  | none => simp
  | some channel => exact (List.map_flatMap ..).symm

theorem makes_update (typeName updates : Value) : Makes store (adapter.update party typeName updates) state log
    ((Work.update typeName updates).calls adapter party state) := by
  refine makes_outcome fun type => ?_
  by_cases none : (!updates.holds) = true
  · rw [if_pos none, if_pos none]
    exact issuedOn_nil (state.channel? party) ▸ (quiet_pure _).makes
  · rw [if_neg none, if_neg none]
    refine makes_outcome fun statements => ?_
    have together := @makes_settled store state log _ _ statements (updateTask party) _ fun statement _ =>
      leaves_updateTask statement
    rw [issuedOn_flatMap, ← List.filterMap_eq_flatMap_toList] at together
    exact together.before fun _ => quiet_ofOutcome _

theorem makes_create (typeName records : Value) : Makes store (adapter.create party typeName records) state log
    ((Work.create typeName records).calls adapter party state) := by
  refine makes_outcome fun type => ?_
  by_cases none : (!records.holds) = true
  · rw [if_pos none, if_pos none]
    exact issuedOn_nil (state.channel? party) ▸ (quiet_pure _).makes
  · rw [if_neg none, if_neg none]
    refine makes_outcome fun items => ?_
    -- Making keys is the one thing that work changes.
    let encoding := (items.mapM (type.encodeRecord adapter.keySource)).run.run state.keysMade
    have encodes : meets store (adapter.encodeAll type items) state log =
      ((liftM encoding.1, { state with keysMade := encoding.2 }), log) := rfl
    have same : ({ state with keysMade := encoding.2 } : AdapterState).channel? party = state.channel? party := by
      cases party <;> rfl
    cases encoded : encoding.1 with
    | error misuse =>
      rw [encoded] at encodes
      change Makes store _ state log (issuedOn _ (.error (.ofMisuse misuse)))
      rw [issuedOn_error]
      exact ⟨_, encoding.2, [], (meets_error encodes _).trans (by rw [List.append_nil]), rfl⟩
    | ok rows =>
      rw [encoded] at encodes
      rw [← same]
      obtain ⟨outcome, keysMade, asked, came, calls⟩ := @makes_outcome store { state with keysMade := encoding.2 } log _ _
        (buildInsert type rows) (fun (insert, params) => do
          let result ← tryCatch (do
              let channel ← executor party
              execute channel insert.sql params "insert")
            fun failure => throw (insertFailure failure)
          ofMisuse (createdRecords type adapter.nesting insert rows result.rows)) _
        (fun (insert, params) => .ok [⟨insert.sql, params, "insert"⟩]) fun (insert, params) =>
          ((makes_executor fun channel => makes_execute channel ⟨insert.sql, params, "insert"⟩).handled
            fun failure => quiet_refusal _).before fun _ => quiet_ofMisuse _
      exact ⟨outcome, keysMade, asked, (meets_ok encodes _).trans came, calls⟩

theorem makes_work (work : Work) : Makes store (work.task adapter party) state log (work.calls adapter party state) := by
  cases work with
  | find => exact (makes_find ..).discard
  | create => exact (makes_create ..).discard
  | update => exact (makes_update ..).discard
  | delete => exact (makes_delete ..).discard

end RecordStore.Adapter
