import RecordStore.Proofs.Adapter.Operations
import RecordStore.Proofs.Adapter.Update
import RecordStore.Proofs.Connector.Failures
import RecordStore.Script.Url

/-!
# What becomes of a failure of the driver

With a connector in the place of the store, creating and updating run one statement on it at most. So the state code of the
last failure of the driver decides how they end: creating with a conflict or a store error, and an update with no changed
rows or a store error.
-/

namespace RecordStore

/-- A connector works on its part of the state that it shares with an adapter. -/
def Connector.shared :
    Task.Host Connector EngineCall EngineCall.Answer (AdapterState × Connector) EngineCall EngineCall.Answer where
  view := Prod.snd
  update connector state := (state.1, connector)
  write _ state := state
  answer := Task.perform

namespace Adapter

open RecordStore.Task
open Connector (lastFailure)

/-- A connector in the place of the store. -/
def onConnector :
    Host AdapterState StoreCall StoreCall.Answer (AdapterState × Connector) EngineCall EngineCall.Answer where
  view := Prod.fst
  update state both := (state, both.2)
  write _ state := state
  answer c := (Connector.answer c).within Connector.shared

variable {σ α β : Type} {operation : Run α} {outcome : Outcome α} {x raised : Failure}

/-! ### One statement at most -/

/-- One statement at most was run, and if it failed, this became of it. -/
def OneAtMost (becomes : Failure → Outcome α) (calls : List Asked) (outcome : Outcome α) : Prop :=
  calls = [] ∨ ∃ (channel : Channel) (sql : String) (params : List Value) (label : String)
    (answer : Outcome StatementResult), calls = [⟨.execute channel sql params label, answer⟩] ∧
      ∀ failure, answer = .error failure → outcome = becomes failure

theorem OneAtMost.mono {becomes : Failure → Outcome α} {later : Failure → Outcome β} {calls : List Asked}
    {own : Outcome α} {outcome : Outcome β} (one : OneAtMost becomes calls own)
    (step : ∀ failure, own = becomes failure → outcome = later failure) : OneAtMost later calls outcome := by
  refine one.imp id ?_
  rintro ⟨channel, sql, params, label, answer, same, fails⟩
  exact ⟨channel, sql, params, label, answer, same, fun failure failed => step failure (fails failure failed)⟩

def RunsOne (becomes : Failure → Outcome α) (operation : Run α) : Prop :=
  ∀ calls outcome, operation.run.Goes calls outcome → OneAtMost becomes calls outcome

theorem runsOne_execute (channel : Channel) (sql : String) (params : List Value) (label : String) :
    RunsOne .error (execute channel sql params label) := by
  intro calls outcome goes
  exact .inr ⟨channel, sql, params, label, outcome, goes_perform goes, fun _ same => same⟩

theorem runsOne_silent {becomes : Failure → Outcome α} (silent : Silent operation) : RunsOne becomes operation :=
  fun calls outcome goes => .inl (silent calls outcome goes)

theorem RunsOne.after {becomes : Failure → Outcome β} {f : α → Run β} (rest : ∀ a, RunsOne becomes (f a))
    (silent : Silent operation) : RunsOne becomes (operation >>= f) := by
  intro calls outcome goes
  obtain ⟨first, own, more, rfl, went, later⟩ := goes_bind_run goes
  obtain rfl := silent first own went
  cases own with
  | ok a => exact rest a more outcome later
  | error failure => exact .inl later.1

theorem RunsOne.before {raise : Failure → Failure} {f : α → Run β}
    (first : RunsOne (fun failure => .error (raise failure)) operation) (silent : ∀ a, Silent (f a)) :
    RunsOne (fun failure => .error (raise failure)) (operation >>= f) := by
  intro calls outcome goes
  obtain ⟨asked, own, more, rfl, went, later⟩ := goes_bind_run goes
  have none : more = [] := by
    cases own with
    | ok a => exact silent a more outcome later
    | error failure => exact later.1
  rw [none, List.append_nil]
  refine (first asked own went).mono fun failure failed => ?_
  cases failed
  exact later.2

theorem RunsOne.handled {becomes : Failure → Outcome α} {handle : Failure → Run α} (first : RunsOne .error operation)
    (handles : ∀ failure calls outcome, (handle failure).run.Goes calls outcome → calls = [] ∧ outcome = becomes failure) :
    RunsOne becomes (tryCatch operation handle) := by
  intro calls outcome goes
  obtain ⟨asked, own, more, rfl, went, later⟩ := goes_tryCatch goes
  have none : more = [] := by
    cases own with
    | ok a => exact later.1
    | error failure => exact (handles failure more outcome later).1
  rw [none, List.append_nil]
  refine (first asked own went).mono fun failure failed => ?_
  cases failed
  exact (handles failure more outcome later).2

theorem silent_executor (party : Party) : Silent (executor party) := by
  refine silent_get.bind fun state => ?_
  cases state.channel? party with
  | some channel => exact silent_pure channel
  | none => exact silent_throw _

theorem runsOne_create (adapter : Adapter) (party : Party) (typeName records : Value) :
    RunsOne (fun failure => .error (insertFailure failure)) (adapter.create party typeName records) := by
  unfold create
  refine .after (fun type => ?_) (silent_outcome _)
  by_cases none : (!records.holds) = true
  · rw [if_pos none]
    exact runsOne_silent (silent_pure [])
  rw [if_neg none]
  have encodes : ∀ items, Silent (adapter.encodeAll type items) := fun items =>
    silent_get.bind fun state => (silent_modify _).bind fun _ => silent_outcome _
  refine .after (fun items => .after (fun encoded => .after (fun built => ?_) (silent_outcome _)) (encodes items))
    (silent_outcome _)
  have inserts : RunsOne .error (do
      let channel ← executor party
      execute channel built.1.sql built.2 "insert") :=
    .after (fun channel => runsOne_execute channel _ _ _) (silent_executor party)
  refine RunsOne.before (?_ : RunsOne (fun failure => .error (insertFailure failure)) _) fun result => silent_outcome _
  exact inserts.handled fun failure calls outcome goes => goes

theorem runsOne_updateTask (party : Party) (statement : UpdateStatement) :
    RunsOne (fun failure => if missesColumn failure then .ok (some 0) else .error failure) (updateTask party statement) := by
  cases statement with
  | none => exact runsOne_silent (silent_pure _)
  | some statement =>
    obtain ⟨sql, params⟩ := statement
    have counts : RunsOne .error (do
        let channel ← executor party
        return (← execute channel sql params "update").rowCount : Run (Option Int)) := by
      refine .after (fun channel => ?_) (silent_executor party)
      have executes : RunsOne (fun failure => .error (id failure)) (execute channel sql params "update") :=
        runsOne_execute channel sql params "update"
      exact executes.before fun result => silent_pure _
    refine counts.handled fun failure calls outcome goes => ?_
    have skipped := skipped_iff failure
    cases found : failure.storeError?.filter namesUnknownColumn with
    | none =>
      rw [found] at skipped goes
      rw [← skipped]
      exact goes
    | some error =>
      rw [found] at skipped goes
      rw [← skipped]
      exact goes

/-! ### On a connector -/

theorem goes_shared {c : StoreCall} {asked : List Connector.Asked} {answer : c.Answer}
    (goes : ((Connector.answer c).within Connector.shared).Goes asked answer) : (Connector.answer c).Goes asked answer := by
  obtain ⟨calls, went, answers⟩ := goes_within goes
  rw [answers.same fun _ => rfl]
  exact went

/-- Where an operation runs one statement at most, a failure of the driver becomes what a failure of this statement does. -/
theorem RunsOne.onConnector {becomes : Failure → Outcome α} (one : RunsOne becomes operation) {asked : List Connector.Asked}
    (goes : (operation.run.within onConnector).Goes asked outcome) (last : lastFailure asked = some x) :
    ∃ sql label, outcome = becomes (x.raisedAs sql label) := by
  obtain ⟨calls, went, answers⟩ := goes_within goes
  rcases one calls outcome went with rfl | ⟨channel, sql, params, label, answer, rfl, fails⟩
  -- Without a statement the driver was not asked, so it did not fail.
  · cases answers
    cases last
  · cases answers with
    | cons answered rest =>
      cases rest
      rw [List.append_nil] at last
      exact ⟨sql, label, fails _ (Connector.answer_execute (goes_shared answered) last)⟩

/-! ### What the code decides -/

/-- The conflict that a failure of the driver is raised as where a key exists. -/
structure IsConflictOver (x failure : Failure) : Prop where
  error : ∃ error, failure.error? = some error ∧ error.family = .conflict
  cause : ∃ raised, failure.cause = some raised ∧ x.IsRaisedAs raised

theorem insertFailure_raised (decided : x.IsRaisedAs raised) : if firstCode x.codeMarks = some "23505" then
    IsConflictOver x (insertFailure raised) else insertFailure raised = raised := by
  obtain ⟨error, store, code, _⟩ := decided.error
  unfold insertFailure uniqueViolation
  rw [store]
  dsimp only
  rw [code]
  by_cases there : firstCode x.codeMarks = some "23505"
  · rw [if_pos there, if_pos there]
    exact ⟨⟨_, rfl, rfl⟩, raised, rfl, decided⟩
  · rw [if_neg there, if_neg there]

theorem missesColumn_raised (decided : x.IsRaisedAs raised) :
    missesColumn raised = true ↔ firstCode x.codeMarks = some "42703" := by
  obtain ⟨error, store, code, missing, _⟩ := decided.error
  unfold missesColumn
  rw [store]
  dsimp only
  rw [decide_eq_true_iff, code, missing, or_self]

/-- Whatever the driver answers, a task ends in one of its courses; and in every course in which this is the last failure of
the driver, the task ends as is told. -/
structure EndsAfter (x : Failure) (task : Task σ EngineCall EngineCall.Answer (Outcome α)) (fits : Outcome α → Prop) :
    Prop where
  ends : ∀ (driver : Connector.Driver) s log, ∃ asked, (against driver task s log).2 = log ++ asked ∧
    task.Goes asked (against driver task s log).1.1
  fits : ∀ asked outcome, task.Goes asked outcome → lastFailure asked = some x → fits outcome

/-- The state code of the last failure of the driver decides how a statement ends, on a connection of its own or in a
transaction, and with it how creating and updating end. -/
theorem code_decides (reported : x.IsReported) :
    (∀ channel sql params label, EndsAfter x
      (Connector.answer (.execute channel sql params label) : Connector.Link (Outcome StatementResult)) fun outcome =>
        ∃ failure, outcome = .error failure ∧ x.IsRaisedAs failure) ∧
    (∀ (adapter : Adapter) party typeName records, EndsAfter x
      ((adapter.create party typeName records).run.within onConnector) fun outcome =>
        ∃ failure, outcome = .error failure ∧
          if firstCode x.codeMarks = some "23505" then IsConflictOver x failure else x.IsRaisedAs failure) ∧
    ∀ party statement, EndsAfter x ((updateTask party statement).run.within onConnector) fun outcome =>
      if firstCode x.codeMarks = some "42703" then outcome = .ok (some 0)
      else ∃ failure, outcome = .error failure ∧ x.IsRaisedAs failure := by
  refine ⟨fun channel sql params label => ⟨fun driver => goes_against driver _, ?_⟩,
    fun adapter party typeName records => ⟨fun driver => goes_against driver _, ?_⟩,
    fun party statement => ⟨fun driver => goes_against driver _, ?_⟩⟩
  · intro asked outcome goes last
    exact ⟨_, Connector.answer_execute goes last, reported.raisedAs sql label⟩
  · intro asked outcome goes last
    obtain ⟨sql, label, rfl⟩ := (runsOne_create adapter party typeName records).onConnector goes last
    have decided := reported.raisedAs sql label
    have inserted := insertFailure_raised decided
    refine ⟨_, rfl, ?_⟩
    by_cases there : firstCode x.codeMarks = some "23505"
    · rw [if_pos there] at inserted ⊢
      exact inserted
    · rw [if_neg there] at inserted ⊢
      rw [inserted]
      exact decided
  · intro asked outcome goes last
    obtain ⟨sql, label, rfl⟩ := (runsOne_updateTask party statement).onConnector goes last
    have decided := reported.raisedAs sql label
    have misses := missesColumn_raised decided
    by_cases missing : firstCode x.codeMarks = some "42703"
    · rw [if_pos missing, if_pos (misses.2 missing)]
    · rw [if_neg missing, if_neg (missing ∘ misses.1)]
      exact ⟨_, rfl, decided⟩

/-- A failure of the driver around another one, which came from one that may have a state code. -/
def reportedWith (origin : Origin) (code : Option String) : Failure :=
  let source : Failure := .mk (.reported (.foreign "Exception") "told by the server") { pgcode := code.map .text } none none
  let wrapped : Failure :=
    .mk (.reported (.foreign "Exception") "told by the client") { sqlstate := some (.text "") } none source
  .mk (.reported origin "told by the driver") {} wrapped none

theorem isReported_reportedWith (origin : Origin) (code : Option String) : (reportedWith origin code).IsReported :=
  ⟨rfl, nofun⟩

/-- A driver that refuses all statements, with what it says to a rollback. -/
def refusing (failure : Failure) (rolledBack : Outcome Unit) : Connector.Driver
  | _, .create .. => (.ok .numericDollar : Outcome Sql.ParamStyle)
  | _, .disposeEngine => (.ok () : Outcome Unit)
  | _, .checkout => (.ok 0 : Outcome Nat)
  | _, .connect => (.ok 0 : Outcome Nat)
  | _, .begin _ => (.ok () : Outcome Unit)
  | _, .commit _ => (.ok () : Outcome Unit)
  | _, .rollback _ => rolledBack
  | _, .close _ => (.ok () : Outcome Unit)
  | _, .exec .. => (.error failure : Outcome DriverResult)

theorem unknown_column_skipped :
    let x := reportedWith (.driver "ProgrammingError") (some "42703")
    let statement : UpdateStatement := some ("update \"post\" set \"size\" = $1", [.text "v"])
    x.IsReported ∧ ∃ asked outcome, ((updateTask .plain statement).run.within onConnector).Goes asked outcome ∧
      lastFailure asked = some x ∧ outcome = .ok (some 0) := by
  intro x statement
  have reported : x.IsReported := isReported_reportedWith _ _
  obtain ⟨ends, fits⟩ := (code_decides reported).2.2 .plain statement
  obtain ⟨asked, grown, goes⟩ := ends (refusing x (.ok ())) ({ connected := true }, { toolkit := Script.toolkit, engine := some .numericDollar }) []
  have last : lastFailure asked = some x := by
    rw [← List.nil_append asked, ← grown]
    rfl
  exact ⟨reported, asked, _, goes, last, fits asked _ goes last⟩

/-- A statement fails on a key that exists, and then the rollback of its connection fails as well. The code is lost. -/
theorem code_lost_by_rollback :
    let x := reportedWith .integrity (some "23505")
    let lost := reportedWith .operational none
    x.IsReported ∧ firstCode x.codeMarks = some "23505" ∧ ∃ statement failure error,
      meets (refusing x (.error lost))
          (Connector.execute "insert into \"post\" (\"id\") values ($1)" (.list [.text "p1"]) "insert")
          { toolkit := Script.toolkit, engine := some .numericDollar } [] =
        ((.error failure, { toolkit := Script.toolkit, engine := some .numericDollar }),
          [⟨.checkout, (.ok 0 : Outcome Nat)⟩, ⟨.exec 0 statement, (.error x : Outcome DriverResult)⟩,
            ⟨.rollback 0, (.error lost : Outcome Unit)⟩]) ∧
        failure.storeError? = some error ∧ error.sqlstate? = none := by
  intro x lost
  have reported : lost.IsReported := isReported_reportedWith _ _
  obtain ⟨_, error, store, code, _⟩ := reported.raisedAs "insert into \"post\" (\"id\") values ($1)" "insert"
  exact ⟨isReported_reportedWith _ _, rfl, _, _, error, rfl, store, code⟩

end Adapter
end RecordStore
