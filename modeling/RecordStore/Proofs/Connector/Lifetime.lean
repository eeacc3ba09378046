import RecordStore.Connector.Transaction
import RecordStore.Proofs.Store.Exchange

/-!
# The lifetime of a transaction

A transaction holds one connection from its start to its end, whatever the driver answers: it ends with the first commit or
rollback that is tried, gives its connection back at that moment and only then, and refuses everything afterwards.
-/

namespace RecordStore.Connector

open RecordStore.Task

abbrev Asked := Exchange EngineCall EngineCall.Answer

abbrev Driver := Oracle EngineCall EngineCall.Answer

variable {driver : Driver} {connector after : Connector} {log : List Asked} {n c : Nat} {style : Sql.ParamStyle}
  {sql operation : String} {params : Value}

/-! ### Single steps -/

theorem meets_look : meets driver look connector log = ((.ok connector, connector), log) := rfl

theorem meets_change (f : Connector → Connector) :
    meets driver (change f) connector log = ((.ok (), f connector), log) := rfl

theorem meets_transaction :
    meets driver (transaction n) connector log = ((.ok (connector.transactions.getD n {}), connector), log) := rfl

def alter (n : Nat) (f : Transaction → Transaction) (connector : Connector) : Connector :=
  { connector with transactions := connector.transactions.modify n f }

theorem meets_changeTransaction (f : Transaction → Transaction) :
    meets driver (changeTransaction n f) connector log = ((.ok (), alter n f connector), log) := rfl

theorem alter_getD {f : Transaction → Transaction} (inside : n < connector.transactions.length) :
    (alter n f connector).transactions.getD n {} = f (connector.transactions.getD n {}) := by
  simp [alter, inside]

theorem alter_length {f : Transaction → Transaction} :
    (alter n f connector).transactions.length = connector.transactions.length := List.length_modify _ _ _

/-- What is raised in the place of the failure of a body. -/
def raising {α : Type} (sql operation : String) (outcome : Outcome α) : Outcome α :=
  outcome.mapError (·.raisedAs sql operation)

theorem meets_diagnosing {α : Type} (sql operation : String) {body : Linked α} {outcome : Outcome α} {later : List Asked}
    (came : meets driver body connector log = ((outcome, after), later)) :
    meets driver (diagnosing sql operation body) connector log = ((raising sql operation outcome, after), later) := by
  cases outcome with
  | ok a => exact meets_tryCatch_ok came _
  | error failure => exact meets_tryCatch_error came _

theorem meets_kept {α : Type} {body : Linked α} {outcome : Outcome α} {later : List Asked}
    (came : meets driver body connector log = ((outcome, after), later)) :
    meets driver (ExceptT.lift (diagnosing sql operation body).run : Linked (Outcome α)) connector log =
      ((.ok (raising sql operation outcome), after), later) := by
  have diagnosed := meets_diagnosing sql operation came
  unfold meets at diagnosed ⊢
  change against driver (Task.bind (diagnosing sql operation body).run fun result =>
    (.done (.ok result) : Link (Except Failure (Outcome α)))) connector log = _
  rw [against_bind, diagnosed]
  rfl

/-! ### Statements -/

def rendered (sql : String) (params : Value) (style : Sql.ParamStyle) : Outcome Sql.DriverStatement := do
  let statement ← Sql.driverStatement sql params style
  discard (liftM params.size : Outcome Nat)
  return statement

def resultBy (answer : Outcome DriverResult) : Outcome StatementResult := do
  liftM (resultOf (← answer))

/-- A statement that cannot be rendered fails without the driver; any other is run by it once. -/
inductive Ran (c : Nat) (style : Sql.ParamStyle) (sql : String) (params : Value) (operation : String) :
    Outcome StatementResult → List Asked → Prop
  | unrendered {failure : Failure} (refused : rendered sql params style = .error failure) :
    Ran c style sql params operation (.error (failure.raisedAs sql operation)) []
  | asked {statement : Sql.DriverStatement} (fine : rendered sql params style = .ok statement)
    (answer : Outcome DriverResult) :
    Ran c style sql params operation (raising sql operation (resultBy answer)) [⟨.exec c statement, answer⟩]

theorem meets_ofOutcome {α : Type} (outcome : Outcome α) :
    meets driver (ofOutcome outcome) connector log = ((outcome, connector), log) := rfl

theorem meets_debug (message : String) : meets driver (debug message) connector log = ((.ok (), connector), log) := rfl

theorem meets_exec (statement : Sql.DriverStatement) : meets driver (exec c statement) connector log =
    ((driver log (.exec c statement), connector), log ++ [⟨.exec c statement, driver log (.exec c statement)⟩]) := rfl

theorem meets_runStatement : ∃ outcome asked,
    meets driver (runStatement (some c) sql params style) connector log = ((outcome, connector), log ++ asked) ∧
      Ran c style sql params operation (raising sql operation outcome) asked := by
  unfold runStatement
  cases first : Sql.driverStatement sql params style with
  | error failure =>
    rw [meets_error (meets_ofOutcome (.error failure))]
    refine ⟨.error failure, [], by rw [List.append_nil], .unrendered ?_⟩
    rw [rendered, first]
    rfl
  | ok statement =>
    rw [meets_ok (meets_ofOutcome (.ok statement))]
    cases second : params.size with
    | error misuse =>
      have refused : meets driver (ofMisuse (.error misuse : Except Misuse Nat)) connector log =
        ((.error (.ofMisuse misuse), connector), log) := rfl
      rw [meets_error refused]
      refine ⟨.error (.ofMisuse misuse), [], by rw [List.append_nil], .unrendered ?_⟩
      rw [rendered, first, second]
      rfl
    | ok count =>
      have counted : meets driver (ofMisuse (.ok count : Except Misuse Nat)) connector log =
        ((.ok count, connector), log) := rfl
      have fine : rendered sql params style = .ok statement := by
        rw [rendered, first, second]
        rfl
      rw [meets_ok counted, meets_ok (meets_debug _)]
      refine ⟨resultBy (driver log (.exec c statement)), _, ?_, .asked fine (driver log (.exec c statement))⟩
      have asks := @meets_exec driver connector log c statement
      cases answered : driver log (.exec c statement) with
      | error failure =>
        rw [answered] at asks
        rw [meets_error asks]
        rfl
      | ok result =>
        rw [answered] at asks
        rw [meets_ok asks]
        rfl

/-! ### A transaction that has begun, and one that is over -/

/-- A transaction that holds a connection and runs nothing at the moment. -/
structure Active (n c : Nat) (style : Sql.ParamStyle) (connector : Connector) : Prop where
  inside : n < connector.transactions.length
  holds : ∃ served, connector.transactions.getD n {} = { connection := some c, begun := true, came := served, served }
  engine : connector.engine = some style

theorem meets_requireActive (active : (connector.transactions.getD n {}).isActive = true) :
    meets driver (requireActive n) connector log = ((.ok (), connector), log) := by
  unfold requireActive
  rw [meets_ok meets_transaction, active]
  rfl

theorem meets_requireActive_over (past : (connector.transactions.getD n {}).isActive = false) :
    meets driver (requireActive n) connector log = ((.error (.ofError .transactionClosed), connector), log) := by
  unfold requireActive
  rw [meets_ok meets_transaction, past]
  rfl

theorem meets_engineStyle (engine : connector.engine = some style) :
    meets driver engineStyle connector log = ((.ok style, connector), log) := by
  unfold engineStyle
  rw [meets_ok meets_look, engine]
  rfl

theorem meets_wait (number : Nat) :
    meets driver (ExceptT.lift (Task.waitFor (hasTurn n number)) : Linked Unit) connector log =
    ((.ok (), connector), log) := rfl

theorem Active.isActive (active : Active n c style connector) : (connector.transactions.getD n {}).isActive = true := by
  obtain ⟨served, holds⟩ := active.holds
  rw [holds]
  rfl

theorem Active.executes (active : Active n c style connector) : ∃ outcome after asked,
    meets driver (executeIn n sql params operation) connector log = ((outcome, after), log ++ asked) ∧
      Ran c style sql params operation outcome asked ∧ Active n c style after := by
  obtain ⟨served, holds⟩ := active.holds
  let busy := alter n (fun t => { t with came := t.came + 1 }) connector
  have inside : n < busy.transactions.length := alter_length.symm ▸ active.inside
  have held : busy.transactions.getD n {} = { connection := some c, begun := true, came := served + 1, served } := by
    rw [alter_getD active.inside, holds]
  have engine : busy.engine = some style := active.engine
  obtain ⟨outcome, asked, ran, law⟩ := @meets_runStatement driver busy log c style sql operation params
  have body : meets driver (do
      let connection := (← transaction n).connection
      let style ← engineStyle
      runStatement connection sql params style) busy log = ((outcome, busy), log ++ asked) := by
    rw [meets_ok meets_transaction, held]
    dsimp only
    rw [meets_ok (meets_engineStyle engine), ran]
  unfold executeIn
  rw [meets_ok (meets_requireActive active.isActive), meets_ok meets_transaction, meets_ok (meets_changeTransaction _),
    meets_ok (meets_wait _), meets_ok (meets_kept body), meets_ok (meets_changeTransaction _), meets_ofOutcome]
  refine ⟨_, _, asked, rfl, law, alter_length.symm ▸ inside, ⟨served + 1, ?_⟩, engine⟩
  rw [alter_getD inside, held]

/-! ### Ends -/

def Over (n : Nat) (connector : Connector) : Prop := (connector.transactions.getD n {}).isActive = false

theorem meets_closeConnection (holds : (connector.transactions.getD n {}).connection = some c) : ∃ closing : Outcome Unit,
    meets driver (closeConnection n) connector log =
      ((.ok (), alter n (fun t => { t with connection := none, begun := false }) connector),
        log ++ [⟨.close c, closing⟩]) := by
  unfold closeConnection
  rw [meets_ok meets_transaction, holds]
  dsimp only
  have closes : meets driver (close c) connector log =
    ((driver log (.close c), connector), log ++ [⟨.close c, driver log (.close c)⟩]) := rfl
  refine ⟨driver log (.close c), ?_⟩
  -- That the connection cannot be closed is only logged.
  have closed : meets driver (tryCatch (close c) fun _ => warn "Failed to close SQLAlchemy connection") connector log =
      ((.ok (), connector), log ++ [⟨.close c, driver log (.close c)⟩]) := by
    cases answered : driver log (.close c) with
    | ok _ =>
      rw [answered] at closes
      exact meets_tryCatch_ok closes _
    | error failure =>
      rw [answered] at closes
      exact meets_tryCatch_error closes _
  rw [meets_ok closed, meets_changeTransaction]

/-- An end gives the connection back, whatever state the engine is in. -/
theorem meets_finish (inside : n < connector.transactions.length)
    (holds : (connector.transactions.getD n {}).connection = some c)
    (active : (connector.transactions.getD n {}).isActive = true) {ending : Nat → Linked Unit} {answer : Outcome Unit}
    {exchange : Asked} (came : meets driver (ending c) connector log = ((answer, connector), log ++ [exchange])) :
    ∃ closing : Outcome Unit, meets driver (finish n operation ending) connector log =
      ((raising "" operation answer,
          alter n (fun t => { t with connection := none, begun := false, finished := true }) connector),
        log ++ [exchange, ⟨.close c, closing⟩]) := by
  let marked := alter n (fun t => { t with finished := true }) connector
  have held : (marked.transactions.getD n {}).connection = some c := by
    rw [alter_getD inside]
    exact holds
  obtain ⟨closing, closed⟩ := @meets_closeConnection driver marked (log ++ [exchange]) n c held
  have looked := @meets_transaction driver connector log n
  unfold finish
  rw [meets_ok (meets_requireActive active), meets_ok looked]
  dsimp only
  rw [holds, meets_ok (meets_kept came), meets_ok (meets_changeTransaction _), meets_ok closed, meets_ofOutcome]
  refine ⟨closing, ?_⟩
  rw [List.append_assoc]
  refine congrArg (fun transactions => ((_, ({ connector with transactions } : Connector)), _)) ?_
  exact List.modify_modify_eq ..

theorem Active.finishes (active : Active n c style connector) {ending : Nat → Linked Unit} {answer : Outcome Unit}
    {exchange : Asked} (came : meets driver (ending c) connector log = ((answer, connector), log ++ [exchange])) :
    ∃ (after : Connector) (closing : Outcome Unit), meets driver (finish n operation ending) connector log =
      ((raising "" operation answer, after), log ++ [exchange, ⟨.close c, closing⟩]) ∧ Over n after := by
  obtain ⟨served, holds⟩ := active.holds
  obtain ⟨closing, ended⟩ := @meets_finish driver connector log n c operation active.inside (by rw [holds]) active.isActive
    ending answer exchange came
  refine ⟨_, closing, ended, ?_⟩
  rw [Over, alter_getD active.inside]
  rfl

inductive Ending where
  | commit
  | rollback
  deriving DecidableEq

namespace Ending

def task (n : Nat) : Ending → Linked Unit
  | commit => commitTransaction n
  | rollback => rollbackTransaction n

def exchange (c : Nat) (answer : Outcome Unit) : Ending → Asked
  | commit => ⟨.commit c, answer⟩
  | rollback => ⟨.rollback c, answer⟩

def label : Ending → String
  | commit => "transaction commit"
  | rollback => "transaction rollback"

theorem meets_task (active : Active n c style connector) (ending : Ending) :
    ∃ (answer closing : Outcome Unit) (after : Connector), meets driver (ending.task n) connector log =
      ((raising "" ending.label answer, after), log ++ [ending.exchange c answer, ⟨.close c, closing⟩]) ∧
        Over n after := by
  cases ending with
  | commit =>
    obtain ⟨after, closing, came, past⟩ := @Active.finishes driver connector log n c style "transaction commit" active
      Connector.commit (driver log (.commit c)) ⟨.commit c, driver log (.commit c)⟩ rfl
    exact ⟨_, closing, after, came, past⟩
  | rollback =>
    obtain ⟨after, closing, came, past⟩ := @Active.finishes driver connector log n c style "transaction rollback" active
      Connector.rollback (driver log (.rollback c)) ⟨.rollback c, driver log (.rollback c)⟩ rfl
    exact ⟨_, closing, after, came, past⟩

theorem meets_task_over (past : Over n connector) (ending : Ending) :
    meets driver (ending.task n) connector log = ((.error (.ofError .transactionClosed), connector), log) := by
  cases ending <;> exact meets_error (meets_requireActive_over past) _

end Ending

/-! ### Calls one after another -/

inductive TransactionCall where
  | execute (sql : String) (params : Value) (operation : String)
  | finish (ending : Ending)

def TransactionCall.task (n : Nat) : TransactionCall → Linked (Option StatementResult)
  | .execute sql params operation => do return some (← executeIn n sql params operation)
  | .finish ending => do
    ending.task n
    return none

/-- A call of a user of a transaction, with what it came to and what was asked of the driver for it. -/
abbrev Served := Step TransactionCall Connector EngineCall EngineCall.Answer (Outcome (Option StatementResult))

/-- The calls of a user of a transaction, each made when the one before it has ended. -/
abbrev servedOf (driver : Driver) (n : Nat) : List TransactionCall → Connector → List Asked → List Served :=
  stepsOf driver fun request => (TransactionCall.task n request).run

/-- An end is tried once and then the connection is closed. Only what became of the try is told. -/
inductive Ended (c : Nat) : Served → Prop
  | tried (ending : Ending) (before : Connector) (answer closing : Outcome Unit) :
    Ended c ⟨.finish ending, before, raising "" ending.label (answer.map fun _ => none),
      [ending.exchange c answer, ⟨.close c, closing⟩]⟩

/-- A call that is refused without asking the driver. -/
def Refused (step : Served) : Prop := step.result = .error (.ofError .transactionClosed) ∧ step.asked = []

/-- The life of a transaction on a connection: statements, one end, and refusals from then on. -/
inductive Lives (c : Nat) (style : Sql.ParamStyle) : List Served → Prop
  | still : Lives c style []
  | served {sql : String} {params : Value} {operation : String} {before : Connector} {outcome : Outcome StatementResult}
    {asked : List Asked} {rest : List Served} (ran : Ran c style sql params operation outcome asked)
    (later : Lives c style rest) : Lives c style (⟨.execute sql params operation, before, outcome.map some, asked⟩ :: rest)
  | ended {step : Served} {rest : List Served} (ends : Ended c step) (past : ∀ later ∈ rest, Refused later) :
    Lives c style (step :: rest)

theorem meets_task_over (past : Over n connector) (request : TransactionCall) :
    meets driver (request.task n) connector log = ((.error (.ofError .transactionClosed), connector), log) := by
  cases request with
  | execute sql params operation => exact meets_error (meets_error (meets_requireActive_over past) _) _
  | finish ending => exact meets_error (ending.meets_task_over past) _

theorem refused_servedOf (past : Over n connector) (requests : List TransactionCall) :
    ∀ step ∈ servedOf driver n requests connector log, Refused step := by
  induction requests with
  | nil => exact fun step member => absurd member (by simp [stepsOf])
  | cons request rest ih =>
    have refused : against driver (TransactionCall.task n request).run connector log = _ := meets_task_over past request
    rw [servedOf, stepsOf, refused]
    intro step member
    rcases List.mem_cons.1 member with rfl | later
    · exact ⟨rfl, List.drop_length⟩
    · exact ih step later

theorem Active.lives (active : Active n c style connector) (requests : List TransactionCall) :
    Lives c style (servedOf driver n requests connector log) := by
  induction requests generalizing connector log with
  | nil => exact .still
  | cons request rest ih =>
    rw [servedOf, stepsOf]
    cases request with
    | execute sql params operation =>
      obtain ⟨outcome, after, asked, came, ran, still⟩ :=
        @Active.executes driver connector log n c style sql operation params active
      have made : against driver (TransactionCall.task n (.execute sql params operation)).run connector log =
          ((outcome.map some, after), log ++ asked) := by
        cases outcome with
        | ok result => exact meets_ok came _
        | error failure => exact meets_error came _
      rw [made]
      dsimp only
      rw [List.drop_left]
      exact .served ran (ih still)
    | finish ending =>
      obtain ⟨answer, closing, after, came, past⟩ := @Ending.meets_task driver connector log n c style active ending
      have made : against driver (TransactionCall.task n (.finish ending)).run connector log =
          ((raising "" ending.label (answer.map fun _ => none), after),
            log ++ [ending.exchange c answer, ⟨.close c, closing⟩]) := by
        cases answer with
        | ok _ => exact meets_ok came _
        | error failure => exact meets_error came _
      rw [made]
      dsimp only
      rw [List.drop_left]
      exact .ended (.tried ending connector answer closing) (refused_servedOf past rest)

/-! ### The start -/

/-- The engine is made, which takes no connection. -/
def Makes (asked : List Asked) : Prop := ∀ exchange ∈ asked, ∃ name options, exchange.call = .create name options

theorem Makes.nil : Makes [] := fun _ member => absurd member List.not_mem_nil

theorem meets_createEngine : ∃ outcome after made, meets driver createEngine connector log = ((outcome, after), log ++ made) ∧
    Makes made ∧ after.transactions = connector.transactions ∧ (outcome.isOk → after.engine.isSome) := by
  unfold createEngine
  rw [meets_ok meets_look]
  cases target connector.toolkit connector.url with
  | error failure =>
    have unknown := @meets_ofOutcome driver connector log _ (.error failure : Outcome Target)
    exact ⟨.error failure, connector, [], (meets_error unknown _).trans (by rw [List.append_nil]), .nil, rfl, nofun⟩
  | ok target =>
    rw [meets_ok (meets_ofOutcome _), meets_ok (meets_change _)]
    generalize renamed : ({ connector with dialect := target.dialect, driver := target.driver } : Connector) = named
    have same : named.transactions = connector.transactions := by rw [← renamed]
    cases engineOptions target connector.options with
    | error misuse =>
      have refused : meets driver (ofMisuse (.error misuse : Except Misuse (List (Value × Value)))) named log =
        ((.error (.ofMisuse misuse), named), log) := rfl
      exact ⟨.error (.ofMisuse misuse), named, [], (meets_error refused _).trans (by rw [List.append_nil]), .nil, same, nofun⟩
    | ok options =>
      have chosen : meets driver (ofMisuse (.ok options : Except Misuse (List (Value × Value)))) named log =
        ((.ok options, named), log) := rfl
      rw [meets_ok chosen]
      have creates : meets driver (create target.name options) named log =
        ((driver log (.create target.name options), named),
          log ++ [⟨.create target.name options, driver log (.create target.name options)⟩]) := rfl
      have made : Makes [⟨.create target.name options, driver log (.create target.name options)⟩] := by
        intro exchange member
        rw [List.mem_singleton.1 member]
        exact ⟨_, _, rfl⟩
      cases answered : driver log (.create target.name options) with
      | error failure =>
        rw [answered] at creates made
        exact ⟨.error failure, named, _, meets_error creates _, made, same, nofun⟩
      | ok style =>
        rw [answered] at creates made
        rw [meets_ok creates, meets_ok (meets_change _), meets_debug]
        exact ⟨_, _, _, rfl, made, same, fun _ => rfl⟩

theorem meets_engineStyle_made : ∃ outcome after made,
    meets driver engineStyle connector log = ((outcome, after), log ++ made) ∧
    Makes made ∧ after.transactions = connector.transactions ∧ (outcome.isOk → after.engine.isSome) := by
  cases engine : connector.engine with
  | some style =>
    exact ⟨_, _, [], by rw [meets_engineStyle engine, List.append_nil], .nil, rfl,
      fun _ => by rw [engine]; rfl⟩
  | none =>
    obtain ⟨outcome, after, made, came, makes, same, engine'⟩ := @meets_createEngine driver connector log
    have looked := @meets_look driver connector log
    unfold engineStyle
    rw [meets_ok looked, engine]
    cases outcome with
    | error failure =>
      rw [meets_error came]
      exact ⟨_, _, made, rfl, makes, same, fun fine => by cases fine⟩
    | ok _ =>
      rw [meets_ok came, meets_ok meets_look]
      exact ⟨_, _, made, rfl, makes, same, engine'⟩

/-- How a transaction starts and which connection it then holds: no connection is had; or one is had but no transaction
begins on it, and it is closed at once; or the transaction has begun. -/
inductive Starts (n : Nat) : Outcome Nat → Option Nat → List Asked → Prop
  | unmade {failure : Failure} {made : List Asked} (makes : Makes made) : Starts n (.error failure) none made
  | unconnected {failure : Failure} {made : List Asked} (makes : Makes made) :
    Starts n (.error (failure.raisedAs "" "transaction begin")) none (made ++ [⟨.connect, (.error failure : Outcome Nat)⟩])
  | unbegun {failure : Failure} {made : List Asked} {c : Nat} (closing : Outcome Unit) (makes : Makes made) :
    Starts n (.error (failure.raisedAs "" "transaction begin")) none
      (made ++ [⟨.connect, (.ok c : Outcome Nat)⟩, ⟨.begin c, (.error failure : Outcome Unit)⟩, ⟨.close c, closing⟩])
  | begun {made : List Asked} {c : Nat} (makes : Makes made) :
    Starts n (.ok n) (some c) (made ++ [⟨.connect, (.ok c : Outcome Nat)⟩, ⟨.begin c, (.ok () : Outcome Unit)⟩])

theorem meets_closeConnection_none (none : (connector.transactions.getD n {}).connection = none) :
    meets driver (closeConnection n) connector log = ((.ok (), connector), log) := by
  unfold closeConnection
  rw [meets_ok meets_transaction, none]
  rfl

/-- The state of a connector in which a transaction has not started. -/
structure Unstarted (n : Nat) (connector : Connector) : Prop where
  inside : n < connector.transactions.length
  fresh : connector.transactions.getD n {} = {}

/-- A start that fails leaves the transaction as it was. -/
theorem Unstarted.starts_framed (unstarted : Unstarted n connector) : ∃ outcome after held asked,
    meets driver (start n) connector log = ((outcome, after), log ++ asked) ∧ Starts n (outcome.map fun _ => n) held asked ∧
      after.transactions = connector.transactions.modify n (fun _ => { connection := held, begun := held.isSome }) ∧
      (held.isSome → after.engine.isSome) := by
  obtain ⟨engine, made, creations, prepared, makes, same, ready⟩ := @meets_engineStyle_made driver connector log
  have inside : n < made.transactions.length := same ▸ unstarted.inside
  have fresh : made.transactions.getD n {} = {} := same ▸ unstarted.fresh
  have unchanged : made.transactions = connector.transactions.modify n fun _ => {} := by
    refine same.trans (List.ext_getElem? fun m => ?_)
    rw [List.getElem?_modify]
    by_cases own : n = m
    · subst own
      have here := unstarted.fresh
      rw [List.getD_eq_getElem?_getD, List.getElem?_eq_getElem unstarted.inside] at here
      simpa [unstarted.inside] using here
    · simp [own]
  let take : Linked Unit := do
    let connection ← connect
    changeTransaction n fun t => { t with connection := some connection }
    begin connection
    changeTransaction n fun t => { t with begun := true }
  let give (failure : Failure) : Linked Unit := do
    closeConnection n
    throw failure
  have whole : start n = diagnosing "" "transaction begin" (tryCatch (discard engineStyle >>= fun _ => take) give) := rfl
  rw [whole]
  -- What could not be taken is not given back.
  have gives : ∀ {s later} failure, (s.transactions.getD n {}).connection = none →
      meets driver (give failure) s later = ((.error failure, s), later) :=
    fun failure none => meets_ok (meets_closeConnection_none none) _
  cases engine with
  | error failure =>
    have body := meets_error (meets_error prepared fun _ => pure ()) fun _ => take
    have caught := (meets_tryCatch_error body give).trans (gives failure (by rw [fresh]))
    exact ⟨_, _, none, creations, meets_diagnosing "" "transaction begin" caught, .unmade makes, unchanged, nofun⟩
  | ok style =>
    have body := meets_ok (meets_ok prepared fun _ => pure ()) fun _ => take
    have connects : meets driver connect made (log ++ creations) = ((driver (log ++ creations) .connect, made),
      log ++ creations ++ [⟨.connect, driver (log ++ creations) .connect⟩]) := rfl
    cases connected : driver (log ++ creations) .connect with
    | error failure =>
      rw [connected] at connects
      have failed := body.trans (meets_error connects _)
      have caught := (meets_tryCatch_error failed give).trans (gives failure (by rw [fresh]))
      refine ⟨_, _, none, _, (meets_diagnosing "" "transaction begin" caught).trans (by rw [List.append_assoc]),
        .unconnected makes, unchanged, nofun⟩
    | ok c =>
      rw [connected] at connects
      let holding := alter n (fun t => { t with connection := some c }) made
      have held : holding.transactions.getD n {} = { connection := some c } := by rw [alter_getD inside, fresh]
      have took := body.trans ((meets_ok connects _).trans (meets_ok (meets_changeTransaction _) _))
      generalize before : log ++ creations ++ [⟨.connect, (.ok c : Outcome Nat)⟩] = later at took
      have begins : meets driver (begin c) holding later = ((driver later (.begin c), holding),
        later ++ [⟨.begin c, driver later (.begin c)⟩]) := rfl
      cases begun : driver later (.begin c) with
      | error failure =>
        rw [begun] at begins
        have failed := took.trans (meets_error begins _)
        obtain ⟨closing, closed⟩ := @meets_closeConnection driver holding (later ++ [⟨.begin c, .error failure⟩]) n c
          (by rw [held])
        have caught := (meets_tryCatch_error failed give).trans (meets_ok closed _)
        have diagnosed := meets_diagnosing "" "transaction begin" caught
        simp only [← before, List.append_assoc] at diagnosed
        refine ⟨_, _, none, _, diagnosed, .unbegun closing makes, ?_, nofun⟩
        show List.modify (List.modify made.transactions n _) n _ = _
        rw [unchanged]
        simp only [List.modify_modify_eq]
        rfl
      | ok _ =>
        rw [begun] at begins
        have started := meets_tryCatch_ok (took.trans ((meets_ok begins _).trans (meets_changeTransaction _))) give
        have diagnosed := meets_diagnosing "" "transaction begin" started
        simp only [← before, List.append_assoc] at diagnosed
        refine ⟨_, _, some c, _, diagnosed, .begun makes, ?_, fun _ => ready rfl⟩
        show List.modify (List.modify made.transactions n _) n _ = _
        rw [unchanged]
        simp only [List.modify_modify_eq]
        rfl

theorem Unstarted.starts (unstarted : Unstarted n connector) : ∃ outcome after held asked,
    meets driver (start n) connector log = ((outcome, after), log ++ asked) ∧
      Starts n (outcome.map fun _ => n) held asked ∧ ∀ c, held = some c → ∃ style, Active n c style after := by
  obtain ⟨outcome, after, held, asked, came, starts, changed, ready⟩ := @starts_framed driver connector log n unstarted
  refine ⟨outcome, after, held, asked, came, starts, ?_⟩
  rintro c rfl
  obtain ⟨style, engine⟩ := Option.isSome_iff_exists.1 (ready rfl)
  refine ⟨style, ?_, ⟨0, ?_⟩, engine⟩
  · rw [changed, List.length_modify]
    exact unstarted.inside
  · rw [changed]
    simp [unstarted.inside]

/-! ### The whole life -/

def isEnd (exchange : Asked) : Bool :=
  match exchange.call with
  | .commit _ | .rollback _ => true
  | _ => false

def closes (c : Nat) (exchange : Asked) : Bool :=
  match exchange.call with
  | .close connection => connection = c
  | _ => false

theorem askedIn_refused {steps : List Served} (refused : ∀ step ∈ steps, Refused step) : askedIn steps = [] :=
  List.flatMap_eq_nil_iff.2 fun step member => (refused step member).2

theorem Ran.silent {outcome : Outcome StatementResult} {asked : List Asked}
    (ran : Ran c style sql params operation outcome asked) : asked.countP isEnd = 0 ∧ asked.countP (closes c) = 0 := by
  cases ran <;> exact ⟨rfl, rfl⟩

theorem Ended.counts {step : Served} (ended : Ended c step) :
    step.asked.countP isEnd = 1 ∧ step.asked.countP (closes c) = 1 := by
  obtain ⟨ending, _, answer, closing⟩ := ended
  cases ending <;> exact ⟨rfl, by simp [Ending.exchange, closes]⟩

/-- Among all calls to the driver is one commit or rollback at most, and the connection is closed as often. -/
theorem Lives.counts {steps : List Served} (lives : Lives c style steps) :
    (askedIn steps).countP isEnd ≤ 1 ∧ (askedIn steps).countP (closes c) = (askedIn steps).countP isEnd := by
  induction lives with
  | still => exact ⟨Nat.zero_le 1, rfl⟩
  | served ran _ ih =>
    obtain ⟨ends, closings⟩ := ran.silent
    simpa [askedIn, List.countP_append, ends, closings] using ih
  | ended ends past =>
    obtain ⟨one, same⟩ := ends.counts
    have rest := askedIn_refused past
    simp only [askedIn, List.flatMap_cons, List.countP_append] at rest ⊢
    rw [rest, one, same]
    exact ⟨Nat.le_refl 1, rfl⟩

/-- Whatever the driver answers, a transaction starts with a connection or not at all, and then it runs statements, one
end and nothing more, of which every failure but that to close the connection is told. -/
theorem transaction_lifetime (driver : Driver) (connector : Connector) (log : List Asked) :
    ∃ outcome after held asked, meets driver beginTransaction connector log = ((outcome, after), log ++ asked) ∧
      Starts connector.transactions.length outcome held asked ∧ ∀ c, held = some c → ∃ style, ∀ requests,
        let steps := servedOf driver connector.transactions.length requests after (log ++ asked)
        steps.map (·.made) = requests ∧ Lives c style steps ∧ (askedIn steps).countP isEnd ≤ 1 ∧
          (askedIn steps).countP (closes c) = (askedIn steps).countP isEnd := by
  let entered : Connector := { connector with transactions := connector.transactions ++ [{}] }
  have unstarted : Unstarted connector.transactions.length entered := ⟨by simp [entered], by simp [entered]⟩
  obtain ⟨outcome, after, held, asked, started, starts, active⟩ := @Unstarted.starts driver entered log _ unstarted
  have begins : meets driver beginTransaction connector log =
      ((outcome.map fun _ => connector.transactions.length, after), log ++ asked) := by
    have numbered : meets driver newTransaction connector log = ((.ok connector.transactions.length, entered), log) := rfl
    unfold beginTransaction
    rw [meets_ok numbered]
    cases outcome with
    | ok _ => exact meets_ok started _
    | error failure => exact meets_error started _
  refine ⟨_, after, held, asked, begins, starts, fun c holds => ?_⟩
  obtain ⟨style, active⟩ := active c holds
  refine ⟨style, fun requests => ?_⟩
  have lives := @Active.lives driver after (log ++ asked) _ c style active requests
  exact ⟨made_stepsOf requests, lives, lives.counts⟩

end RecordStore.Connector
