import RecordStore.Proofs.Connector.Lifetime
import RecordStore.Proofs.Store.Course
import RecordStore.Proofs.Store.Diagnosis

/-!
# Failures of the driver while a statement runs

When the driver fails while a statement runs, on a connection of its own or in a transaction, then the statement fails, and
what is raised for it is what the last failure of the driver is raised as. There is more than one only where a rollback
fails too. Nothing that others do with the connector in the meantime changes that.
-/

namespace RecordStore.Connector

open RecordStore.Task

variable {sql operation : String} {α β : Type}

/-! ### The last failure -/

def failureOf (outcome : Outcome α) : Option Failure :=
  match outcome with
  | .ok _ => none
  | .error failure => some failure

/-- The failure that an answer of the driver is. -/
def failed? : (exchange : Asked) → Option Failure
  | ⟨.create .., answer⟩ => failureOf (answer : Outcome Sql.ParamStyle)
  | ⟨.disposeEngine, answer⟩ => failureOf (answer : Outcome Unit)
  | ⟨.checkout, answer⟩ => failureOf (answer : Outcome Nat)
  | ⟨.connect, answer⟩ => failureOf (answer : Outcome Nat)
  | ⟨.begin _, answer⟩ => failureOf (answer : Outcome Unit)
  | ⟨.commit _, answer⟩ => failureOf (answer : Outcome Unit)
  | ⟨.rollback _, answer⟩ => failureOf (answer : Outcome Unit)
  | ⟨.close _, answer⟩ => failureOf (answer : Outcome Unit)
  | ⟨.exec .., answer⟩ => failureOf (answer : Outcome DriverResult)

def lastFailure (asked : List Asked) : Option Failure := (asked.filterMap failed?).getLast?

theorem lastFailure_append (asked more : List Asked) :
    lastFailure (asked ++ more) = (lastFailure more).or (lastFailure asked) := by
  rw [lastFailure, List.filterMap_append, List.getLast?_append]
  rfl

theorem lastFailure_single (exchange : Asked) : lastFailure [exchange] = failed? exchange := by
  cases found : failed? exchange <;> simp [lastFailure, found]

/-! ### Operations that pass failures on -/

/-- Whether a failure to answer is told to the caller. That a connection cannot be closed is only logged. -/
def tells : Asked → Bool
  | ⟨.close _, _⟩ => false
  | _ => true

/-- An operation that ends with the last failure of the driver among the answers that count, if there is one, raised in
some way. -/
def PassesOn (counts : Asked → Bool) (raise : Failure → Failure) (operation : Linked α) : Prop :=
  ∀ asked outcome, operation.run.Goes asked outcome → ∀ x, lastFailure (asked.filter counts) = some x →
    outcome = .error (raise x)

variable {counts : Asked → Bool} {raise : Failure → Failure}

theorem lastFailure_filter_append (asked more : List Asked) : lastFailure ((asked ++ more).filter counts) =
    (lastFailure (more.filter counts)).or (lastFailure (asked.filter counts)) := by
  rw [List.filter_append, lastFailure_append]

theorem lastFailure_filter_single {exchange : Asked} (told : counts exchange) :
    lastFailure ([exchange].filter counts) = failed? exchange := by
  rw [List.filter_cons_of_pos told, List.filter_nil, lastFailure_single]

theorem silent_transaction (n : Nat) : Silent (transaction n) := silent_get.bind fun _ => silent_pure _

theorem silent_requireActive (n : Nat) : Silent (requireActive n) := by
  refine (silent_transaction n).bind fun transaction => ?_
  cases transaction.isActive with
  | true => exact silent_pure ()
  | false => exact silent_throw _

theorem passesOn_silent {operation : Linked α} (silent : Silent operation) : PassesOn counts raise operation := by
  intro asked outcome goes x last
  rw [silent asked outcome goes] at last
  cases last

/-- What comes after an operation that asks nothing passes on all failures there are. -/
theorem PassesOn.after {operation : Linked α} {f : α → Linked β} (rest : ∀ a, PassesOn counts raise (f a))
    (silent : Silent operation) : PassesOn counts raise (operation >>= f) := by
  intro asked outcome goes x last
  obtain ⟨first, own, more, rfl, went, goes⟩ := goes_bind_run goes
  rw [silent first own went, List.nil_append] at last
  cases own with
  | ok a => exact rest a more outcome goes x last
  | error failure =>
    rw [goes.1] at last
    cases last

theorem PassesOn.bind {operation : Linked α} {f : α → Linked β} (first : PassesOn counts id operation)
    (rest : ∀ a, PassesOn counts id (f a)) : PassesOn counts id (operation >>= f) := by
  intro asked outcome goes x last
  obtain ⟨before, own, more, rfl, went, goes⟩ := goes_bind_run goes
  cases own with
  | error failure =>
    obtain ⟨rfl, rfl⟩ := goes
    rw [List.append_nil] at last
    cases first before _ went x last
    rfl
  | ok a =>
    rw [lastFailure_filter_append, Option.or_eq_some_iff] at last
    rcases last with later | ⟨_, earlier⟩
    · exact rest a more outcome goes x later
    · cases first before _ went x earlier

theorem PassesOn.diagnosing {body : Linked α} (inner : PassesOn counts id body) (sql operation : String) :
    PassesOn counts (·.raisedAs sql operation) (diagnosing sql operation body) := by
  intro asked outcome goes x last
  obtain ⟨before, own, more, rfl, went, goes⟩ := goes_tryCatch goes
  cases own with
  | ok a =>
    obtain ⟨rfl, rfl⟩ := goes
    rw [List.append_nil] at last
    cases inner before _ went x last
  | error failure =>
    obtain ⟨rfl, rfl⟩ := goes
    rw [List.append_nil] at last
    cases inner before _ went x last
    rfl

/-! ### Statements -/

section
variable (told : ∀ exchange, tells exchange → counts exchange)
include told

theorem passesOn_asking {operation : Linked α} (asks : ∀ asked outcome, operation.run.Goes asked outcome →
    ∃ exchange, asked = [exchange] ∧ tells exchange ∧ failed? exchange = failureOf outcome) :
    PassesOn counts id operation := by
  intro asked outcome goes x last
  obtain ⟨exchange, rfl, own, same⟩ := asks asked outcome goes
  rw [lastFailure_filter_single (told exchange own), same] at last
  cases outcome with
  | ok a => cases last
  | error failure => exact congrArg Except.error (Option.some.inj last)

theorem passesOn_create (name : String) (options : List (Value × Value)) : PassesOn counts id (create name options) :=
  passesOn_asking told fun _ _ goes => ⟨_, goes_perform goes, rfl, rfl⟩

theorem passesOn_checkout : PassesOn counts id checkout :=
  passesOn_asking told fun _ _ goes => ⟨_, goes_perform goes, rfl, rfl⟩

theorem passesOn_commit (connection : Nat) : PassesOn counts id (commit connection) :=
  passesOn_asking told fun _ _ goes => ⟨_, goes_perform goes, rfl, rfl⟩

theorem passesOn_exec (connection : Nat) (statement : Sql.DriverStatement) :
    PassesOn counts id (exec connection statement) :=
  passesOn_asking told fun _ _ goes => ⟨_, goes_perform goes, rfl, rfl⟩

theorem passesOn_createEngine : PassesOn counts id createEngine := by
  unfold createEngine
  refine .after (fun connector => ?_) silent_get
  refine .after (fun target => .after (fun _ => ?_) (silent_modify _)) (silent_outcome _)
  refine .after (fun options => (passesOn_create told _ _).bind fun style => ?_) (silent_outcome _)
  exact .after (fun _ => passesOn_silent (silent_log _ _ _)) (silent_modify _)

theorem passesOn_engineStyle : PassesOn counts id engineStyle := by
  unfold engineStyle
  refine .after (fun connector => ?_) silent_get
  cases connector.engine with
  | some style => exact passesOn_silent (silent_pure style)
  | none => exact (passesOn_createEngine told).bind fun _ => .after (fun _ => passesOn_silent (silent_pure _)) silent_get

theorem passesOn_runStatement (connection : Option Nat) (sql : String) (params : Value) (style : Sql.ParamStyle) :
    PassesOn counts id (runStatement connection sql params style) := by
  unfold runStatement
  refine .after (fun statement => .after (fun count => ?_) (silent_outcome _)) (silent_outcome _)
  refine .after (fun _ => ?_) (silent_log _ _ _)
  cases connection with
  | none => exact passesOn_silent (silent_throw _)
  | some connection => exact (passesOn_exec told connection statement).bind fun result => passesOn_silent (silent_outcome _)

/-- A body whose connection is rolled back when it fails. Where that fails as well, its failure is the last one. -/
theorem PassesOn.rolledBack {body : Linked α} (first : PassesOn counts id body) (connection : Nat) :
    PassesOn counts id (tryCatch body fun failure => do
      rollback connection
      throw failure) := by
  intro asked outcome goes x last
  obtain ⟨before, own, more, rfl, went, goes⟩ := goes_tryCatch goes
  cases own with
  | ok a =>
    obtain ⟨rfl, rfl⟩ := goes
    rw [List.append_nil] at last
    cases first before _ went x last
  | error failure =>
    obtain ⟨_, answer, rest, rfl, asks, thrown⟩ := goes_bind_run goes
    obtain rfl := goes_perform asks
    have one : lastFailure (List.filter counts [⟨.rollback connection, answer⟩]) = failureOf answer :=
      lastFailure_filter_single (told _ rfl)
    cases answer with
    | ok _ =>
      obtain ⟨rfl, rfl⟩ := thrown
      rw [List.append_nil, lastFailure_filter_append, one] at last
      exact first before _ went x last
    | error second =>
      obtain ⟨rfl, rfl⟩ := thrown
      rw [List.append_nil, lastFailure_filter_append, one] at last
      exact congrArg Except.error (Option.some.inj last)

theorem passesOn_execute (sql : String) (params : Value) (operation : String) :
    PassesOn counts (·.raisedAs sql operation) (execute sql params operation) := by
  unfold execute
  refine PassesOn.diagnosing ?_ sql operation
  have ready : PassesOn counts id (discard engineStyle) :=
    (passesOn_engineStyle told).bind fun _ => passesOn_silent (silent_pure _)
  refine ready.bind fun _ => (passesOn_checkout told).bind fun connection => ?_
  have body : PassesOn counts id (do
      let style ← engineStyle
      runStatement (some connection) sql params style) :=
    (passesOn_engineStyle told).bind fun style => passesOn_runStatement told _ _ _ style
  refine (PassesOn.rolledBack told body connection).bind fun result => ?_
  exact (passesOn_commit told connection).bind fun _ => passesOn_silent (silent_pure _)

theorem passesOn_executeIn (n : Nat) (sql : String) (params : Value) (operation : String) :
    PassesOn counts (·.raisedAs sql operation) (executeIn n sql params operation) := by
  unfold executeIn
  refine .after (fun _ => .after (fun t => .after (fun _ => ?_) (silent_modify _)) (silent_transaction n))
    (silent_requireActive n)
  refine .after (fun _ => ?_) (silent_waitFor _)
  have body : PassesOn counts (·.raisedAs sql operation) (Connector.diagnosing sql operation do
      let connection := (← transaction n).connection
      let style ← engineStyle
      runStatement connection sql params style) := by
    refine PassesOn.diagnosing ?_ sql operation
    refine .after (fun t => ?_) (silent_transaction n)
    exact (passesOn_engineStyle told).bind fun style => passesOn_runStatement told _ _ _ style
  intro asked outcome goes x last
  -- The failure is kept until the connection has been let go.
  obtain ⟨_, own, _, rfl, keeps, serves⟩ := goes_bind_run goes
  obtain ⟨ran, result, _, rfl, went, rfl, same⟩ := goes_bind keeps
  cases same
  obtain ⟨_, _, _, rfl, ⟨_, rfl, rfl⟩, rfl, rfl⟩ := goes_bind_run serves
  rw [List.append_nil, List.append_nil, List.append_nil] at last
  exact body ran _ went x last

end

/-! ### The answers of a connector -/

theorem answer_execute {channel : Channel} {sql operation : String} {params : List Value} {asked : List Asked}
    {outcome : Outcome StatementResult} (goes : (answer (.execute channel sql params operation)).Goes asked outcome)
    {x : Failure} (last : lastFailure asked = some x) : outcome = .error (x.raisedAs sql operation) := by
  rw [← List.filter_true asked] at last
  cases channel with
  | pool => exact passesOn_execute (fun _ _ => rfl) sql _ operation asked outcome goes x last
  | transaction n => exact passesOn_executeIn (fun _ _ => rfl) n sql _ operation asked outcome goes x last

end RecordStore.Connector
