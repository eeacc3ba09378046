import RecordStore.Proofs.Connector.Failures
import RecordStore.Script.Url

/-!
# Failures of the driver surface

Whatever the driver fails at while a statement runs or a transaction starts or ends, the caller is told the last failure, as
what `raisedAs` makes of it. Only that a connection could not be closed is kept from the caller. What is told is an error of
the adapter exactly when the failure was one already or a report can be made of it; a detail that is a list of anything but
texts stands in the way of that.
-/

namespace RecordStore.Connector

open RecordStore.Task

variable {counts : Asked → Bool} {raise : Failure → Failure} {α β : Type} {sql label : String}

/-! ### Giving connections back -/

/-- An operation that never fails, and of what it asks nothing is told. -/
def Untold (operation : Linked Unit) : Prop :=
  ∀ asked outcome, operation.run.Goes asked outcome → outcome = .ok () ∧ asked.filter tells = []

theorem untold_silent {operation : Linked Unit} (silent : Silent operation)
    (fine : ∀ asked outcome, operation.run.Goes asked outcome → outcome = .ok ()) : Untold operation := by
  intro asked outcome goes
  rw [silent asked outcome goes]
  exact ⟨fine asked outcome goes, rfl⟩

theorem untold_change (f : Connector → Connector) : Untold (change f) := by
  refine untold_silent (silent_modify f) fun asked outcome goes => ?_
  obtain ⟨_, _, rfl⟩ := goes
  rfl

/-- What comes after such an operation goes as if it stood alone. -/
theorem Untold.goes {operation : Linked Unit} {next : Linked α} {asked : List Asked} {outcome : Outcome α}
    (untold : Untold operation) (goes : (operation >>= fun _ => next).run.Goes asked outcome) :
    ∃ more, asked.filter tells = more.filter tells ∧ next.run.Goes more outcome := by
  obtain ⟨before, own, more, rfl, went, goes⟩ := goes_bind_run goes
  obtain ⟨rfl, nothing⟩ := untold before own went
  exact ⟨more, by rw [List.filter_append, nothing, List.nil_append], goes⟩

theorem Untold.bind {operation next : Linked Unit} (first : Untold operation) (rest : Untold next) :
    Untold (operation >>= fun _ => next) := by
  intro asked outcome goes
  obtain ⟨more, same, goes⟩ := first.goes goes
  rw [same]
  exact rest more outcome goes

/-- That a connection cannot be closed is logged and forgotten. -/
theorem untold_closing (connection : Nat) (message : String) :
    Untold (tryCatch (close connection) fun _ => warn message) := by
  intro asked outcome goes
  obtain ⟨before, own, more, rfl, went, handled⟩ := goes_tryCatch goes
  obtain rfl := goes_perform went
  cases own <;> obtain ⟨rfl, rfl⟩ := handled <;> exact ⟨rfl, rfl⟩

theorem untold_closeConnection (n : Nat) : Untold (closeConnection n) := by
  intro asked outcome goes
  obtain ⟨before, own, more, rfl, went, goes⟩ := goes_bind_run goes
  obtain ⟨s, rfl, rfl⟩ := went
  dsimp only at goes
  cases held : (s.transactions.getD n {}).connection with
  | none =>
    rw [held] at goes
    exact untold_silent (silent_pure ()) (fun _ _ goes => And.right goes) more outcome goes
  | some connection =>
    rw [held] at goes
    exact (untold_closing connection _).bind (untold_change _) more outcome goes

/-! ### Starting and ending -/

theorem passesOn_connect : PassesOn tells id connect :=
  passesOn_asking (fun _ told => told) fun _ _ goes => ⟨_, goes_perform goes, rfl, rfl⟩

theorem passesOn_begin (connection : Nat) : PassesOn tells id (begin connection) :=
  passesOn_asking (fun _ told => told) fun _ _ goes => ⟨_, goes_perform goes, rfl, rfl⟩

theorem passesOn_rollback (connection : Nat) : PassesOn tells id (rollback connection) :=
  passesOn_asking (fun _ told => told) fun _ _ goes => ⟨_, goes_perform goes, rfl, rfl⟩

/-- What is done untold after a failure does not take its place. -/
theorem PassesOn.tidied {body : Linked α} (first : PassesOn tells id body) {tidy : Linked Unit} (untold : Untold tidy) :
    PassesOn tells id (tryCatch body fun failure => do
      tidy
      throw failure) := by
  intro asked outcome goes x last
  obtain ⟨before, own, more, rfl, went, goes⟩ := goes_tryCatch goes
  cases own with
  | ok a =>
    obtain ⟨rfl, rfl⟩ := goes
    rw [List.append_nil] at last
    cases first before _ went x last
  | error failure =>
    obtain ⟨cleared, same, rfl, rfl⟩ := untold.goes goes
    rw [List.filter_append, same, List.filter_nil, List.append_nil] at last
    exact first before _ went x last

theorem passesOn_start (n : Nat) : PassesOn tells (·.raisedAs "" "transaction begin") (start n) := by
  unfold start
  refine PassesOn.diagnosing (PassesOn.tidied ?_ (untold_closeConnection n)) _ _
  have ready : PassesOn tells id (discard engineStyle) :=
    (passesOn_engineStyle fun _ told => told).bind fun _ => passesOn_silent (silent_pure _)
  refine ready.bind fun _ => passesOn_connect.bind fun connection => ?_
  refine .after (fun _ => (passesOn_begin connection).bind fun _ => ?_) (silent_modify _)
  exact passesOn_silent (silent_modify _)

/-- Ending a transaction keeps what the ending came to until the connection has been given back. -/
theorem passesOn_finish (n : Nat) (operation : String) {ending : Nat → Linked Unit}
    (ends : ∀ connection, PassesOn tells id (ending connection)) :
    PassesOn tells (·.raisedAs "" operation) (finish n operation ending) := by
  unfold finish
  refine .after (fun _ => .after (fun t => ?_) (silent_transaction n)) (silent_requireActive n)
  dsimp only
  intro asked outcome goes x last
  obtain ⟨_, own, _, rfl, keeps, goes⟩ := goes_bind_run goes
  obtain ⟨ran, result, _, rfl, went, rfl, same⟩ := goes_bind keeps
  cases same
  obtain ⟨_, ended, goes⟩ := (untold_change _).goes goes
  obtain ⟨_, closed, rfl, rfl⟩ := (untold_closeConnection n).goes goes
  rw [List.append_nil, List.filter_append, ended, closed, List.filter_nil, List.append_nil] at last
  refine PassesOn.diagnosing ?_ "" operation ran _ went x last
  cases t.connection with
  | some connection => exact ends connection
  | none => exact passesOn_silent (silent_throw _)

/-! ### What the caller is told -/

/-- Against every driver an operation takes one of its courses; and in each of them the last failure that the driver tells
ends it, as what is raised for this failure. -/
structure Surfaces (sql label : String) (operation : Linked α) : Prop where
  ends : ∀ (driver : Driver) connector log, ∃ asked, (meets driver operation connector log).2 = log ++ asked ∧
    operation.run.Goes asked (meets driver operation connector log).1.1
  tells : ∀ asked outcome, operation.run.Goes asked outcome → ∀ x, lastFailure (asked.filter tells) = some x →
    ∃ raised, outcome = .error raised ∧ raised = x.raisedAs sql label ∧ x.SurfacesAs raised

theorem PassesOn.surfaces {operation : Linked α} (passes : PassesOn tells (·.raisedAs sql label) operation) :
    Surfaces sql label operation where
  ends driver := goes_against driver operation.run
  tells asked outcome goes x last := ⟨_, passes asked outcome goes x last, rfl, x.surfacesAs_raisedAs sql label⟩

theorem driver_failures_surface (n : Nat) (sql : String) (params : Value) (label : String) :
    Surfaces sql label (execute sql params label) ∧
    Surfaces "" "transaction begin" (start n) ∧
    Surfaces sql label (executeIn n sql params label) ∧
    Surfaces "" "transaction commit" (commitTransaction n) ∧
    Surfaces "" "transaction rollback" (rollbackTransaction n) := by
  refine ⟨?_, (passesOn_start n).surfaces, ?_, ?_, ?_⟩
  · exact (passesOn_execute (fun _ told => told) sql params label).surfaces
  · exact (passesOn_executeIn (fun _ told => told) n sql params label).surfaces
  · exact (passesOn_finish n _ (passesOn_commit fun _ told => told)).surfaces
  · exact (passesOn_finish n _ passesOn_rollback).surfaces

/-- A driver that hands out connections and fails at everything else that is told. -/
def failing (failure : Failure) : Driver
  | _, .create .. => (.ok .numericDollar : Outcome Sql.ParamStyle)
  | _, .disposeEngine => (.error failure : Outcome Unit)
  | _, .checkout => (.ok 0 : Outcome Nat)
  | _, .connect => (.ok 0 : Outcome Nat)
  | _, .begin _ => (.error failure : Outcome Unit)
  | _, .commit _ => (.error failure : Outcome Unit)
  | _, .rollback _ => (.ok () : Outcome Unit)
  | _, .close _ => (.error failure : Outcome Unit)
  | _, .exec .. => (.error failure : Outcome DriverResult)

/-- A failure of the driver with a detail. -/
def detailed (detail : Value) : Failure := .mk (.reported .operational "server closed") { detail := some detail } none none

/-- A transaction cannot begin, and then its connection cannot be closed either. -/
theorem failed_begin_surfaces :
    let x := detailed (.list [.text "no room", .text "for sessions"])
    ∃ asked outcome, (start 0).run.Goes asked outcome ∧ asked.filterMap failed? = [x, x] ∧
      lastFailure (asked.filter tells) = some x ∧
      ∃ raised, outcome = .error raised ∧ raised.cause = some x ∧ raised.storeError?.isSome := by
  intro x
  have surfaces := (driver_failures_surface 0 "" .null "").2.1
  obtain ⟨asked, grown, goes⟩ := surfaces.ends (failing x) { toolkit := Script.toolkit, engine := some .numericDollar, transactions := [{}] } []
  have last : lastFailure (asked.filter tells) = some x := by
    rw [← List.nil_append asked, ← grown]
    rfl
  obtain ⟨raised, same, _, surfaced⟩ := surfaces.tells asked _ goes x last
  have reportable : x.IsReportable := x.report_ok_iff.1 ⟨_, rfl⟩
  have twice : asked.filterMap failed? = [x, x] := by
    rw [← List.nil_append asked, ← grown]
    rfl
  exact ⟨asked, _, goes, twice, last, raised, same, surfaced.reported rfl reportable⟩

/-- A statement fails with a detail that lists a number. The failure does not surface; what is raised is no error of the
adapter. -/
theorem unjoinable_detail_escapes :
    let x := detailed (.list [.int 1])
    ∃ statement failure, meets (failing x) (execute "select 1" (.list []) "find") { toolkit := Script.toolkit, engine := some .numericDollar } [] =
        ((.error failure, { toolkit := Script.toolkit, engine := some .numericDollar }),
          [⟨.checkout, (.ok 0 : Outcome Nat)⟩, ⟨.exec 0 statement, (.error x : Outcome DriverResult)⟩,
            ⟨.rollback 0, (.ok () : Outcome Unit)⟩]) ∧
      x.error? = none ∧ failure = .ofMisuse (.notJoinable 0 "int") ∧ failure.error? = none := by
  exact ⟨_, _, rfl, rfl, rfl, rfl⟩

end RecordStore.Connector
