import RecordStore.Proofs.Adapter.Operations

/-!
# What each use of an adapter does

Everything that a use of an adapter or of one of its sessions can do: what it asks of the store, what it changes and what
comes out of it. Only the parent opens and closes the store and begins transactions; only the own session ends one.
-/

namespace RecordStore.Adapter

open RecordStore.Task

variable {store : Store} {adapter : Adapter} {party : Party} {state after : AdapterState} {log later : List Asked} {n : Nat}
  {channel : Channel} {α β : Type} {allowed : StoreCall → Prop}

/-! ### Connecting -/

def OnPool : StoreCall → Prop
  | .open .. => True
  | .execute channel .. => channel = .pool
  | _ => False

def RunsOnPool : StoreCall → Prop
  | .execute channel .. => channel = .pool
  | _ => False

theorem RunsOnPool.onPool {call : StoreCall} (runs : RunsOnPool call) : OnPool call := by
  cases call with
  | execute => exact runs
  | _ => cases runs

/-- An operation that makes no calls but these and leaves the sessions alone. -/
def Confined (allowed : StoreCall → Prop) (operation : Run α) (good : α → Prop) : Prop :=
  ∀ (store : Store) state log, ∃ outcome after asked, meets store operation state log = ((outcome, after), log ++ asked) ∧
    (∀ exchange ∈ asked, allowed exchange.call) ∧ after.sessions = state.sessions ∧ ∀ a, outcome = .ok a → good a

theorem Quiet.confined {operation : Run α} (quiet : Quiet operation) : Confined allowed operation fun _ => True := by
  intro store state log
  obtain ⟨outcome, came⟩ := quiet store state log
  exact ⟨outcome, state, [], came.trans (by rw [List.append_nil]), nofun, rfl, fun _ _ => trivial⟩

theorem Confined.bind {operation : Run α} {f : α → Run β} {good : α → Prop} {better : β → Prop}
    (first : Confined allowed operation good) (rest : ∀ a, good a → Confined allowed (f a) better) :
    Confined allowed (operation >>= f) better := by
  intro store state log
  obtain ⟨outcome, after, asked, came, own, same, fine⟩ := first store state log
  cases outcome with
  | error failure => exact ⟨_, after, asked, meets_error came f, own, same, nofun⟩
  | ok a =>
    obtain ⟨outcome, last, more, went, others, still, result⟩ := rest a (fine a rfl) store after (log ++ asked)
    refine ⟨outcome, last, asked ++ more, (meets_ok came f).trans (went.trans (by rw [List.append_assoc])), ?_,
      still.trans same, result⟩
    exact fun exchange member => (List.mem_append.1 member).elim (own exchange) (others exchange)

theorem confined_change (f : AdapterState → AdapterState) (same : ∀ state, (f state).sessions = state.sessions) :
    Confined allowed (change f) fun _ => True :=
  fun _ state log => ⟨_, f state, [], by rw [meets_change, List.append_nil], nofun, same state, fun _ _ => trivial⟩

theorem confined_executor : Confined allowed (executor .plain) (· = .pool) := by
  intro store state log
  cases connected : state.connected with
  | true =>
    have found : state.channel? .plain = some .pool := if_pos connected
    exact ⟨_, state, [], by rw [meets_executor found, List.append_nil], nofun, rfl, fun _ same => (Except.ok.inj same).symm⟩
  | false =>
    have found : state.channel? .plain = none := if_neg (by simp [connected])
    exact ⟨.error (.ofError .notConnected), state, [], by rw [meets_executor_none found, List.append_nil], nofun, rfl, nofun⟩

theorem confined_joined {operations : List (Run α)}
    (each : ∀ operation ∈ operations, Confined allowed operation fun _ => True) : Confined allowed (joined operations) fun _ => True := by
  intro store state log
  have all : ∀ log (state : AdapterState), ∃ results after asked,
      allAgainst store (operations.map ExceptT.run) state log = ((results, after), log ++ asked) ∧
        (∀ exchange ∈ asked, allowed exchange.call) ∧ after.sessions = state.sessions := by
    induction operations with
    | nil => exact fun log state => ⟨[], state, [], by rw [List.append_nil]; rfl, nofun, rfl⟩
    | cons operation rest ih =>
      intro log state
      obtain ⟨outcome, middle, first, came, own, same, _⟩ := each operation List.mem_cons_self store state log
      obtain ⟨results, after, more, went, others, still⟩ :=
        ih (fun other member => each other (List.mem_cons_of_mem _ member)) (log ++ first) middle
      have once : against store operation.run state log = ((outcome, middle), log ++ first) := came
      refine ⟨outcome :: results, after, first ++ more, ?_, ?_, still.trans same⟩
      · rw [List.map_cons, allAgainst, once]
        dsimp only
        rw [went, List.append_assoc]
      · exact fun exchange member => (List.mem_append.1 member).elim (own exchange) (others exchange)
  obtain ⟨results, after, asked, came, own, same⟩ := all log state
  exact ⟨results.mapM id, after, asked, by rw [meets_joined, came], own, same, fun _ _ => trivial⟩

theorem confined_ensureType (key : Kind) (assigned : Bool) (type : RecordType) :
    Confined RunsOnPool (ensureType .plain key assigned type) fun _ => True := by
  have quiet : Quiet (Adapter.log .debug ("Table " ++ type.name.text ++ " created/verified")) := fun _ _ _ => ⟨_, rfl⟩
  refine (quiet_ofMisuse _).confined.bind fun statements _ => ?_
  refine Confined.bind (?_ : Confined RunsOnPool _ fun _ => True) fun _ _ => quiet.confined
  induction statements with
  | nil => exact (quiet_pure _).confined
  | cons statement rest ih =>
    rw [List.forIn_cons]
    have body : Confined RunsOnPool (do
        let channel ← executor .plain
        discard (execute channel statement.sql [] "create table")
        return ForInStep.yield PUnit.unit : Run (ForInStep PUnit)) (· = .yield ⟨⟩) := by
      refine confined_executor.bind ?_
      rintro channel rfl
      have asks : Confined RunsOnPool (execute .pool statement.sql [] "create table") fun _ => True := fun _ state _ =>
        ⟨_, state, _, meets_execute _ _ _ _, fun _ member => List.mem_singleton.1 member ▸ rfl, rfl, fun _ _ => trivial⟩
      refine Confined.bind (asks.bind fun _ _ => (quiet_pure _).confined) fun _ _ store state log => ?_
      exact ⟨_, state, [], by rw [List.append_nil]; rfl, nofun, rfl, fun _ same => (Except.ok.inj same).symm⟩
    refine body.bind ?_
    rintro _ rfl
    exact ih

theorem confined_ensureTypes (key : Kind) (assigned : Bool) (types : List (Value × RecordType)) :
    Confined RunsOnPool (discard (joined (types.map fun (_, type) => ensureType .plain key assigned type))) fun _ => True := by
  refine (confined_joined fun operation member => ?_).bind fun _ _ => (quiet_pure _).confined
  obtain ⟨⟨_, type⟩, _, rfl⟩ := List.mem_map.1 member
  exact confined_ensureType key assigned type

theorem confined_ensureSchema (key : Option Kind) : Confined RunsOnPool (adapter.ensureSchema .plain key) fun _ => True := by
  cases key with
  | some key => exact (quiet_pure _).confined.bind fun key _ => confined_ensureTypes key _ _
  | none => exact (quiet_ofOutcome _).confined.bind fun key _ => confined_ensureTypes key _ _

theorem Confined.mono {operation : Run α} {good : α → Prop} {more : StoreCall → Prop} (confined : Confined allowed operation good)
    (implies : ∀ call, allowed call → more call) : Confined more operation good := by
  intro store state log
  obtain ⟨outcome, after, asked, came, own, rest⟩ := confined store state log
  exact ⟨outcome, after, asked, came, fun exchange member => implies _ (own exchange member), rest⟩

/-- What connecting does once the store is open. -/
def prepare (adapter : Adapter) (key : Kind) : Run Unit := do
  change fun state => { state with connected := true }
  if adapter.settings.ensureSchema then adapter.ensureSchema .plain (some key)
  Adapter.log .info adapter.connectedMessage

theorem confined_prepare (key : Kind) : Confined RunsOnPool (adapter.prepare key) fun _ => True := by
  have noted : Quiet (Adapter.log .info adapter.connectedMessage) := fun _ _ _ => ⟨_, rfl⟩
  refine Confined.bind (confined_change _ fun _ => by rfl) fun _ _ => ?_
  by_cases ensures : adapter.settings.ensureSchema
  · rw [if_pos ensures]
    exact (confined_ensureSchema (some key)).bind fun _ _ => noted.confined
  · rw [if_neg ensures]
    exact noted.confined

theorem confined_connect : Confined OnPool (adapter.connect .plain) fun _ => True := by
  have room : ∀ key, Confined OnPool (adapter.prepare key) fun _ => True := fun key =>
    (confined_prepare key).mono fun _ runs => runs.onPool
  have opens : ∀ url, Confined OnPool (openStore url adapter.settings.engineOptions) fun _ => True := by
    intro url store state log
    have asks : meets store (openStore url adapter.settings.engineOptions) state log =
      ((store log (.open url adapter.settings.engineOptions), state),
        log ++ [⟨_, store log (.open url adapter.settings.engineOptions)⟩]) := rfl
    exact ⟨_, state, _, asks, fun _ member => List.mem_singleton.1 member ▸ trivial, rfl, fun _ _ => trivial⟩
  unfold connect
  refine (quiet_ofOutcome _).confined.bind fun key _ => ?_
  refine Confined.bind (show Confined OnPool look fun _ => True from fun _ state _ =>
    ⟨_, state, [], by rw [meets_look, List.append_nil], nofun, rfl, fun _ _ => trivial⟩) fun state _ => ?_
  by_cases opened : (!state.hasStore) = true
  · rw [if_pos opened]
    refine (quiet_ofOutcome _).confined.bind fun url _ => (opens url).bind fun _ _ => ?_
    exact Confined.bind (confined_change _ fun _ => by rfl) fun _ _ => room key
  · rw [if_neg opened]
    exact room key

/-- An adapter whose store is open connects without opening it again. -/
theorem meets_connect_opened (opened : state.hasStore = true) : ∃ outcome after asked,
    meets store (adapter.connect .plain) state log = ((outcome, after), log ++ asked) ∧
      ∀ exchange ∈ asked, RunsOnPool exchange.call := by
  unfold connect
  cases known : adapter.connectKind with
  | error failure => exact ⟨_, state, [], (meets_error (meets_ofOutcome _) _).trans (by rw [List.append_nil]), nofun⟩
  | ok key =>
    rw [meets_ok (meets_ofOutcome _), meets_ok meets_look, opened]
    obtain ⟨outcome, after, asked, came, own, _⟩ := @confined_prepare adapter key store state log
    exact ⟨outcome, after, asked, came, own⟩

/-! ### Ends -/

/-- The session that a use ends, if it is still open, and whether with a rollback. -/
def Use.ends? : Use → Option (Nat × Bool)
  | .finish session error withRollback => some (session, error.isSome || withRollback)
  | .leave session body => some (session, !body.isOk)
  | .disconnect (.session session) => some (session, true)
  | _ => none

/-- What comes out of a use that ends a session, by the store's answer: the failure of a block comes out of it anyway. -/
def Use.ended (answer : Outcome Unit) : Use → Outcome Unit
  | .leave _ (.error failure) => .error failure
  | _ => answer

/-- What comes out of a use that would end a session, if that is over. -/
def Use.late : Use → Outcome Unit
  | .finish .. => .error (.ofError .transactionClosed)
  | .leave _ body => body
  | _ => .ok ()

def endCall (transaction : Nat) (withRollback : Bool) (answer : Outcome Unit) : Asked :=
  if withRollback then ⟨.rollback transaction, answer⟩ else ⟨.commit transaction, answer⟩

def openSession? (state : AdapterState) (n : Nat) : Option Session := (state.session? n).filter (·.isOpen)

theorem meets_endTransaction {session : Session} (found : openSession? state n = some session) (withRollback : Bool) :
    ∃ answer, meets store (endTransaction n withRollback) state log =
      ((answer, state.closeSession n), log ++ [endCall session.transaction withRollback answer]) := by
  unfold endTransaction
  unfold openSession? at found
  rw [meets_ok meets_look, found]
  dsimp only
  rw [meets_ok (meets_change _)]
  cases withRollback with
  | true =>
    refine ⟨store log (.rollback session.transaction), ?_⟩
    have asks : meets store (rollback session.transaction) (state.closeSession n) log =
      ((store log (.rollback session.transaction), state.closeSession n),
        log ++ [⟨.rollback session.transaction, store log (.rollback session.transaction)⟩]) := rfl
    cases answered : store log (.rollback session.transaction) with
    | ok _ => exact meets_ok (answered ▸ asks) _
    | error failure => exact meets_error (answered ▸ asks) _
  | false =>
    refine ⟨store log (.commit session.transaction), ?_⟩
    have asks : meets store (commit session.transaction) (state.closeSession n) log =
      ((store log (.commit session.transaction), state.closeSession n),
        log ++ [⟨.commit session.transaction, store log (.commit session.transaction)⟩]) := rfl
    cases answered : store log (.commit session.transaction) with
    | ok _ => exact meets_ok (answered ▸ asks) _
    | error failure => exact meets_error (answered ▸ asks) _

theorem meets_endTransaction_over (past : openSession? state n = none) (withRollback : Bool) :
    meets store (endTransaction n withRollback) state log = ((.error (.ofError .transactionClosed), state), log) := by
  unfold endTransaction
  unfold openSession? at past
  rw [meets_ok meets_look, past]
  rfl

theorem meets_disconnect_over (past : openSession? state n = none) :
    meets store (disconnect (.session n)) state log = ((.ok (), state), log) := by
  unfold disconnect
  unfold openSession? at past
  rw [meets_ok meets_look, past]
  rfl

theorem meets_disconnect_open {session : Session} (found : openSession? state n = some session) :
    meets store (disconnect (.session n)) state log = meets store (endTransaction n true) state log := by
  unfold disconnect
  unfold openSession? at found
  rw [meets_ok meets_look, found]
  rfl

/-- A block that is left with an open session ends it. What the ending comes to matters to work that went well only. -/
theorem meets_exitBlock {session : Session} (found : openSession? state n = some session) (body : Outcome Unit) :
    ∃ answer, meets store (exitBlock n body) state log =
      (((Use.leave n body).ended answer, state.closeSession n),
        log ++ [endCall session.transaction (!body.isOk) answer]) := by
  have leaves : ∀ failed, meets store (leave n failed) state log = meets store
      (if failed then tryCatch (endTransaction n true) fun failure =>
          Adapter.log .warning ("Failed to rollback transaction: " ++ failure.text)
        else endTransaction n false) state log := by
    intro failed
    unfold leave
    unfold openSession? at found
    rw [meets_ok meets_look, found]
    rfl
  cases body with
  | ok _ =>
    obtain ⟨answer, came⟩ := @meets_endTransaction store state log n session found false
    refine ⟨answer, ?_⟩
    have left := (leaves false).trans came
    cases answer with
    | ok _ => exact meets_ok left _
    | error failure => exact meets_error left _
  | error failure =>
    obtain ⟨answer, came⟩ := @meets_endTransaction store state log n session found true
    refine ⟨answer, ?_⟩
    have left : meets store (leave n true) state log =
        ((.ok (), state.closeSession n), log ++ [endCall session.transaction true answer]) := by
      rw [leaves]
      cases answer with
      | ok _ => exact meets_tryCatch_ok came _
      | error report => exact (meets_tryCatch_error came _).trans rfl
    exact meets_ok left _

theorem meets_exitBlock_over (past : openSession? state n = none) (body : Outcome Unit) :
    meets store (exitBlock n body) state log = ((body, state), log) := by
  have left : ∀ failed, meets store (leave n failed) state log = ((.ok (), state), log) := by
    intro failed
    unfold leave
    unfold openSession? at past
    rw [meets_ok meets_look, past]
    rfl
  cases body with
  | ok _ => exact meets_ok (left false) _
  | error failure => exact meets_ok (left true) _

/-! ### The parent -/

theorem meets_begin_unconnected (unconnected : state.connected = false) :
    meets store (discard (beginTransaction .plain)) state log = ((.error (.ofError .notConnected), state), log) := by
  refine meets_error ?_ _
  unfold beginTransaction
  rw [meets_ok meets_look, unconnected]
  rfl

theorem meets_begin {transaction : Nat} (connected : state.connected = true) (answered : store log .begin = .ok transaction) :
    meets store (discard (beginTransaction .plain)) state log =
      ((.ok (), state.addSession transaction), log ++ [⟨.begin, (.ok transaction : Outcome Nat)⟩]) := by
  have asks : meets store beginOnStore state log = ((store log .begin, state), log ++ [⟨.begin, store log .begin⟩]) := rfl
  refine meets_ok (b := state.sessions.length) ?_ _
  unfold beginTransaction
  rw [meets_ok meets_look, connected]
  exact meets_ok (answered ▸ asks) _

theorem meets_begin_failed {failure : Failure} (connected : state.connected = true)
    (answered : store log .begin = .error failure) : meets store (discard (beginTransaction .plain)) state log =
      ((.error failure, state), log ++ [⟨.begin, (.error failure : Outcome Nat)⟩]) := by
  have asks : meets store beginOnStore state log = ((store log .begin, state), log ++ [⟨.begin, store log .begin⟩]) := rfl
  refine meets_error ?_ _
  unfold beginTransaction
  rw [meets_ok meets_look, connected]
  exact meets_error (answered ▸ asks) _

theorem meets_disconnect (store : Store) (state : AdapterState) (log : List Asked) :
    ∃ outcome asked,
      meets store (disconnect .plain) state log = ((outcome, { state with connected := false }), log ++ asked) ∧
      ∀ exchange ∈ asked, exchange.call = .dispose := by
  obtain ⟨hasStore, connected, sessions, keysMade⟩ := state
  unfold disconnect
  rw [meets_ok (meets_change _), meets_ok meets_look]
  cases hasStore with
  | false => exact ⟨.ok (), [], by rw [List.append_nil]; rfl, nofun⟩
  | true =>
    have asks : meets store disposeStore ⟨true, false, sessions, keysMade⟩ log =
      ((store log .dispose, ⟨true, false, sessions, keysMade⟩), log ++ [⟨.dispose, store log .dispose⟩]) := rfl
    have only : ∀ exchange ∈ [(⟨.dispose, store log .dispose⟩ : Asked)], exchange.call = .dispose :=
      fun _ member => List.mem_singleton.1 member ▸ rfl
    cases answered : store log .dispose with
    | ok _ => exact ⟨_, _, meets_ok (answered ▸ asks) _, answered ▸ only⟩
    | error failure => exact ⟨_, _, meets_error (answered ▸ asks) _, answered ▸ only⟩

/-! ### All uses -/

/-- What a use can do in a state, after all exchanges so far. -/
inductive Effect (store : Store) (adapter : Adapter) (state : AdapterState) (log : List Asked) :
    Use → Outcome Unit → AdapterState → List Asked → Prop
  | work {party : Party} {records : Work} {outcome : Outcome Unit} {keysMade : Nat} {asked : List Asked}
    (calls : asked.map (·.call) = records.calls adapter party state) :
    Effect store adapter state log (.work party records) outcome { state with keysMade } asked
  | connected {outcome : Outcome Unit} {after : AdapterState} {asked : List Asked}
    (own : ∀ exchange ∈ asked, OnPool exchange.call) (same : after.sessions = state.sessions) :
    Effect store adapter state log (.connect .plain) outcome after asked
  | disconnected {outcome : Outcome Unit} {asked : List Asked} (only : ∀ exchange ∈ asked, exchange.call = .dispose) :
    Effect store adapter state log (.disconnect .plain) outcome { state with connected := false } asked
  | begun {transaction : Nat} (answered : store log .begin = .ok transaction) :
    Effect store adapter state log (.begin .plain) (.ok ()) (state.addSession transaction)
      [⟨.begin, (.ok transaction : Outcome Nat)⟩]
  | unbegun {failure : Failure} :
    Effect store adapter state log (.begin .plain) (.error failure) state [⟨.begin, (.error failure : Outcome Nat)⟩]
  | refusedBegin {party : Party} {failure : Failure} : Effect store adapter state log (.begin party) (.error failure) state []
  | refusedConnect {session : Nat} {failure : Failure} :
    Effect store adapter state log (.connect (.session session)) (.error failure) state []
  | ended {use : Use} {session : Nat} {withRollback : Bool} {answer : Outcome Unit} {own : Session}
    (ends : use.ends? = some (session, withRollback)) (found : openSession? state session = some own) :
    Effect store adapter state log use (use.ended answer) (state.closeSession session)
      [endCall own.transaction withRollback answer]
  | late {use : Use} {session : Nat} {withRollback : Bool} (ends : use.ends? = some (session, withRollback))
    (past : openSession? state session = none) : Effect store adapter state log use use.late state []

theorem effect_of_use (use : Use) : ∃ outcome after asked,
    meets store (use.task adapter) state log = ((outcome, after), log ++ asked) ∧
      Effect store adapter state log use outcome after asked := by
  have silent : ∀ {operation : Run Unit} {outcome : Outcome Unit}, meets store operation state log = ((outcome, state), log) →
      meets store operation state log = ((outcome, state), log ++ []) := fun came => by rw [came, List.append_nil]
  cases use with
  | work party records =>
    obtain ⟨outcome, keysMade, asked, came, calls⟩ := @makes_work store adapter party state log records
    exact ⟨outcome, _, asked, came, .work calls⟩
  | connect party =>
    cases party with
    | plain =>
      obtain ⟨outcome, after, asked, came, own, same, _⟩ := @confined_connect adapter store state log
      exact ⟨outcome, after, asked, came, .connected own same⟩
    | session session => exact ⟨_, state, [], silent rfl, .refusedConnect⟩
  | disconnect party =>
    cases party with
    | plain =>
      obtain ⟨outcome, asked, came, only⟩ := meets_disconnect store state log
      exact ⟨outcome, _, asked, came, .disconnected only⟩
    | session session =>
      cases found : openSession? state session with
      | some own =>
        obtain ⟨answer, came⟩ := @meets_endTransaction store state log session own found true
        exact ⟨_, _, _, (meets_disconnect_open found).trans came, .ended rfl found⟩
      | none => exact ⟨_, state, [], silent (meets_disconnect_over found), .late rfl found⟩
  | begin party =>
    cases party with
    | plain =>
      cases connected : state.connected with
      | true =>
        cases answered : store log .begin with
        | ok transaction => exact ⟨_, _, _, meets_begin connected answered, .begun answered⟩
        | error failure => exact ⟨_, _, _, meets_begin_failed connected answered, .unbegun⟩
      | false => exact ⟨_, state, [], silent (meets_begin_unconnected connected), .refusedBegin⟩
    | session session => exact ⟨_, state, [], silent rfl, .refusedBegin⟩
  | finish session error withRollback =>
    cases found : openSession? state session with
    | some own =>
      obtain ⟨answer, came⟩ := @meets_endTransaction store state log session own found (error.isSome || withRollback)
      exact ⟨_, _, _, came, .ended rfl found⟩
    | none => exact ⟨_, state, [], silent (meets_endTransaction_over found _), .late rfl found⟩
  | leave session body =>
    cases found : openSession? state session with
    | some own =>
      obtain ⟨answer, came⟩ := @meets_exitBlock store state log session own found body
      exact ⟨_, _, _, came, .ended rfl found⟩
    | none => exact ⟨_, state, [], silent (meets_exitBlock_over found body), .late rfl found⟩

end RecordStore.Adapter
