import RecordStore.Proofs.Adapter.Completion
import RecordStore.Proofs.Adapter.Disconnected
import RecordStore.Proofs.Adapter.Effects
import RecordStore.Proofs.Error.Outcome
import RecordStore.Proofs.Schema.Database

/-!
# Connecting

What an adapter is left as when connecting fails. Until the store is open nothing has changed, and work is refused as
before; once it is, only a statement that makes room for records can fail, and then the adapter stays connected.
-/

namespace RecordStore.Adapter

open RecordStore.Task

variable {store : Store} {adapter : Adapter} {party : Party} {state after : AdapterState} {log later : List Asked}
  {failure : Failure} {α β : Type}

/-! ### Without a channel -/

/-- If an operation has statements to run, it fails for want of a channel and asks nothing. -/
def Refused (store : Store) (operation : Run α) (state : AdapterState) (log : List Asked)
    (built : Outcome (List Statement)) : Prop :=
  ∀ statements, built = .ok statements → statements ≠ [] → ∃ keysMade,
    meets store operation state log = ((.error (.ofError .notConnected), { state with keysMade }), log)

theorem Idles.refused {operation : Run α} {idle : α} {built : Outcome (List Statement)}
    (idles : Idles operation state (unserved idle built)) : Refused store operation state log built := by
  rintro statements rfl some
  obtain ⟨keysMade, alone⟩ := idles.alone
  refine ⟨keysMade, (alone store log).trans ?_⟩
  cases statements with
  | nil => exact absurd rfl some
  | cons => rfl

/-- Without a channel every operation that has statements to run is refused, whatever is stored. -/
theorem refused_work (none : state.channel? party = none) (work : Work) :
    Refused store (work.task adapter party) state log (work.built adapter state.keysMade) := by
  have idles : Idles (work.task adapter party) state (unserved () (work.built adapter state.keysMade)) := by
    cases work with
    | find typeName keys options =>
      exact map_unserved (fun _ => ()) .. ▸ ((stays_find none typeName keys options).map fun _ => ()).idles
    | create typeName records =>
      exact map_unserved (fun _ => ()) .. ▸ ((stays_create none typeName records).map fun _ => ()).idles
    | update typeName updates => exact map_unserved (fun _ => ()) .. ▸ idles_update none typeName updates fun _ => ()
    | delete typeName keys =>
      exact map_unserved (fun _ => ()) .. ▸ ((stays_delete none typeName keys).map fun _ => ()).idles
  exact idles.refused

/-! ### Making room -/

def roomCall (sql : String) : StoreCall := .execute .pool sql [] "create table"

/-- An operation on a connected adapter that fails only as the store did for one of its statements that make room. -/
def Blames (operation : Run α) : Prop :=
  ∀ (store : Store) (state : AdapterState) (log : List Asked), state.connected = true → ∃ outcome asked,
    meets store operation state log = ((outcome, state), log ++ asked) ∧
      ∀ failure, outcome = .error failure → ∃ sql, (⟨roomCall sql, (.error failure : Outcome StatementResult)⟩ : Asked) ∈ asked

theorem blames_pure (a : α) : Blames (pure a : Run α) :=
  fun _ _ _ _ => ⟨.ok a, [], by rw [List.append_nil]; rfl, nofun⟩

theorem blames_log (level : Log.Level) (message : Text) : Blames (Adapter.log level message) :=
  fun _ _ _ _ => ⟨.ok (), [], by rw [List.append_nil]; rfl, nofun⟩

theorem Blames.bind {operation : Run α} {f : α → Run β} (first : Blames operation) (rest : ∀ a, Blames (f a)) :
    Blames (operation >>= f) := by
  intro store state log connected
  obtain ⟨outcome, asked, came, own⟩ := first store state log connected
  cases outcome with
  | error failure => exact ⟨_, asked, meets_error came f, fun other same => own other (by cases same; rfl)⟩
  | ok a =>
    obtain ⟨outcome, more, went, others⟩ := rest a store state (log ++ asked) connected
    refine ⟨outcome, asked ++ more, by rw [meets_ok came f, went, List.append_assoc], fun failure same => ?_⟩
    obtain ⟨sql, member⟩ := others failure same
    exact ⟨sql, List.mem_append_right _ member⟩

theorem blames_onPool {f : Channel → Run α} (rest : Blames (f .pool)) : Blames (executor .plain >>= f) := by
  intro store state log connected
  have found : state.channel? .plain = some .pool := if_pos connected
  rw [meets_ok (meets_executor found)]
  exact rest store state log connected

theorem blames_room (sql : String) : Blames (discard (execute .pool sql [] "create table")) := by
  intro store state log _
  have asks : meets store (execute .pool sql [] "create table") state log =
    ((store log (roomCall sql), state), log ++ [⟨roomCall sql, store log (roomCall sql)⟩]) := meets_execute ..
  cases answered : store log (roomCall sql) with
  | ok result =>
    rw [answered] at asks
    exact ⟨.ok (), _, meets_ok asks _, nofun⟩
  | error failure =>
    rw [answered] at asks
    refine ⟨.error failure, _, meets_error asks _, fun other same => ?_⟩
    cases same
    exact ⟨sql, List.mem_singleton_self _⟩

theorem blames_ensureType {key : Kind} (allowed : key ∈ Kind.keyKinds) (assigned : Bool) (type : RecordType) :
    Blames (ensureType .plain key assigned type) := by
  obtain ⟨statements, made⟩ := Schema.statements_total allowed assigned type
  have each : ∀ statements : List Schema.Statement, Blames (forIn statements PUnit.unit fun statement _ => do
      let channel ← executor .plain
      discard (execute channel statement.sql [] "create table")
      return ForInStep.yield PUnit.unit) := by
    intro statements
    induction statements with
    | nil => exact blames_pure _
    | cons statement rest ih =>
      rw [List.forIn_cons]
      refine (blames_onPool ((blames_room statement.sql).bind fun _ => blames_pure _)).bind fun step => ?_
      cases step with
      | done => exact blames_pure _
      | yield => exact ih
  unfold ensureType
  rw [made]
  exact (blames_pure statements).bind fun statements => (each statements).bind fun _ => blames_log _ _

theorem blames_joined {operations : List (Run α)} (each : ∀ operation ∈ operations, Blames operation) :
    Blames (joined operations) := by
  intro store state log connected
  have all : ∃ results asked, allAgainst store (operations.map ExceptT.run) state log = ((results, state), log ++ asked) ∧
      ∀ failure, .error failure ∈ results →
        ∃ sql, (⟨roomCall sql, (.error failure : Outcome StatementResult)⟩ : Asked) ∈ asked := by
    induction operations generalizing log with
    | nil => exact ⟨[], [], by rw [List.append_nil]; rfl, nofun⟩
    | cons operation rest ih =>
      obtain ⟨outcome, first, came, own⟩ := each operation List.mem_cons_self store state log connected
      obtain ⟨results, more, went, others⟩ := ih (fun other member => each other (List.mem_cons_of_mem _ member)) (log ++ first)
      have once : against store operation.run state log = ((outcome, state), log ++ first) := came
      refine ⟨outcome :: results, first ++ more, ?_, fun failure member => ?_⟩
      · rw [List.map_cons, allAgainst, once]
        dsimp only
        rw [went, List.append_assoc]
      · obtain same | later := List.mem_cons.1 member
        · obtain ⟨sql, found⟩ := own failure same.symm
          exact ⟨sql, List.mem_append_left _ found⟩
        · obtain ⟨sql, found⟩ := others failure later
          exact ⟨sql, List.mem_append_right _ found⟩
  obtain ⟨results, asked, came, blamed⟩ := all
  refine ⟨results.mapM id, asked, by rw [meets_joined, came], fun failure failed => blamed failure ?_⟩
  have overall := overall_mapM id results
  rw [List.map_id, failed] at overall
  cases overall with
  | failed here => exact List.mem_of_getElem? here

theorem blames_ensureSchema {key : Kind} (allowed : key ∈ Kind.keyKinds) : Blames (adapter.ensureSchema .plain (some key)) := by
  let room (entry : Value × RecordType) : Run Unit := ensureType .plain key adapter.settings.generator.isNone entry.2
  have types : Blames (joined (adapter.types.map room)) := by
    apply blames_joined
    intro operation member
    obtain ⟨entry, _, rfl⟩ := List.mem_map.1 member
    exact blames_ensureType allowed _ entry.2
  show Blames (discard (joined (adapter.types.map room)))
  exact types.bind fun _ => blames_pure _

/-! ### Connecting -/

theorem connectKind_allowed {key : Kind} (known : adapter.connectKind = .ok key) : key ∈ Kind.keyKinds := by
  obtain ⟨named, found, rest⟩ := bind_ok known
  have same : named = key := by
    split at rest
    · cases rest
    · exact Except.ok.inj rest
  subst same
  have found : Kind.forKeys (.text adapter.settings.keyType) = .ok named := adapter_ok found
  unfold Kind.forKeys at found
  split at found
  · cases found
    rename_i among
    have allowed := (Option.filter_eq_some_iff.1 among).2
    simpa using allowed
  · cases found

/-- How connecting ends: refused before the store is asked for anything, without the store having been opened, with a
store that made no room for the records, or connected. -/
inductive Connected (adapter : Adapter) (state : AdapterState) : Outcome Unit → AdapterState → List Asked → Prop
  | refused {failure : Failure} : Connected adapter state (.error failure) state []
  | unopened {url : String} {failure : Failure} : Connected adapter state (.error failure) state
      [⟨.open url adapter.settings.engineOptions, (.error failure : Outcome Unit)⟩]
  | crowded {failure : Failure} {sql : String} {asked : List Asked} (ensures : adapter.settings.ensureSchema = true)
    (failed : ⟨roomCall sql, (.error failure : Outcome StatementResult)⟩ ∈ asked) :
    Connected adapter state (.error failure) { state with hasStore := true, connected := true } asked
  | whole {asked : List Asked} : Connected adapter state (.ok ()) { state with hasStore := true, connected := true } asked

theorem connected_prepared {key : Kind} (known : adapter.connectKind = .ok key) (log : List Asked) :
    ∃ outcome after asked, meets store (do
      change fun state => { state with connected := true }
      if adapter.settings.ensureSchema then adapter.ensureSchema .plain (some key)
      Adapter.log .info adapter.connectedMessage) { state with hasStore := true } log = ((outcome, after), log ++ asked) ∧
        ∀ earlier, Connected adapter state outcome after (earlier ++ asked) := by
  rw [meets_ok (meets_change _)]
  by_cases ensures : adapter.settings.ensureSchema = true
  · rw [if_pos ensures]
    have room : Blames (adapter.ensureSchema .plain (some key)) := blames_ensureSchema (connectKind_allowed known)
    have all := room.bind fun _ => blames_log .info adapter.connectedMessage
    obtain ⟨outcome, asked, came, blamed⟩ := all store { state with hasStore := true, connected := true } log rfl
    refine ⟨outcome, _, asked, came, fun earlier => ?_⟩
    cases outcome with
    | ok _ => exact .whole
    | error failure =>
      obtain ⟨sql, failed⟩ := blamed failure rfl
      exact .crowded ensures (List.mem_append_right _ failed)
  · rw [if_neg ensures]
    exact ⟨.ok (), _, [], by rw [List.append_nil]; rfl, fun _ => .whole⟩

theorem connected_connect (store : Store) (adapter : Adapter) (state : AdapterState) (log : List Asked) :
    ∃ outcome after asked, meets store (adapter.connect .plain) state log = ((outcome, after), log ++ asked) ∧
      Connected adapter state outcome after asked := by
  unfold connect
  cases known : adapter.connectKind with
  | error failure =>
    exact ⟨_, state, [], (meets_error (meets_ofOutcome _) _).trans (by rw [List.append_nil]), .refused⟩
  | ok key =>
    rw [meets_ok (meets_ofOutcome _), meets_ok meets_look]
    cases opened : state.hasStore with
    | true =>
      have same : state = { state with hasStore := true } := by rw [← opened]
      obtain ⟨outcome, after, asked, came, ends⟩ := @connected_prepared store adapter state key known log
      rw [← same] at came
      exact ⟨outcome, after, asked, came, ends []⟩
    | false =>
      rw [if_pos (show (!false) = true from rfl)]
      cases required : adapter.requiredUrl with
      | error failure =>
        exact ⟨_, state, [], (meets_error (meets_ofOutcome _) _).trans (by rw [List.append_nil]), .refused⟩
      | ok url =>
        let call : StoreCall := .open url adapter.settings.engineOptions
        have opens : meets store (openStore url adapter.settings.engineOptions) state log =
          ((store log call, state), log ++ [⟨call, store log call⟩]) := rfl
        rw [meets_ok (meets_ofOutcome _)]
        cases answered : store log call with
        | error failure =>
          rw [answered] at opens
          exact ⟨_, state, _, meets_error opens _, .unopened⟩
        | ok _ =>
          rw [answered] at opens
          rw [meets_ok opens, meets_ok (meets_change _)]
          obtain ⟨outcome, after, asked, came, ends⟩ := @connected_prepared store adapter state key known
            (log ++ [⟨call, (.ok () : Outcome Unit)⟩])
          refine ⟨outcome, after, [⟨call, (.ok () : Outcome Unit)⟩] ++ asked, ?_, ends _⟩
          rw [← List.append_assoc]
          exact came

/-- When connecting fails, then either the adapter is as it was and goes on refusing all work that needs the store, or the
store was open already and failed to make room for the records. -/
theorem connect_fails (unconnected : state.channel? party = none)
    (failed : meets store (adapter.connect party) state log = ((.error failure, after), later)) :
    ∃ asked, later = log ++ asked ∧
      (after = state ∧
          (∀ exchange ∈ asked, ∃ url,
            exchange = ⟨.open url adapter.settings.engineOptions, (.error failure : Outcome Unit)⟩) ∧
          (∀ (work : Work) log, Refused store (work.task adapter party) after log (work.built adapter after.keysMade)) ∨
        adapter.settings.ensureSchema = true ∧ after = { state with hasStore := true, connected := true } ∧
          ∃ sql, (⟨roomCall sql, (.error failure : Outcome StatementResult)⟩ : Asked) ∈ asked) := by
  have refuses : ∀ (work : Work) log, Refused store (work.task adapter party) state log (work.built adapter state.keysMade) :=
    fun work log => refused_work unconnected work
  cases party with
  | session n =>
    cases failed
    exact ⟨[], (List.append_nil _).symm, .inl ⟨rfl, nofun, refuses⟩⟩
  | plain =>
    obtain ⟨outcome, last, asked, came, ends⟩ := connected_connect store adapter state log
    cases failed.symm.trans came
    refine ⟨asked, rfl, ?_⟩
    cases ends with
    | refused => exact .inl ⟨rfl, nofun, refuses⟩
    | unopened =>
      refine .inl ⟨rfl, fun exchange member => ?_, refuses⟩
      rw [List.mem_singleton.1 member]
      exact ⟨_, rfl⟩
    | crowded ensures failed => exact .inr ⟨ensures, rfl, _, failed⟩

/-- A store without room for another table. -/
def crowdedStore : Store := answering (.error (.ofError (.store .execution [] (some "53100"))))

/-- An adapter without a URL cannot connect, and what is to be deleted is not. -/
theorem drafts_unconnected : ∃ failure, meets crowdedStore (draftsAdapter.connect .plain) {} [] = ((.error failure, {}), []) ∧
    ∃ keysMade, meets crowdedStore ((Work.delete (.text "draft") .null).task draftsAdapter .plain) {} [] =
      ((.error (.ofError .notConnected), { keysMade }), []) := by
  refine ⟨_, rfl, ?_⟩
  obtain ⟨asked, _, kept | ⟨_, changed, _⟩⟩ :=
    @connect_fails crowdedStore draftsAdapter .plain {} {} [] [] _ rfl rfl
  · exact kept.2.2 (.delete (.text "draft") .null) [] _ rfl (List.cons_ne_nil _ _)
  · cases changed

/-- When there is no room for the tables, connecting fails with the adapter connected: a search goes to the store. -/
theorem crowded_stays_connected :
    let adapter : Adapter := { draftsAdapter with settings := { url := some "postgresql://localhost/app" } }
    ∃ failure asked, meets crowdedStore (adapter.connect .plain) {} [] =
        ((.error failure, { hasStore := true, connected := true }), asked) ∧
      ∃ outcome more, meets crowdedStore ((Work.find (.text "draft") .null .null).task adapter .plain)
        { hasStore := true, connected := true } asked = (outcome, asked ++ more) ∧ more.length = 2 := by
  exact ⟨_, _, rfl, _, [_, _], rfl, rfl⟩

end RecordStore.Adapter
