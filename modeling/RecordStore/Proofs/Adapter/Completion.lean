import RecordStore.Proofs.Adapter.Operations
import RecordStore.Proofs.Query.Filter
import RecordStore.Proofs.Store.Completion

/-!
# What operations leave behind

An operation that waits for all of its statements leaves none of them behind. Searches and making room for records stop
waiting at the first failure: when that is raised, other statements may still be in progress.
-/

namespace RecordStore.Adapter

open RecordStore.Task

variable {adapter : Adapter} {party : Party} {state : AdapterState} {lax : Prop} {α β : Type}

inductive Operation where
  | work (records : Work)
  | ensureSchema (key : Option Kind)

def Operation.task (adapter : Adapter) (party : Party) : Operation → Run Unit
  | work records => records.task adapter party
  | ensureSchema key => adapter.ensureSchema party key

/-- Operations that stop waiting for their statements at the first failure. -/
def Operation.Hasty : Operation → Prop
  | work (.find ..) | ensureSchema _ => True
  | _ => False

/-! ### Rules -/

/-- An operation that leaves nothing behind. Where it may be lax, it may when it fails. -/
def Completes (lax : Prop) (operation : Run α) : Prop :=
  Tidy (fun outcome => lax ∧ ∃ failure, outcome = .error failure) operation.run

theorem completes_ofOutcome (outcome : Outcome α) : Completes lax (ofOutcome outcome) := Tidy.done

theorem completes_ofMisuse (result : Except Misuse α) : Completes lax (ofMisuse result) := Tidy.done

theorem completes_pure (a : α) : Completes lax (pure a : Run α) := Tidy.done

theorem completes_refusal (failure : Failure) : Completes lax (throw failure : Run α) := Tidy.done

theorem completes_look : Completes lax look := Tidy.look fun _ => .done

theorem completes_change (f : AdapterState → AdapterState) : Completes lax (change f) := Tidy.look fun _ => .change .done

theorem completes_log (level : Log.Level) (message : Text) : Completes lax (Adapter.log level message) := Tidy.note .done

theorem completes_execute (channel : Channel) (sql : String) (params : List Value) (operation : String) :
    Completes lax (execute channel sql params operation) :=
  Tidy.call fun _ => .done

theorem Completes.bind {operation : Run α} {f : α → Run β} (first : Completes lax operation)
    (rest : ∀ a, Completes lax (f a)) : Completes lax (operation >>= f) := by
  unfold Completes
  rw [bind_run]
  refine Tidy.bind first ?_ ?_
  · rintro _ ⟨may, failure, rfl⟩
    exact ⟨_, rfl, may, failure, rfl⟩
  · rintro (failure | a)
    · exact .done
    · exact rest a

theorem Completes.handled {operation : Run α} {handle : Failure → Run α} (first : Completes False operation)
    (rest : ∀ failure, Completes lax (handle failure)) : Completes lax (tryCatch operation handle) := by
  unfold Completes
  rw [tryCatch_run]
  refine Tidy.bind first (fun _ bad => bad.1.elim) ?_
  rintro (failure | a)
  · exact rest failure
  · exact .done

theorem tidy_of_completes {operation : Run α} (completes : Completes False operation) :
    Tidy (fun _ => False) operation.run :=
  Tidy.mono completes fun _ bad => bad.1

theorem tidy_get {operations : List (Run α)} (each : ∀ operation ∈ operations, Completes False operation)
    (i : Fin (operations.map ExceptT.run).length) : Tidy (fun _ => False) ((operations.map ExceptT.run).get i) := by
  obtain ⟨operation, member, same⟩ := List.mem_map.1 (List.get_mem _ i)
  rw [← same]
  exact tidy_of_completes (each operation member)

theorem completes_settled {operations : List (Run α)} (each : ∀ operation ∈ operations, Completes False operation) :
    Completes lax (settled operations) :=
  Tidy.settle (tidy_get each) fun _ => .done

/-- After a failure in a group that is not waited for, others of the group may go on. -/
theorem completes_joined {operations : List (Run α)} (each : ∀ operation ∈ operations, Completes False operation) :
    Completes True (joined operations) :=
  Tidy.join (tidy_get each) (fun failure => ⟨_, rfl, trivial, failure, rfl⟩) fun _ => .done

/-! ### Operations -/

theorem completes_executor : Completes lax (executor party) := by
  refine completes_look.bind fun state => ?_
  cases state.channel? party with
  | none => exact completes_refusal _
  | some channel => exact completes_pure channel

theorem completes_find (typeName keys options : Value) : Completes True (adapter.find party typeName keys options) := by
  refine (completes_ofOutcome _).bind fun type => ?_
  by_cases none : asksForNone keys
  · rw [if_pos none]
    exact completes_pure _
  · rw [if_neg none]
    refine (completes_ofOutcome _).bind fun statements => completes_executor.bind fun channel => ?_
    refine (completes_joined fun operation member => ?_).bind fun results => ?_
    · obtain rfl | member := List.mem_cons.1 member
      · exact completes_execute ..
      · obtain rfl := List.mem_singleton.1 member
        exact completes_execute ..
    · split
      · exact completes_ofMisuse _
      · exact completes_pure _

theorem completes_create (typeName records : Value) : Completes lax (adapter.create party typeName records) := by
  refine (completes_ofOutcome _).bind fun type => ?_
  by_cases none : (!records.holds) = true
  · rw [if_pos none]
    exact completes_pure _
  · rw [if_neg none]
    refine (completes_ofMisuse _).bind fun items => Completes.bind ?_ fun encoded => ?_
    · exact completes_look.bind fun state => (completes_change _).bind fun _ => completes_ofMisuse _
    · refine (completes_ofOutcome _).bind fun (insert, params) => Completes.bind ?_ fun result => completes_ofMisuse _
      exact (completes_executor.bind fun channel => completes_execute ..).handled fun failure => completes_refusal _

theorem completes_updateTask (statement : UpdateStatement) : Completes False (updateTask party statement) := by
  cases statement with
  | none => exact completes_pure _
  | some statement =>
    refine (completes_executor.bind fun channel => (completes_execute ..).bind fun _ => completes_pure _).handled ?_
    intro failure
    dsimp only
    split
    · exact (completes_log ..).bind fun _ => completes_pure _
    · exact completes_refusal failure

theorem completes_update (typeName updates : Value) : Completes lax (adapter.update party typeName updates) := by
  refine (completes_ofOutcome _).bind fun type => ?_
  by_cases none : (!updates.holds) = true
  · rw [if_pos none]
    exact completes_pure _
  · rw [if_neg none]
    refine (completes_ofOutcome _).bind fun statements => Completes.bind ?_ fun _ => completes_ofOutcome _
    refine completes_settled fun operation member => ?_
    obtain ⟨statement, _, rfl⟩ := List.mem_map.1 member
    exact completes_updateTask statement

theorem completes_delete (typeName keys : Value) : Completes lax (adapter.delete party typeName keys) := by
  refine (completes_ofOutcome _).bind fun type => (completes_ofOutcome _).bind fun statement => ?_
  cases statement with
  | none => exact completes_pure _
  | some statement =>
    exact completes_executor.bind fun channel => (completes_execute ..).bind fun _ => completes_pure _

theorem completes_ensureType (key : Kind) (assigned : Bool) (type : RecordType) :
    Completes lax (ensureType party key assigned type) := by
  refine (completes_ofMisuse _).bind fun statements => Completes.bind ?_ fun _ => completes_log ..
  induction statements with
  | nil => exact completes_pure _
  | cons statement rest ih =>
    rw [List.forIn_cons]
    refine Completes.bind ?_ fun step => ?_
    · exact completes_executor.bind fun channel => ((completes_execute ..).bind fun _ => completes_pure _).bind fun _ =>
        completes_pure _
    · cases step with
      | done => exact completes_pure _
      | yield => exact ih

theorem completes_ensureTypes (key : Kind) (assigned : Bool) (types : List (Value × RecordType)) :
    Completes True (discard (joined (types.map fun (_, type) => ensureType party key assigned type))) := by
  refine (completes_joined fun operation member => ?_).bind fun _ => completes_pure _
  obtain ⟨⟨_, type⟩, _, rfl⟩ := List.mem_map.1 member
  exact completes_ensureType key assigned type

theorem completes_ensureSchema (key : Option Kind) : Completes True (adapter.ensureSchema party key) := by
  cases key with
  | some key => exact (completes_pure _).bind fun key => completes_ensureTypes key _ _
  | none => exact (completes_ofOutcome _).bind fun key => completes_ensureTypes key _ _

theorem completes_operation (operation : Operation) : Completes operation.Hasty (operation.task adapter party) := by
  cases operation with
  | ensureSchema key => exact completes_ensureSchema key
  | work records =>
    cases records with
    | find typeName keys options => exact (completes_find typeName keys options).bind fun _ => completes_pure _
    | create typeName records => exact (completes_create typeName records).bind fun _ => completes_pure _
    | update typeName updates => exact (completes_update typeName updates).bind fun _ => completes_pure _
    | delete typeName keys => exact (completes_delete typeName keys).bind fun _ => completes_pure _

/-- However the answers of the store come in: when an operation has ended, no statement is in progress. Only after the
failure of a search, or of making room for records, there may be one. -/
theorem operation_completes {outside : Outside StoreCall StoreCall.Answer} {schedule : List Place}
    {m : Moment AdapterState StoreCall StoreCall.Answer (Outcome Unit)} {outcome : Outcome Unit} (operation : Operation)
    (played : (Moment.start state (operation.task adapter party).run).play outside schedule = some m)
    (ended : m.running.result? = some outcome) :
    (∀ place call, ¬ InProgress place call m.history) ∨ operation.Hasty ∧ ∃ failure, outcome = .error failure :=
  Moment.nothing_left (completes_operation operation) played ended

def draftSample : RecordType where
  name := ⟨"draft", by decide⟩
  key := Query.articleSample.key
  fields := []
  nodup_fields := .nil
  key_not_field := nofun

def draftsAdapter : Adapter where
  types := [(.text "draft", draftSample), (.text "article", Query.articleSample)]

/-- A store without room: every statement of the first task of a group fails. -/
def crowdedOutside : Outside StoreCall StoreCall.Answer
  | _, [0], .execute .. => (.error (.ofError (.store .execution [] (some "53100"))) : Outcome StatementResult)
  | _, _, .execute .. => (.ok {} : Outcome StatementResult)
  | _, _, .open .. => (.ok () : Outcome Unit)
  | _, _, .begin => (.ok 0 : Outcome Nat)
  | _, _, .commit _ => (.ok () : Outcome Unit)
  | _, _, .rollback _ => (.ok () : Outcome Unit)
  | _, _, .dispose => (.ok () : Outcome Unit)

def articleTable : StoreCall :=
  .execute .pool "create table if not exists \"article\" (\"slug\" text primary key, \"heading\" text, \"labels\" text[])" []
    "create table"

/-- Making room for two record types fails for the first one while the statement for the second one is in progress. -/
theorem drafts_leave_statement : ∃ m, (Moment.start { connected := true }
      ((Operation.ensureSchema (some .text)).task draftsAdapter .plain).run).play crowdedOutside
      [[], [0], [1], [0], [0], []] = some m ∧
    m.running.result? = some (.error (.ofError (.store .execution [] (some "53100")))) ∧
    InProgress [1] articleTable m.history := by
  refine ⟨_, rfl, rfl, [_], [_], rfl, ?_⟩
  intro answer member
  cases List.mem_singleton.1 member

/-- A batch that gives two articles another heading. -/
def headingsWork : Work :=
  .update (.text "article") (.list [.map [(.text "slug", .int 1), (.text "replace", .map [(.text "heading", .text "a")])],
    .map [(.text "slug", .int 2), (.text "replace", .map [(.text "heading", .text "b")])]])

def headingCall (heading : String) (slug : Int) : StoreCall :=
  .execute .pool "update \"article\" set \"heading\" = $1 where \"slug\" = $2" [.text heading, .int slug] "update"

def headingsHistory : List (Event StoreCall StoreCall.Answer) :=
  [.issued [0] (headingCall "a" 1), .issued [1] (headingCall "b" 2),
    .answered [1] (headingCall "b" 2) (.ok {} : Outcome StatementResult),
    .answered [0] (headingCall "a" 1) (.error (.ofError (.store .execution [] (some "53100"))) : Outcome StatementResult)]

def headingsStart : Moment AdapterState StoreCall StoreCall.Answer (Outcome Unit) :=
  .start { connected := true } ((Operation.work headingsWork).task draftsAdapter .plain).run

/-- The second update is answered before the first one, which fails. The batch fails with it, but not before both are done. -/
theorem headings_updated :
    ∃ m, headingsStart.play crowdedOutside [[], [0], [1], [1], [1], [0], [0], []] = some m ∧
      m.running.result? = some (.error (.ofError (.store .execution [] (some "53100")))) ∧ m.history = headingsHistory ∧
      ∀ place call, ¬InProgress place call m.history := by
  refine ⟨_, rfl, rfl, rfl, ?_⟩
  have complete := @operation_completes draftsAdapter .plain { connected := true } crowdedOutside
    [[], [0], [1], [1], [1], [0], [0], []] _ _ (.work headingsWork) rfl rfl
  exact complete.resolve_right fun hasty => hasty.1.elim

end RecordStore.Adapter
