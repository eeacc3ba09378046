import RecordStore.Proofs.Adapter.Effects
import RecordStore.Proofs.Adapter.Update

/-!
# Adapters that are not connected

Work that has no channel for its statements comes to its end without asking for anything, under every schedule. Where it
has no statements it comes to what it would come to anyway; where it has some it fails, and that failure is neither taken
for a conflict nor passed over as that of a column.
-/

namespace RecordStore.Adapter

open RecordStore.Task

variable {store : Store} {adapter : Adapter} {party : Party} {state between after : AdapterState} {log : List Asked}
  {α β : Type}

/-! ### Operations that end without waiting -/

theorem against_of_ended {oracle : Oracle StoreCall StoreCall.Answer} {task : Job α} {result : α} {place : Place}
    {history later : List (Event StoreCall StoreCall.Answer)}
    (ended : task.advance place state history = ⟨after, later, .ended result⟩) :
    later = history ∧ against oracle task state log = ((result, after), log) := by
  induction task generalizing state with
  | done =>
    cases ended
    exact ⟨rfl, rfl⟩
  | look next ih => exact ih state ended
  | change t next ih => exact ih ended
  | note entry next ih => exact ih ended
  | wait free next ih =>
    rw [advance] at ended
    split at ended
    · exact ih ended
    · cases ended
  | call => cases ended
  | settle => cases ended
  | join => cases ended

/-- An operation that comes to its end without waiting for anything. -/
def Halts (operation : Run α) (state : AdapterState) (outcome : Outcome α) (after : AdapterState) : Prop :=
  ∀ place history, operation.run.advance place state history = ⟨after, history, .ended outcome⟩

theorem halts_ofOutcome (outcome : Outcome α) : Halts (ofOutcome outcome) state outcome state := fun _ _ => rfl

theorem halts_ok {operation : Run α} {f : α → Run β} {a : α} {outcome : Outcome β}
    (first : Halts operation state (.ok a) between) (rest : Halts (f a) between outcome after) :
    Halts (operation >>= f) state outcome after := by
  intro place history
  rw [bind_run, advance_bind_ended (first place history)]
  exact rest place history

theorem halts_error {operation : Run α} {failure : Failure} (first : Halts operation state (.error failure) after)
    (f : α → Run β) : Halts (operation >>= f) state (.error failure) after := by
  intro place history
  rw [bind_run, advance_bind_ended (first place history)]
  rfl

theorem halts_handled {operation : Run α} {handle : Failure → Run α} {failure : Failure} {outcome : Outcome α}
    (first : Halts operation state (.error failure) between) (rest : Halts (handle failure) between outcome after) :
    Halts (tryCatch operation handle) state outcome after := by
  intro place history
  rw [tryCatch_run, advance_bind_ended (first place history)]
  exact rest place history

theorem halts_executor (none : state.channel? party = none) {f : Channel → Run α} :
    Halts (executor party >>= f) state (.error (.ofError .notConnected)) state := by
  refine halts_error (halts_ok (fun _ _ => rfl : Halts look state (.ok state) state) ?_) f
  rw [none]
  exact fun _ _ => rfl

theorem Halts.meets {operation : Run α} {outcome : Outcome α} (halts : Halts operation state outcome after) :
    meets store operation state log = ((outcome, after), log) := (against_of_ended (halts [] [])).2

/-! ### Work -/

/-- What work comes to without a channel, by its statements and by what it comes to where it has none. -/
def unserved (idle : α) (built : Outcome (List Statement)) : Outcome α := do
  if (← built).isEmpty then return idle
  else .error (.ofError .notConnected)

/-- An operation that makes keys at most, and ends without waiting. -/
def Stays (operation : Run α) (state : AdapterState) (outcome : Outcome α) : Prop :=
  ∃ keysMade, Halts operation state outcome { state with keysMade }

theorem Halts.stays {operation : Run α} {outcome : Outcome α} (halts : Halts operation state outcome state) :
    Stays operation state outcome := ⟨state.keysMade, halts⟩

theorem stays_outcome {outcome : Outcome α} {f : α → Run β} {idle : β} {built : α → Outcome (List Statement)}
    (each : ∀ a, outcome = .ok a → Stays (f a) state (unserved idle (built a))) :
    Stays (ofOutcome outcome >>= f) state (unserved idle (outcome >>= built)) := by
  cases outcome with
  | error failure => exact (halts_error (halts_ofOutcome _) f).stays
  | ok a =>
    obtain ⟨keysMade, rest⟩ := each a rfl
    exact ⟨keysMade, halts_ok (halts_ofOutcome _) rest⟩

theorem stays_find (none : state.channel? party = none) (typeName keys options : Value) :
    Stays (adapter.find party typeName keys options) state
      (unserved {} ((Work.find typeName keys options).built adapter state.keysMade)) := by
  refine stays_outcome fun type _ => ?_
  by_cases nothing : asksForNone keys
  · rw [if_pos nothing, if_pos nothing]
    exact Halts.stays fun _ _ => rfl
  · rw [if_neg nothing, if_neg nothing]
    exact stays_outcome fun statements _ => (halts_executor none).stays

theorem stays_create (none : state.channel? party = none) (typeName records : Value) :
    Stays (adapter.create party typeName records) state
      (unserved [] ((Work.create typeName records).built adapter state.keysMade)) := by
  refine stays_outcome fun type _ => ?_
  by_cases nothing : (!records.holds) = true
  · rw [if_pos nothing, if_pos nothing]
    exact Halts.stays fun _ _ => rfl
  · rw [if_neg nothing, if_neg nothing]
    refine stays_outcome fun items _ => ?_
    -- The keys are made before the channel is looked for.
    let encoding := (items.mapM (type.encodeRecord adapter.keySource)).run.run state.keysMade
    have encodes : Halts (adapter.encodeAll type items) state (liftM encoding.1) { state with keysMade := encoding.2 } :=
      fun _ _ => rfl
    have still : ({ state with keysMade := encoding.2 } : AdapterState).channel? party = Option.none := by
      rw [← none]
      cases party <;> rfl
    cases encoded : encoding.1 with
    | error misuse =>
      rw [encoded] at encodes
      exact ⟨_, halts_error encodes _⟩
    | ok rows =>
      rw [encoded] at encodes
      obtain ⟨keysMade, rest⟩ := @stays_outcome { state with keysMade := encoding.2 } _ _ (buildInsert type rows)
        (fun made => do
          let result ← tryCatch (do
              let channel ← executor party
              execute channel made.1.sql made.2 "insert")
            fun failure => throw (insertFailure failure)
          ofMisuse (createdRecords type adapter.nesting made.1 rows result.rows)) []
        (fun made => .ok [⟨made.1.sql, made.2, "insert"⟩]) fun _ _ =>
          (halts_error (halts_handled (halts_executor still) fun _ _ => rfl) _).stays
      exact ⟨keysMade, halts_ok encodes rest⟩

theorem stays_delete (none : state.channel? party = none) (typeName keys : Value) :
    Stays (adapter.delete party typeName keys) state
      (unserved (some 0) ((Work.delete typeName keys).built adapter state.keysMade)) := by
  refine stays_outcome fun type _ => stays_outcome fun statement _ => ?_
  cases statement with
  | none => exact Halts.stays fun _ _ => rfl
  | some statement => exact (halts_executor none).stays

/-! ### Batches of updates -/

/-- An update without a channel. -/
def unservedUpdate : UpdateStatement → Outcome Int
  | none => .ok 0
  | some _ => .error (.ofError .notConnected)

theorem endsAtOnce_updateTask (none : state.channel? party = none) (statement : UpdateStatement) :
    EndsAtOnce state (updateTask party statement).run ((unservedUpdate statement).map some) := by
  cases statement with
  | none => exact fun _ _ => rfl
  | some statement => exact halts_handled (halts_executor none) fun _ _ => rfl

theorem updatedCount_unserved (statements : List UpdateStatement) :
    updatedCount ((statements.map unservedUpdate).map (·.map some)) =
      unserved 0 (.ok (statements.filterMap (·.map fun (sql, params) => ⟨sql, params, "update"⟩))) := by
  rw [updatedCount_each]
  induction statements with
  | nil => rfl
  | cons statement rest ih =>
    rw [List.map_cons, List.mapM_cons]
    cases statement with
    | some statement => rfl
    | none =>
      rw [List.filterMap_cons_none rfl, ← ih]
      cases (rest.map unservedUpdate).mapM id with
      | error failure => rfl
      | ok counts => exact congrArg Except.ok (List.sum_cons.trans (Int.zero_add _))

theorem allAgainst_updateTask (none : state.channel? party = none) (statements : List UpdateStatement) :
    allAgainst store ((statements.map (updateTask party)).map ExceptT.run) state log =
      (((statements.map unservedUpdate).map (·.map some), state), log) := by
  induction statements with
  | nil => rfl
  | cons statement rest ih =>
    have once : against store (updateTask party statement).run state log = _ :=
      (against_of_ended (endsAtOnce_updateTask none statement [] [])).2
    simp only [List.map_cons, allAgainst, once, ih]

/-- An operation that comes to its end under every schedule, without asking for anything. -/
structure Idles (operation : Run α) (state : AdapterState) (outcome : Outcome α) : Prop where
  alone : ∃ keysMade, ∀ (store : Store) log, meets store operation state log = ((outcome, { state with keysMade }), log)
  scheduled : ∃ turns, ∀ outside, Moment.Ends outside (.start state operation.run) turns fun result history =>
    result = outcome ∧ history = []

theorem Stays.idles {operation : Run α} {outcome : Outcome α} (stays : Stays operation state outcome) :
    Idles operation state outcome := by
  obtain ⟨keysMade, halts⟩ := stays
  exact ⟨⟨keysMade, fun _ _ => halts.meets⟩, 1, fun _ => Moment.ends_at_once (halts [] [])⟩

theorem Stays.map {operation : Run α} {outcome : Outcome α} (stays : Stays operation state outcome) (f : α → β) :
    Stays (operation >>= fun a => pure (f a)) state (outcome.map f) := by
  obtain ⟨keysMade, halts⟩ := stays
  cases outcome with
  | ok a => exact ⟨keysMade, halts_ok halts fun _ _ => rfl⟩
  | error failure => exact ⟨keysMade, halts_error halts _⟩

theorem stays_update {typeName updates : Value}
    (apart : ∀ type statements, adapter.recordType typeName = .ok type → updateStatements type updates = .ok statements →
      updates.holds = false) :
    Stays (adapter.update party typeName updates) state
      (unserved 0 ((Work.update typeName updates).built adapter state.keysMade)) := by
  refine stays_outcome fun type known => ?_
  by_cases nothing : (!updates.holds) = true
  · rw [if_pos nothing, if_pos nothing]
    exact Halts.stays fun _ _ => rfl
  · rw [if_neg nothing, if_neg nothing]
    cases built : updateStatements type updates with
    | error failure => exact (halts_error (halts_ofOutcome _) _).stays
    | ok statements => exact absurd (apart type statements known built) (by simpa using nothing)

theorem idles_together {type : RecordType} {typeName updates : Value} {statements : List UpdateStatement}
    (none : state.channel? party = none) (known : adapter.recordType typeName = .ok type) (holds : updates.holds)
    (built : updateStatements type updates = .ok statements) (f : Int → β) :
    Idles (adapter.update party typeName updates >>= fun count => pure (f count)) state
      ((updatedCount ((statements.map unservedUpdate).map (·.map some))).map f) := by
  rw [update_holding known holds, built]
  constructor
  · refine ⟨state.keysMade, fun store log => ?_⟩
    have together := @meets_settled store state log _ (statements.map (updateTask party))
    rw [allAgainst_updateTask none] at together
    have counted := (meets_ok (meets_ofOutcome (.ok statements)) fun statements =>
      settled (statements.map (updateTask party)) >>= fun results => ofOutcome (updatedCount results)).trans
        (meets_ok together fun results => ofOutcome (updatedCount results))
    rw [meets_ofOutcome] at counted
    cases outcome : updatedCount ((statements.map unservedUpdate).map (·.map some)) with
    | ok count => exact meets_ok (outcome ▸ counted) _
    | error failure => exact meets_error (outcome ▸ counted) _
  · refine ⟨statements.length * 3 + 2, fun outside => ?_⟩
    generalize tasks : (statements.map (updateTask party)).map ExceptT.run = jobs
    let whole : Run β := (ofOutcome (.ok statements) >>= fun statements =>
      settled (statements.map (updateTask party)) >>= fun results => ofOutcome (updatedCount results)) >>=
        fun count => pure (f count)
    have starts : ∃ next, whole.run.advance [] state [] =
        ⟨state, [], .settling jobs.length (fun i => .ready (jobs.get i)) next⟩ ∧
          ∀ results, next results = .done ((updatedCount results).map f) := by
      subst tasks
      refine ⟨_, rfl, fun results => ?_⟩
      change (ofOutcome (updatedCount results) >>= fun count => pure (f count) : Run β).run = _
      cases updatedCount results <;> rfl
    obtain ⟨next, starts, ends⟩ := starts
    have length : jobs.length = statements.length := by rw [← tasks, List.length_map, List.length_map]
    have follows : ∀ i : Fin jobs.length,
        Follows state (jobs.get i) (.rest ((unservedUpdate (statements.get (i.cast length))).map some)) := by
      subst tasks
      intro i
      rw [List.get_eq_getElem, List.getElem_map, List.getElem_map]
      exact endsAtOnce_updateTask none statements[i.val]
    refine (ends_settled_plans starts follows ends).mono (by rw [length]) ?_
    rintro result history ⟨each, rfl, comes, only⟩
    have own : ∀ i, each i = (unservedUpdate (statements.get (i.cast length))).map some ∧ eventsAt [i.val] history = [] := by
      intro i
      have came := comes i
      generalize each i = result at came ⊢
      generalize eventsAt [i.val] history = events at came ⊢
      cases came
      exact ⟨rfl, rfl⟩
    have all : List.ofFn each = (statements.map unservedUpdate).map (·.map some) := by
      refine List.ext_getElem (by simp [length]) fun i inside _ => ?_
      simpa using (own ⟨i, by simpa using inside⟩).1
    refine ⟨by rw [all], List.eq_nil_iff_forall_not_mem.2 fun event member => ?_⟩
    obtain ⟨i, place⟩ := only event member
    have here : event ∈ eventsAt [i.val] history := List.mem_filter.2 ⟨member, by simpa using place⟩
    rw [(own i).2] at here
    cases here

theorem idles_update (none : state.channel? party = none) (typeName updates : Value) (f : Int → β) :
    Idles (adapter.update party typeName updates >>= fun count => pure (f count)) state
      ((unserved 0 ((Work.update typeName updates).built adapter state.keysMade)).map f) := by
  by_cases together : ∃ type statements, adapter.recordType typeName = .ok type ∧
      updateStatements type updates = .ok statements ∧ updates.holds = true
  · obtain ⟨type, statements, known, built, holds⟩ := together
    have same : (Work.update typeName updates).built adapter state.keysMade =
        .ok (statements.filterMap (·.map fun (sql, params) => ⟨sql, params, "update"⟩)) := by
      rw [Work.built, known]
      dsimp only [Bind.bind, Except.bind]
      rw [holds, built]
      rfl
    rw [same, ← updatedCount_unserved]
    exact idles_together none known holds built f
  · refine ((stays_update fun type statements known built => ?_).map f).idles
    by_contra holds
    exact together ⟨type, statements, known, built, by simpa using holds⟩

/-! ### Since the last disconnecting -/

/-- Whether there was no connecting since the start, or since the last disconnecting. -/
def Idle {ι : Type} (connect disconnect : ι) (made : List ι) : Prop :=
  ∀ before after, made = before ++ connect :: after → disconnect ∈ after

theorem Idle.before {ι : Type} {connect disconnect last : ι} {made : List ι}
    (idle : Idle connect disconnect (made ++ [last])) :
    last = disconnect ∨ last ≠ connect ∧ Idle connect disconnect made := by
  by_cases ends : last = disconnect
  · exact .inl ends
  · refine .inr ⟨?_, fun before after same => ?_⟩
    · rintro rfl
      cases idle made [] rfl
    · have among := idle before (after ++ [last]) (by rw [same, List.append_assoc]; rfl)
      simpa [Ne.symm ends] using among

theorem idle_disconnected {ι : Type} {connect disconnect : ι} (different : connect ≠ disconnect) (made : List ι) :
    Idle connect disconnect (made ++ [disconnect]) := by
  intro before after same
  obtain ⟨-, rfl, -⟩ | ⟨rest, rfl, -⟩ := split_last same
  · exact absurd rfl different
  · exact List.mem_append_right _ (List.mem_singleton_self _)

/-! ### Commands -/

/-- What comes back from what was asked of an adapter. -/
inductive Told where
  | done
  | session (number : Nat)
  | found (records : Found)
  | created (records : List Value)
  | updated (rows : Int)
  | deleted (rows : Option Int)

/-- What is asked of an adapter itself and not of one of its sessions. -/
inductive Command where
  | connect
  | disconnect
  | begin
  | work (records : Work)

def Work.told (adapter : Adapter) : Work → Run Told
  | find typeName keys options => do return .found (← adapter.find .plain typeName keys options)
  | create typeName records => do return .created (← adapter.create .plain typeName records)
  | update typeName updates => do return .updated (← adapter.update .plain typeName updates)
  | delete typeName keys => do return .deleted (← adapter.delete .plain typeName keys)

def Command.task (adapter : Adapter) : Command → Run Told
  | connect => do
    adapter.connect .plain
    return .done
  | disconnect => do
    Adapter.disconnect .plain
    return .done
  | begin => do return .session (← beginTransaction .plain)
  | work records => records.told adapter

/-- What work without statements comes to: no records, no keys to look for, nothing to change. -/
def Work.idle : Work → Told
  | find .. => .found {}
  | create .. => .created []
  | update .. => .updated 0
  | delete .. => .deleted (some 0)

/-- What a command that needs the store comes to as long as the adapter is not connected. -/
def Command.unserved? (adapter : Adapter) (keysMade : Nat) : Command → Option (Outcome Told)
  | connect | disconnect => none
  | begin => some (.error (.ofError .notConnected))
  | work records => some (unserved records.idle (records.built adapter keysMade))

theorem map_unserved (f : α → β) (idle : α) (built : Outcome (List Statement)) :
    (unserved idle built).map f = unserved (f idle) built := by
  cases built with
  | error failure => rfl
  | ok statements => cases statements <;> rfl

theorem idles_work (none : state.channel? .plain = none) (records : Work) :
    Idles (records.told adapter) state (unserved records.idle (records.built adapter state.keysMade)) := by
  cases records with
  | find typeName keys options =>
    exact map_unserved Told.found .. ▸ ((stays_find none typeName keys options).map Told.found).idles
  | create typeName records =>
    exact map_unserved Told.created .. ▸ ((stays_create none typeName records).map Told.created).idles
  | update typeName updates => exact map_unserved Told.updated .. ▸ idles_update none typeName updates Told.updated
  | delete typeName keys =>
    exact map_unserved Told.deleted .. ▸ ((stays_delete none typeName keys).map Told.deleted).idles

theorem idles_command (unconnected : state.connected = false) {command : Command} {outcome : Outcome Told}
    (needs : command.unserved? adapter state.keysMade = some outcome) : Idles (command.task adapter) state outcome := by
  cases command with
  | connect | disconnect => cases needs
  | begin =>
    cases needs
    have refuses : Halts (beginTransaction .plain) state (.error (.ofError .notConnected)) state := by
      unfold beginTransaction
      refine halts_ok (fun _ _ => rfl : Halts look state (.ok state) state) ?_
      rw [unconnected]
      exact fun _ _ => rfl
    exact (halts_error refuses _).stays.idles
  | work records =>
    cases needs
    refine idles_work ?_ records
    unfold AdapterState.channel?
    rw [unconnected]
    rfl

abbrev Served := Step Command AdapterState StoreCall StoreCall.Answer (Outcome Told)

/-- The commands of a run, one after the other, with what each of them came to. -/
def serve (store : Store) (adapter : Adapter) (commands : List Command) (state : AdapterState) : List Served :=
  stepsOf store (fun command => (command.task adapter).run) commands state []

theorem disconnects (store : Store) (state : AdapterState) (log : List Asked) :
    (meets store (Command.disconnect.task adapter) state log).1.2.connected = false := by
  obtain ⟨outcome, asked, came, _⟩ := meets_disconnect store state log
  unfold Command.task
  cases outcome with
  | ok _ =>
    rw [meets_ok came]
    rfl
  | error failure => rw [meets_error came]

/-- A command that asked for nothing and would not under any schedule, and came to what it does without a connection. -/
structure Unserved (adapter : Adapter) (step : Served) (outcome : Outcome Told) : Prop where
  asked : step.asked = []
  result : step.result = outcome
  scheduled : ∃ turns, ∀ outside, Moment.Ends outside (.start step.before (step.made.task adapter).run) turns
    fun result history => result = outcome ∧ history = []

theorem keeps_unconnected {command : Command} {result : Outcome Told} {asked : List Asked}
    (came : meets store (command.task adapter) state log = ((result, after), log ++ asked))
    (kinds : command = .disconnect ∨ command ≠ .connect ∧ state.connected = false) : after.connected = false := by
  have ended : after = (meets store (command.task adapter) state log).1.2 := by rw [came]
  obtain rfl | ⟨other, unconnected⟩ := kinds
  · exact ended ▸ disconnects store state log
  · have idles : ∀ outcome, command.unserved? adapter state.keysMade = some outcome → after.connected = false := by
      intro outcome needs
      obtain ⟨keysMade, alone⟩ := (idles_command unconnected needs).alone
      rw [ended, alone]
      exact unconnected
    cases command with
    | connect => exact absurd rfl other
    | disconnect => exact ended ▸ disconnects store state log
    | begin | work => exact idles _ rfl

/-- As long as an adapter is idle it is not connected. -/
theorem unconnected_while_idle (store : Store) (adapter : Adapter) (commands : List Command) (hasStore : Bool) :
    ∀ earlier step later, serve store adapter commands { hasStore } = earlier ++ step :: later →
      Idle .connect .disconnect (earlier.map (·.made)) → step.before.connected = false ∧ ∃ after log,
        meets store (step.made.task adapter) step.before log = ((step.result, after), log ++ step.asked) := by
  refine (@stepsOf_induction _ _ _ _ store { hasStore } [] _ (fun command => (command.task adapter).run) (fun steps state =>
    (∀ earlier step later, steps = earlier ++ step :: later → Idle .connect .disconnect (earlier.map (·.made)) →
      step.before.connected = false ∧ ∃ after log,
        meets store (step.made.task adapter) step.before log = ((step.result, after), log ++ step.asked)) ∧
    (Idle .connect .disconnect (steps.map (·.made)) → state.connected = false)) ?_ commands [] ⟨?_, fun _ => rfl⟩).1
  · rintro steps state command result after asked ⟨each, unconnected⟩ came
    constructor
    · intro earlier step later split idle
      obtain ⟨rfl, rfl, rfl⟩ | ⟨rest, rfl, rfl⟩ := split_last split
      · exact ⟨unconnected idle, after, _, came⟩
      · exact each earlier step rest rfl idle
    · intro idle
      rw [List.map_append] at idle
      obtain disconnects | ⟨other, before⟩ := idle.before
      · exact keeps_unconnected came (.inl disconnects)
      · exact keeps_unconnected came (.inr ⟨other, unconnected before⟩)
  · intro earlier step later split
    cases earlier <;> cases split

/-- From when an adapter was made, and from each time it was disconnected, until it is connected again, nothing that is
asked of it reaches the store, whatever the store answered before and under every schedule. Where work has statements, or
a transaction is to be begun, the adapter says that it is not connected. -/
theorem nothing_asked_while_idle (store : Store) (adapter : Adapter) (commands : List Command) (hasStore : Bool)
    {earlier later : List Served} {step : Served} (run : serve store adapter commands { hasStore } = earlier ++ step :: later)
    (idle : Idle .connect .disconnect (earlier.map (·.made))) {outcome : Outcome Told}
    (needs : step.made.unserved? adapter step.before.keysMade = some outcome) : Unserved adapter step outcome := by
  obtain ⟨unconnected, after, log, came⟩ := unconnected_while_idle store adapter commands hasStore earlier step later run idle
  obtain ⟨⟨keysMade, alone⟩, scheduled⟩ := idles_command unconnected needs
  rw [alone] at came
  obtain ⟨⟨rfl, -⟩, more⟩ : (outcome = step.result ∧ _) ∧ log = log ++ step.asked := by simpa using came
  exact ⟨List.self_eq_append_right.1 more, rfl, scheduled⟩

/-- A store that cannot be closed. -/
def stuckStore : Store
  | _, .dispose => (.error (sampleFailure "57P03") : Outcome Unit)
  | log, other => answering (.ok {}) log other

/-- A failure to close the store leaves the adapter disconnected: a batch of updates is refused as a whole. -/
theorem batchSample_unserved : ∃ connects disconnects step,
    serve stuckStore articlesAdapter [.connect, .disconnect, .work (.update (.text "article") batchSample)]
        { hasStore := true } = [connects, disconnects, step] ∧
      disconnects.result = .error (sampleFailure "57P03") ∧ step.result = .error (.ofError .notConnected) ∧ step.asked = [] := by
  have different : Command.connect ≠ .disconnect := nofun
  have idle : Idle .connect .disconnect [Command.connect, .disconnect] := idle_disconnected different [.connect]
  have served := @nothing_asked_while_idle stuckStore articlesAdapter
    [.connect, .disconnect, .work (.update (.text "article") batchSample)] true [_, _] [] _ rfl idle _ rfl
  exact ⟨_, _, _, rfl, rfl, served.result, served.asked⟩

end RecordStore.Adapter
