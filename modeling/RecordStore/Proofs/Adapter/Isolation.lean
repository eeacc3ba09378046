import RecordStore.Proofs.Adapter.Completion
import RecordStore.Proofs.Adapter.Sessions

/-!
# Sessions stay apart

Any number of sessions begun from one adapter, used in any order together with it, whatever the store answers: every
transaction gets the statements of its own session and no others, it is ended at most once, and nothing happens in it after
that.
-/

namespace RecordStore.Adapter

open RecordStore.Task

variable {store : Store} {adapter : Adapter} {state after : AdapterState} {log : List Asked} {use : Use}
  {outcome : Outcome Unit} {asked : List Asked}

/-! ### One use by itself -/

/-- What holds of every use, after all that was done earlier. -/
structure Proper (adapter : Adapter) (earlier : History)
    (step : Step Use AdapterState StoreCall StoreCall.Answer (Outcome Unit)) : Prop where
  /-- Work makes its own statements, and they go where those of its party belong. -/
  issues : ∀ party records, step.made = .work party records → step.asked.map (·.call) =
    issuedOn (lineOf earlier step.before.connected party) (records.built adapter step.before.keysMade)
  /-- Ending a session that has a transaction asks for one commit or rollback of it, and for nothing else. -/
  attempts : ∀ n withRollback transaction, step.made.ends? = some (n, withRollback) →
    (owned earlier)[n]?.join = some transaction → ∃ answer, step.asked = [endCall transaction withRollback answer]
  /-- Ending a session that has none is refused. -/
  refuses : ∀ n error withRollback, step.made = .finish n error withRollback → (owned earlier)[n]?.join = none →
    step.result = .error (.ofError .transactionClosed) ∧ step.asked = []
  /-- Only the parent closes the store. -/
  disposes : ∀ exchange ∈ step.asked, exchange.call = .dispose → step.made = .disconnect .plain
  /-- A failure of a block is what comes out of it. -/
  fails : ∀ n failure, step.made = .leave n (.error failure) → step.result = .error failure

theorem Effect.proper {earlier : History} (effect : Effect store adapter state log use outcome after asked)
    (owns : owned earlier = state.sessions.map ownTransaction?) : Proper adapter earlier ⟨use, state, outcome, asked⟩ where
  issues party records made := by
    dsimp only at made ⊢
    subst made
    rw [← channel?_eq_lineOf owns]
    cases effect with
    | work calls => exact calls
    | ended ends => cases ends
    | late ends => cases ends
  attempts n withRollback transaction ends has := by
    dsimp only at ends ⊢
    rw [owns, join_ownTransaction?] at has
    obtain ⟨own, found, rfl⟩ := Option.map_eq_some_iff.1 has
    obtain plain | ⟨_, rfl, _⟩ | ⟨_, _, _, answer, made, opened, _, rfl⟩ := effect.plain_begins_or_ends
    · rw [plain.past n withRollback ends] at found
      cases found
    · cases ends
    · cases made.symm.trans ends
      cases opened.symm.trans found
      exact ⟨answer, rfl⟩
  refuses n error withRollback made none := by
    dsimp only at made ⊢
    rw [owns, join_ownTransaction?, Option.map_eq_none_iff] at none
    subst made
    cases effect with
    | ended ends found =>
      cases ends
      rw [none] at found
      cases found
    | late => exact ⟨rfl, rfl⟩
  disposes exchange member disposed := by
    dsimp only at member ⊢
    cases effect with
    | work calls =>
      obtain ⟨channel, runs, _⟩ := speaks_work (calls ▸ List.mem_map_of_mem member)
      rw [disposed] at runs
      cases runs
    | connected own => exact (disposed ▸ own exchange member : OnPool .dispose).elim
    | disconnected => rfl
    | begun => cases (congrArg _ (List.mem_singleton.1 member)).symm.trans disposed
    | unbegun => cases (congrArg _ (List.mem_singleton.1 member)).symm.trans disposed
    | @ended _ _ withRollback _ _ _ _ =>
      rw [List.mem_singleton.1 member, endCall_call] at disposed
      cases withRollback <;> cases disposed
    | refusedBegin => cases member
    | refusedConnect => cases member
    | late => cases member
  fails n failure made := by
    dsimp only at made ⊢
    subst made
    cases effect with
    | ended => rfl
    | late => rfl

/-! ### A whole history -/

/-- What holds of everything that was done with an adapter and its sessions. The session with number `n` has the transaction
that was begun as the `n`th. -/
structure Isolated (adapter : Adapter) (history : History) : Prop where
  each : ∀ earlier step later, history = earlier ++ step :: later → Proper adapter earlier step
  apart : (contexts (askedIn history)).Nodup
  /-- No call is about a transaction that was not begun. -/
  known : ∀ exchange ∈ askedIn history, ∀ transaction, transactionOf? exchange.call = some transaction →
    transaction ∈ contexts (askedIn history)
  /-- The connections of the store get the parent's statements and no others. -/
  pool : statementsOn .pool (askedIn history) = statementsBy .plain history
  /-- A transaction gets the statements of its own session and no others. -/
  own : ∀ n transaction, (contexts (askedIn history))[n]? = some transaction →
    statementsOn (.transaction transaction) (askedIn history) = statementsBy (.session n) history
  /-- After a commit or a rollback nothing more is asked of a transaction. -/
  once : (askedIn history).Pairwise fun earlier later =>
    ∀ transaction, endOf? earlier.call = some transaction → transactionOf? later.call ≠ some transaction
  commits : ∀ step ∈ history, ∀ exchange ∈ step.asked, ∀ transaction, exchange.call = .commit transaction →
    ∃ n, (contexts (askedIn history))[n]? = some transaction ∧
      (step.made = .finish n none false ∨ ∃ result, step.made = .leave n (.ok result))
  rollbacks : ∀ step ∈ history, ∀ exchange ∈ step.asked, ∀ transaction, exchange.call = .rollback transaction →
    ∃ n, (contexts (askedIn history))[n]? = some transaction ∧ step.made.ends? = some (n, true)
  /-- A session is over once it was ended in any way, also where that failed. -/
  again : history.Pairwise fun earlier later => ∀ n withRollback, earlier.made.ends? = some (n, withRollback) →
    (earlier.before.session? n).isSome → ∀ error withRollback, later.made = .finish n error withRollback →
      later.result = .error (.ofError .transactionClosed) ∧ later.asked = []

/-- What the state of an adapter tells about all that was done. -/
structure Tracked (adapter : Adapter) (history : History) (now : AdapterState) : Prop where
  numbers : now.sessions.map (·.transaction) = contexts (askedIn history)
  owns : owned history = now.sessions.map ownTransaction?
  running : ∀ n own, openSession? now n = some own → ∀ exchange ∈ askedIn history, endOf? exchange.call ≠ some own.transaction
  past : ∀ step ∈ history, ∀ n withRollback, step.made.ends? = some (n, withRollback) → (step.before.session? n).isSome →
    (now.session? n).isSome ∧ openSession? now n = none
  unused : ∀ n, (contexts (askedIn history))[n]? = none → statementsBy (.session n) history = []
  isolated : Isolated adapter history

theorem askedIn_append (history : History) (step : Step Use AdapterState StoreCall StoreCall.Answer (Outcome Unit)) :
    askedIn (history ++ [step]) = askedIn history ++ step.asked := by simp [askedIn]

theorem tracked_start (adapter : Adapter) (none : state.sessions = []) : Tracked adapter [] state where
  numbers := congrArg _ none
  owns := by
    rw [none]
    rfl
  running _ _ _ := nofun
  past := nofun
  unused _ _ := rfl
  isolated :=
    { each := fun earlier _ _ split => by cases earlier <;> cases split
      apart := .nil
      known := nofun
      pool := rfl
      own := fun _ _ none => by cases none
      once := .nil
      commits := nofun
      rollbacks := nofun
      again := .nil }

section Step

variable {history : History} (tracked : Tracked adapter history state)
  (effect : Effect store adapter state (askedIn history) use outcome after asked)

include effect in
/-- Of what a use says, a channel gets all if it belongs to the party, and nothing otherwise. -/
theorem Effect.statementsOn_step {channel : Channel} {party : Party}
    (owner : ∀ other, Speaks state other use.party → (other = channel ↔ use.party = party)) :
    statementsOn channel asked = if use.party = party then statements asked else [] := by
  split
  · next same =>
    exact statementsOn_all fun exchange member other found => (owner other (effect.speaks exchange member other found)).2 same
  · next different =>
    exact statementsOn_none fun exchange member found =>
      different ((owner channel (effect.speaks exchange member channel found)).1 rfl)

include tracked

theorem Tracked.number {n : Nat} {own : Session} (found : openSession? state n = some own) :
    (contexts (askedIn history))[n]? = some own.transaction := by
  have there := (Option.filter_eq_some_iff.1 found).1
  rw [← tracked.numbers, List.getElem?_map]
  exact congrArg (Option.map _) there

theorem Tracked.same_session {n m : Nat} {own : Session} (found : openSession? state n = some own)
    (here : (contexts (askedIn history))[m]? = some own.transaction) : n = m := by
  have there := tracked.number found
  exact (List.getElem?_inj (List.getElem?_eq_some_iff.1 there).1 tracked.isolated.apart).1 (there.trans here.symm)

include effect

theorem Tracked.numbers_step : after.sessions.map (·.transaction) = contexts (askedIn history ++ asked) := by
  rw [contexts_append, ← tracked.numbers]
  obtain plain | ⟨_, _, _, rfl, rfl⟩ | ⟨n, withRollback, _, _, _, _, rfl, rfl⟩ := effect.plain_begins_or_ends
  · rw [plain.kept, plain.begins, List.append_nil]
  · exact List.map_append
  · rw [transactions_closeSession]
    rw [contexts_endCall, List.append_nil]

theorem Tracked.running_step (apart : GivesApart store) {m : Nat} {open' : Session}
    (found : openSession? after m = some open') :
    ∀ exchange ∈ askedIn history ++ asked, endOf? exchange.call ≠ some open'.transaction := by
  obtain plain | ⟨_, _, answered, rfl, rfl⟩ | ⟨n, withRollback, own, _, _, closed, rfl, rfl⟩ := effect.plain_begins_or_ends
  · rw [openSession?_congr plain.kept] at found
    refine List.forall_mem_append.2 ⟨tracked.running m open' found, fun exchange member => ?_⟩
    rw [plain.ends exchange member]
    nofun
  · refine List.forall_mem_append.2 ⟨fun exchange member ends => ?_, fun exchange member => ?_⟩
    · obtain old | rfl := openSession?_addSession found
      · exact tracked.running m open' old exchange member ends
      · exact apart _ _ answered (tracked.isolated.known exchange member _ (transactionOf?_of_endOf? ends))
    · rw [List.mem_singleton.1 member]
      nofun
  · obtain ⟨other, old⟩ := openSession?_closeSession found
    refine List.forall_mem_append.2 ⟨tracked.running m open' old, fun exchange member ends => ?_⟩
    rw [List.mem_singleton.1 member, endOf?_endCall] at ends
    exact other (tracked.same_session old (Option.some.inj ends ▸ tracked.number closed))

omit effect in
theorem Tracked.contexts_step (apart : GivesApart store)
    (effect : Effect store adapter state (askedIn history) use outcome after asked) :
    (contexts (askedIn history ++ asked)).Nodup := by
  rw [contexts_append]
  obtain plain | ⟨transaction, _, answered, _, rfl⟩ | ⟨_, withRollback, _, _, _, _, _, rfl⟩ := effect.plain_begins_or_ends
  · rw [plain.begins, List.append_nil]
    exact tracked.isolated.apart
  · exact tracked.isolated.apart.append (List.nodup_singleton transaction)
      (List.disjoint_singleton.2 (apart _ _ answered))
  · rw [contexts_endCall, List.append_nil]
    exact tracked.isolated.apart

/-- A call about a transaction comes from the session that has it, which is open. -/
theorem Tracked.about_step {exchange : Asked} (member : exchange ∈ asked) {transaction : Nat}
    (about : transactionOf? exchange.call = some transaction) :
    ∃ n own, use.party = .session n ∧ openSession? state n = some own ∧ own.transaction = transaction ∧
      (contexts (askedIn history))[n]? = some transaction := by
  obtain ⟨n, own, party, found, rfl⟩ := effect.about exchange member transaction about
  exact ⟨n, own, party, found, rfl, tracked.number found⟩

theorem Tracked.once_step : (askedIn history ++ asked).Pairwise fun earlier later =>
    ∀ transaction, endOf? earlier.call = some transaction → transactionOf? later.call ≠ some transaction := by
  refine List.pairwise_append.2 ⟨tracked.isolated.once, ?_, fun earlier before later member transaction ends about => ?_⟩
  · obtain plain | ⟨_, _, _, _, rfl⟩ | ⟨_, _, _, _, _, _, _, rfl⟩ := effect.plain_begins_or_ends
    · refine List.pairwise_of_forall_mem_list fun earlier member _ _ transaction ends => ?_
      rw [plain.ends earlier member] at ends
      cases ends
    · exact List.pairwise_singleton ..
    · exact List.pairwise_singleton ..
  · obtain ⟨n, own, _, found, rfl, _⟩ := tracked.about_step effect member about
    exact tracked.running n own found earlier before ends

theorem Tracked.statements_of_other {n : Nat} (none : (contexts (askedIn history))[n]? = none)
    (party : use.party = .session n) : statements asked = [] := by
  refine List.filter_eq_nil_iff.2 fun call member runs => ?_
  obtain ⟨exchange, asks, rfl⟩ := List.mem_map.1 member
  obtain ⟨channel, found⟩ := Option.isSome_iff_exists.1 runs
  have speaks := effect.speaks exchange asks channel found
  rw [party] at speaks
  obtain ⟨own, opened, _⟩ := speaks
  rw [tracked.number opened] at none
  cases none

theorem Tracked.unused_step {n : Nat} (none : (contexts (askedIn history ++ asked))[n]? = none) :
    statementsBy (.session n) (history ++ [⟨use, state, outcome, asked⟩]) = [] := by
  have before : (contexts (askedIn history))[n]? = Option.none := by
    rw [contexts_append] at none
    exact List.getElem?_eq_none (le_trans (by simp) (List.getElem?_eq_none_iff.1 none))
  rw [statementsBy_append, tracked.unused n before, List.nil_append]
  split
  · next party => exact tracked.statements_of_other effect before party
  · rfl

theorem Tracked.pool_step : statementsOn .pool (askedIn history ++ asked) =
    statementsBy .plain (history ++ [⟨use, state, outcome, asked⟩]) := by
  rw [statementsOn_append, statementsBy_append, tracked.isolated.pool]
  refine congrArg _ (effect.statementsOn_step fun other speaks => ?_)
  cases party : use.party with
  | plain =>
    rw [party] at speaks
    exact iff_of_true speaks rfl
  | session n =>
    rw [party] at speaks
    obtain ⟨own, _, rfl⟩ := speaks
    exact iff_of_false nofun nofun

theorem Tracked.own_step (apart : GivesApart store) {n transaction : Nat}
    (here : (contexts (askedIn history ++ asked))[n]? = some transaction) :
    statementsOn (.transaction transaction) (askedIn history ++ asked) =
      statementsBy (.session n) (history ++ [⟨use, state, outcome, asked⟩]) := by
  rw [statementsOn_append, statementsBy_append]
  cases before : (contexts (askedIn history))[n]? with
  | some old =>
    rw [contexts_append, List.getElem?_append_left (List.getElem?_eq_some_iff.1 before).1] at here
    rw [tracked.isolated.own n transaction here]
    refine congrArg _ (effect.statementsOn_step fun other speaks => ?_)
    cases party : use.party with
    | plain =>
      rw [party] at speaks
      subst speaks
      exact iff_of_false nofun nofun
    | session m =>
      rw [party] at speaks
      obtain ⟨own, opened, rfl⟩ := speaks
      refine ⟨fun same => ?_, fun same => ?_⟩
      · exact congrArg _ (tracked.same_session opened (Channel.transaction.inj same ▸ here))
      · cases same
        exact congrArg _ (Option.some.inj ((tracked.number opened).symm.trans here))
  | none =>
    -- The transaction was begun just now.
    have new : transaction ∈ contexts asked := by
      rw [contexts_append, List.getElem?_append_right (List.getElem?_eq_none_iff.1 before)] at here
      exact List.mem_of_getElem? here
    have unknown : transaction ∉ contexts (askedIn history) := fun old => by
      have all := tracked.contexts_step apart effect
      rw [contexts_append] at all
      exact List.disjoint_of_nodup_append all old new
    have past : statementsOn (.transaction transaction) (askedIn history) = [] :=
      statementsOn_none fun exchange member runs =>
      unknown (tracked.isolated.known exchange member transaction (transactionOf?_of_channelOf? runs))
    have present : statementsOn (.transaction transaction) asked = [] := statementsOn_none fun exchange member runs => by
      obtain ⟨n, _, _, _, _, number⟩ := tracked.about_step effect member (transactionOf?_of_channelOf? runs)
      exact unknown (List.mem_of_getElem? number)
    rw [past, present, tracked.unused n before]
    split
    · next party => rw [tracked.statements_of_other effect before party]
    · rfl

theorem Tracked.known_step : ∀ exchange ∈ askedIn history ++ asked, ∀ transaction,
    transactionOf? exchange.call = some transaction → transaction ∈ contexts (askedIn history ++ asked) := by
  rw [contexts_append]
  refine List.forall_mem_append.2 ⟨fun exchange member transaction about => ?_, fun exchange member transaction about => ?_⟩
  · exact List.mem_append_left _ (tracked.isolated.known exchange member transaction about)
  · obtain ⟨_, _, _, _, _, number⟩ := tracked.about_step effect member about
    exact List.mem_append_left _ (List.mem_of_getElem? number)

omit tracked effect in
theorem contexts_mono {n transaction : Nat} (asked : List Asked) (here : (contexts log)[n]? = some transaction) :
    (contexts (log ++ asked))[n]? = some transaction := by
  rw [contexts_append, List.getElem?_append_left (List.getElem?_eq_some_iff.1 here).1, here]

theorem Tracked.ends_step {exchange : Asked} (member : exchange ∈ asked) {transaction : Nat}
    (ends : endOf? exchange.call = some transaction) :
    ∃ n withRollback, use.ends? = some (n, withRollback) ∧ (contexts (askedIn history))[n]? = some transaction ∧
      exchange.call = if withRollback then .rollback transaction else .commit transaction := by
  obtain plain | ⟨_, _, _, _, rfl⟩ | ⟨n, withRollback, own, answer, made, opened, _, rfl⟩ := effect.plain_begins_or_ends
  · rw [plain.ends exchange member] at ends
    cases ends
  · rw [List.mem_singleton.1 member] at ends
    cases ends
  · rw [List.mem_singleton.1 member] at ends ⊢
    cases (endOf?_endCall ..).symm.trans ends
    exact ⟨n, withRollback, made, tracked.number opened, endCall_call ..⟩

end Step

theorem finish_or_leave {n : Nat} (ends : use.ends? = some (n, false)) :
    use = .finish n none false ∨ ∃ result, use = .leave n (.ok result) := by
  cases use with
  | work => cases ends
  | connect => cases ends
  | begin => cases ends
  | disconnect party => cases party <;> cases ends
  | finish session error withRollback =>
    cases error with
    | some => cases ends
    | none =>
      cases ends
      exact .inl rfl
  | leave session body =>
    cases body with
    | ok result =>
      cases ends
      exact .inr ⟨result, rfl⟩
    | error => cases ends

theorem tracked_step {history : History} (apart : GivesApart store) (tracked : Tracked adapter history state)
    (effect : Effect store adapter state (askedIn history) use outcome after asked) :
    Tracked adapter (history ++ [⟨use, state, outcome, asked⟩]) after := by
  have begun := askedIn_append history ⟨use, state, outcome, asked⟩
  exact
    { numbers := begun ▸ tracked.numbers_step effect
      owns := by
        rw [owned, List.foldl_concat]
        exact (congrArg (ownedAfter · _) tracked.owns).trans effect.owned_step
      running := fun _ _ found => begun ▸ tracked.running_step effect apart found
      past := by
        refine List.forall_mem_append.2 ⟨fun step member n _ ends there => ?_, fun step member n _ ends there => ?_⟩
        · exact effect.over_step (tracked.past step member n _ ends there)
        · cases List.mem_singleton.1 member
          exact effect.over_of_ends ends there
      unused := fun _ none => tracked.unused_step effect (begun ▸ none)
      isolated :=
        { each := fun earlier step later split => by
            obtain ⟨rfl, rfl, rfl⟩ | ⟨rest, rfl, rfl⟩ := split_last split
            · exact effect.proper tracked.owns
            · exact tracked.isolated.each earlier step rest rfl
          apart := begun ▸ tracked.contexts_step apart effect
          known := begun ▸ tracked.known_step effect
          pool := begun ▸ tracked.pool_step effect
          own := begun ▸ fun _ _ => tracked.own_step effect apart
          once := begun ▸ tracked.once_step effect
          commits := by
            rw [begun]
            refine List.forall_mem_append.2 ⟨fun step member exchange asks transaction commits => ?_,
              List.forall_mem_singleton.2 fun exchange asks transaction commits => ?_⟩
            · obtain ⟨n, here, made⟩ := tracked.isolated.commits step member exchange asks transaction commits
              exact ⟨n, contexts_mono asked here, made⟩
            · obtain ⟨n, withRollback, ends, here, same⟩ := tracked.ends_step effect asks (congrArg endOf? commits)
              cases withRollback with
              | true => cases commits.symm.trans same
              | false => exact ⟨n, contexts_mono asked here, finish_or_leave ends⟩
          rollbacks := by
            rw [begun]
            refine List.forall_mem_append.2 ⟨fun step member exchange asks transaction rollbacks => ?_,
              List.forall_mem_singleton.2 fun exchange asks transaction rollbacks => ?_⟩
            · obtain ⟨n, here, made⟩ := tracked.isolated.rollbacks step member exchange asks transaction rollbacks
              exact ⟨n, contexts_mono asked here, made⟩
            · obtain ⟨n, withRollback, ends, here, same⟩ := tracked.ends_step effect asks (congrArg endOf? rollbacks)
              cases withRollback with
              | true => exact ⟨n, contexts_mono asked here, ends⟩
              | false => cases rollbacks.symm.trans same
          again := by
            refine List.pairwise_append.2
              ⟨tracked.isolated.again, List.pairwise_singleton .., fun earlier member later last => ?_⟩
            cases List.mem_singleton.1 last
            intro n _ ends there error withRollback made
            refine (effect.proper tracked.owns).refuses n error withRollback made ?_
            rw [tracked.owns, join_ownTransaction?, (tracked.past earlier member n _ ends there).2]
            rfl } }

/-- Whatever is done with an adapter and with any number of sessions begun from it, in any order and whatever the store
answers, the sessions stay apart. -/
theorem sessions_isolated (apart : GivesApart store) (adapter : Adapter) (uses : List Use) (none : state.sessions = []) :
    Isolated adapter (stepsOf store (fun use => (use.task adapter).run) uses state []) := by
  have each : ∀ {history : History} {now use outcome after asked}, Tracked adapter history now →
      against store (Use.task adapter use).run now ([] ++ askedIn history) =
        ((outcome, after), [] ++ askedIn history ++ asked) →
      Tracked adapter (history ++ [⟨use, now, outcome, asked⟩]) after := by
    intro history now use outcome after asked tracked came
    obtain ⟨_, _, _, met, effect⟩ := @effect_of_use store adapter now (askedIn history) use
    obtain ⟨same, grown⟩ := Prod.mk.inj (met.symm.trans came)
    obtain ⟨rfl, rfl⟩ := Prod.mk.inj same
    obtain rfl := List.append_cancel_left grown
    exact tracked_step apart tracked effect
  exact (stepsOf_induction each uses (tracked_start adapter none)).isolated

/-- A store that numbers its transactions from one, has no rows and cannot roll anything back. -/
def numbering : Store
  | log, .begin => (.ok ((contexts log).foldr max 0 + 1) : Outcome Nat)
  | _, .open .. => (.ok () : Outcome Unit)
  | _, .execute _ _ _ operation =>
    (.ok ⟨if operation = "count" then [.map [(.text "count", .int 0)]] else [], some 0⟩ : Outcome StatementResult)
  | _, .commit _ => (.ok () : Outcome Unit)
  | _, .rollback _ => (.error (.ofError (generalError "connection lost")) : Outcome Unit)
  | _, .dispose => (.ok () : Outcome Unit)

theorem numbering_apart : GivesApart numbering := by
  intro log transaction answered member
  have below : ∀ numbers : List Nat, ∀ number ∈ numbers, number ≤ numbers.foldr max 0 := by
    intro numbers
    induction numbers with
    | nil => nofun
    | cons first rest ih =>
      intro number member
      obtain rfl | later := List.mem_cons.1 member
      · exact le_max_left ..
      · exact (ih number later).trans (le_max_right ..)
  have above : (contexts log).foldr max 0 + 1 = transaction := Except.ok.inj answered
  have known := below (contexts log) transaction member
  omega

def draftWork (key : String) : Work := .create (.text "draft") (.list [.map [(.text "slug", .text key)]])

def searchWork (type : String) : Work := .find (.text type) .null .null

def deletionWork (type : String) : Work := .delete (.text type) (.list [.text "a"])

/-- Work of the parent and of two sessions in turn. The block of the first session fails, and so does its rollback; what it
tries after that is refused. -/
def twoSessions : List Use :=
  [.begin .plain, .work (.session 0) (draftWork "a"), .begin .plain, .work (.session 1) headingsWork,
    .work .plain (searchWork "draft"), .work (.session 0) (deletionWork "draft"),
    .leave 0 (.error (.ofMisuse .noTransaction)), .work (.session 0) (searchWork "draft"),
    .work .plain (deletionWork "article"), .work (.session 1) (searchWork "article"), .finish 1 none false,
    .finish 1 none true, .disconnect .plain]

def wording : StoreCall → String
  | .open .. => "open"
  | .execute _ sql _ _ => sql
  | .begin => "begin"
  | .commit transaction => "commit " ++ toString transaction
  | .rollback transaction => "rollback " ++ toString transaction
  | .dispose => "dispose"

theorem twoSessions_isolated :
    let history := stepsOf numbering (fun use => (use.task draftsAdapter).run) twoSessions
      { hasStore := true, connected := true } []
    let asked := askedIn history
    Isolated draftsAdapter history ∧ contexts asked = [1, 2] ∧
      (statementsOn .pool asked).map wording = ["select * from \"draft\"", "select count(*) from \"draft\"",
        "delete from \"article\" where \"slug\" in ($1)"] ∧
      (statementsOn (.transaction 1) asked).map wording = ["insert into \"draft\" (\"slug\") values ($1)",
        "delete from \"draft\" where \"slug\" in ($1)"] ∧
      (statementsOn (.transaction 2) asked).map wording =
        ["update \"article\" set \"heading\" = $1 where \"slug\" = $2",
          "update \"article\" set \"heading\" = $1 where \"slug\" = $2", "select * from \"article\"",
          "select count(*) from \"article\""] ∧
      ((asked.map (·.call)).filter (channelOf? · |>.isNone)).map wording =
        ["begin", "begin", "rollback 1", "commit 2", "dispose"] ∧
      owned (history.take 6) = [some 1, some 2] ∧ owned (history.take 7) = [none, some 2] ∧
      history.map (·.result.isOk) =
        [true, true, true, true, true, true, false, false, true, true, true, false, true] := by
  refine ⟨sessions_isolated numbering_apart draftsAdapter twoSessions rfl, ?_⟩
  decide +kernel

end RecordStore.Adapter
