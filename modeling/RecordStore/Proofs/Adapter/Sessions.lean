import RecordStore.Proofs.Adapter.Effects

/-!
# Sessions and their transactions

Which transaction a call is about, and what one use of an adapter or of a session does to the sessions: it leaves their
transactions as they are, begins one or ends one, and it speaks on the channel of its own party only.
-/

namespace RecordStore.Adapter

open RecordStore.Task

variable {store : Store} {adapter : Adapter} {state after : AdapterState} {log : List Asked} {use : Use}
  {outcome : Outcome Unit} {asked : List Asked}

/-- What was done with an adapter and its sessions, one use after the other. -/
abbrev History := List (Step Use AdapterState StoreCall StoreCall.Answer (Outcome Unit))

/-! ### What calls are about -/

def channelOf? : StoreCall → Option Channel
  | .execute channel .. => some channel
  | _ => none

def endOf? : StoreCall → Option Nat
  | .commit transaction | .rollback transaction => some transaction
  | _ => none

def transactionOf? : StoreCall → Option Nat
  | .execute (.transaction transaction) .. | .commit transaction | .rollback transaction => some transaction
  | _ => none

def begunBy? : Asked → Option Nat
  | ⟨.begin, (.ok transaction : Outcome Nat)⟩ => some transaction
  | _ => none

/-- The transactions that were begun. -/
def contexts (log : List Asked) : List Nat := log.filterMap begunBy?

def statementsOn (channel : Channel) (log : List Asked) : List StoreCall :=
  (log.map (·.call)).filter (channelOf? · = some channel)

def statements (log : List Asked) : List StoreCall := (log.map (·.call)).filter (channelOf? · |>.isSome)

def statementsBy (party : Party) (history : History) : List StoreCall :=
  (history.filter (·.made.party = party)).flatMap (statements ·.asked)

/-- What the transactions of the sessions are after one more step: a session that it ends has none any more, and one that it
begins has what the store began. -/
def ownedAfter (owned : List (Option Nat)) (step : Step Use AdapterState StoreCall StoreCall.Answer (Outcome Unit)) :
    List (Option Nat) :=
  (match step.made.ends? with
    | some (n, _) => owned.set n none
    | none => owned) ++ (contexts step.asked).map some

/-- The transactions of all sessions in the order these were begun in, as the steps tell them. -/
def owned (history : History) : List (Option Nat) := history.foldl ownedAfter []

/-- Where the statements of a party belong: the connections of the store while the parent is connected, or the transaction
that was begun for the session, until that is ended. -/
def lineOf (earlier : History) (connected : Bool) : Party → Option Channel
  | .plain => if connected then some .pool else none
  | .session n => (owned earlier)[n]?.join.map .transaction

theorem transactionOf?_of_endOf? {call : StoreCall} {transaction : Nat} (ends : endOf? call = some transaction) :
    transactionOf? call = some transaction := by
  cases call <;> first | exact ends | cases ends

theorem transactionOf?_of_channelOf? {call : StoreCall} {transaction : Nat}
    (runs : channelOf? call = some (.transaction transaction)) : transactionOf? call = some transaction := by
  cases call with
  | execute channel =>
    cases Option.some.inj runs
    rfl
  | _ => cases runs

theorem endOf?_or_channelOf? {call : StoreCall} {transaction : Nat} (about : transactionOf? call = some transaction) :
    endOf? call = some transaction ∨ channelOf? call = some (.transaction transaction) := by
  cases call with
  | execute channel =>
    cases channel with
    | pool => cases about
    | transaction => exact .inr (congrArg _ (congrArg _ (Option.some.inj about)))
  | commit => exact .inl about
  | rollback => exact .inl about
  | _ => cases about

theorem contexts_append (log later : List Asked) : contexts (log ++ later) = contexts log ++ contexts later :=
  List.filterMap_append

theorem contexts_none {asked : List Asked} (none : ∀ exchange ∈ asked, exchange.call ≠ .begin) : contexts asked = [] := by
  refine List.filterMap_eq_nil_iff.2 fun exchange member => ?_
  obtain ⟨call, answer⟩ := exchange
  cases call with
  | begin => exact absurd rfl (none _ member)
  | _ => rfl

theorem statementsOn_append (channel : Channel) (log later : List Asked) :
    statementsOn channel (log ++ later) = statementsOn channel log ++ statementsOn channel later := by
  rw [statementsOn, List.map_append, List.filter_append]
  rfl

theorem statementsOn_none {channel : Channel} (none : ∀ exchange ∈ asked, channelOf? exchange.call ≠ some channel) :
    statementsOn channel asked = [] := by
  refine List.filter_eq_nil_iff.2 fun call member => ?_
  obtain ⟨exchange, asks, rfl⟩ := List.mem_map.1 member
  exact mt of_decide_eq_true (none exchange asks)

/-- Where all statements run on one channel, its statements are all of them. -/
theorem statementsOn_all {channel : Channel}
    (all : ∀ exchange ∈ asked, ∀ other, channelOf? exchange.call = some other → other = channel) :
    statementsOn channel asked = statements asked := by
  refine List.filter_congr fun call member => ?_
  obtain ⟨exchange, asks, rfl⟩ := List.mem_map.1 member
  cases found : channelOf? exchange.call with
  | none => rfl
  | some other => exact decide_eq_true (congrArg some (all exchange asks other found))

theorem statementsBy_append (party : Party) (history : History) (step) : statementsBy party (history ++ [step]) =
    statementsBy party history ++ if step.made.party = party then statements step.asked else [] := by
  unfold statementsBy
  rw [List.filter_append, List.flatMap_append]
  refine congrArg _ ?_
  by_cases own : step.made.party = party
  · simp [own]
  · simp [own]

/-- The store gives every transaction that it begins a number of its own. -/
def GivesApart (store : Store) : Prop :=
  ∀ log transaction, store log .begin = .ok transaction → transaction ∉ contexts log

/-! ### Sessions in the state -/

theorem openSession?_congr (same : after.sessions = state.sessions) (n : Nat) :
    openSession? after n = openSession? state n := by
  rw [openSession?, AdapterState.session?, same]
  rfl

theorem session?_closeSession (state : AdapterState) (n m : Nat) : (state.closeSession n).session? m =
    (state.session? m).map fun session => if n = m then { session with isOpen := false } else session :=
  List.getElem?_modify ..

theorem transactions_closeSession (state : AdapterState) (n : Nat) :
    (state.closeSession n).sessions.map (·.transaction) = state.sessions.map (·.transaction) := by
  refine List.ext_getElem? fun m => ?_
  rw [List.getElem?_map, List.getElem?_map]
  refine (congrArg (Option.map _) (session?_closeSession state n m)).trans ?_
  rw [Option.map_map]
  refine congrArg (fun f => Option.map f state.sessions[m]?) (funext fun session => ?_)
  by_cases same : n = m <;> simp [same]

theorem openSession?_closeSession {n m : Nat} {own : Session} (found : openSession? (state.closeSession n) m = some own) :
    m ≠ n ∧ openSession? state m = some own := by
  unfold openSession? at found ⊢
  rw [session?_closeSession] at found
  by_cases same : n = m
  · obtain ⟨there, running⟩ := Option.filter_eq_some_iff.1 found
    obtain ⟨_, _, rfl⟩ := Option.map_eq_some_iff.1 there
    rw [if_pos same] at running
    cases running
  · simp only [if_neg same, Option.map_id'] at found
    exact ⟨Ne.symm same, found⟩

theorem openSession?_addSession {transaction m : Nat} {own : Session}
    (found : openSession? (state.addSession transaction) m = some own) :
    openSession? state m = some own ∨ own = { transaction } := by
  unfold openSession? AdapterState.session? at found ⊢
  rw [AdapterState.addSession, List.getElem?_append] at found
  split at found
  · exact .inl found
  · obtain ⟨there, _⟩ := Option.filter_eq_some_iff.1 found
    exact .inr (List.mem_singleton.1 (List.mem_of_getElem? there))

theorem over_addSession {transaction m : Nat} (past : (state.session? m).isSome ∧ openSession? state m = none) :
    ((state.addSession transaction).session? m).isSome ∧ openSession? (state.addSession transaction) m = none := by
  have kept : (state.addSession transaction).session? m = state.session? m :=
    List.getElem?_append_left (List.getElem?_eq_some_iff.1 (Option.some_get past.1).symm).1
  rw [openSession?, kept]
  exact past

theorem over_closeSession {n m : Nat} (past : (state.session? m).isSome ∧ openSession? state m = none) :
    ((state.closeSession n).session? m).isSome ∧ openSession? (state.closeSession n) m = none := by
  refine ⟨?_, Option.eq_none_iff_forall_ne_some.2 fun own found => ?_⟩
  · rw [session?_closeSession, Option.isSome_map]
    exact past.1
  · rw [(openSession?_closeSession found).2] at past
    cases past.2

def ownTransaction? (session : Session) : Option Nat := if session.isOpen then some session.transaction else none

theorem join_ownTransaction? (state : AdapterState) (n : Nat) :
    (state.sessions.map ownTransaction?)[n]?.join = (openSession? state n).map (·.transaction) := by
  rw [List.getElem?_map, openSession?, AdapterState.session?]
  cases state.sessions[n]? with
  | none => rfl
  | some session =>
    cases opened : session.isOpen <;> simp [ownTransaction?, Option.filter, opened]

theorem set_ownTransaction?_over {n : Nat} (past : openSession? state n = none) :
    (state.sessions.map ownTransaction?).set n none = state.sessions.map ownTransaction? := by
  refine List.ext_getElem? fun m => ?_
  rw [List.getElem?_set]
  split
  · next same =>
    have none := join_ownTransaction? state n
    rw [past] at none
    subst same
    split
    · next inside =>
      rw [List.getElem?_eq_getElem inside] at none ⊢
      exact congrArg some none.symm
    · next outside => rw [List.getElem?_eq_none (Nat.not_lt.1 outside)]
  · rfl

theorem ownTransaction?_closeSession (state : AdapterState) (n : Nat) :
    (state.closeSession n).sessions.map ownTransaction? = (state.sessions.map ownTransaction?).set n none := by
  refine List.ext_getElem? fun m => ?_
  rw [List.getElem?_map, List.getElem?_set, List.getElem?_map, List.length_map]
  refine (congrArg (Option.map _) (session?_closeSession state n m)).trans ?_
  by_cases same : n = m
  · subst same
    simp only [if_true, Option.map_map]
    cases found : state.session? n with
    | none =>
      have outside := List.getElem?_eq_none_iff.1 found
      rw [if_neg (Nat.not_lt.2 outside)]
      rfl
    | some session =>
      rw [if_pos (List.getElem?_eq_some_iff.1 found).1]
      rfl
  · simp only [if_neg same, Option.map_id']
    rfl

/-! ### What one use does to the sessions -/

/-- The channel of a party: the connections of the store, or the transaction of a session that is still open. -/
def Speaks (state : AdapterState) (channel : Channel) : Party → Prop
  | .plain => channel = .pool
  | .session n => ∃ own, openSession? state n = some own ∧ channel = .transaction own.transaction

/-- A use that neither begins nor ends a transaction. -/
structure Plain (state after : AdapterState) (use : Use) (asked : List Asked) : Prop where
  kept : after.sessions = state.sessions
  begins : contexts asked = []
  ends : ∀ exchange ∈ asked, endOf? exchange.call = none
  speaks : ∀ exchange ∈ asked, ∀ channel, channelOf? exchange.call = some channel → Speaks state channel use.party
  past : ∀ n withRollback, use.ends? = some (n, withRollback) → openSession? state n = none

theorem speaks_work {party : Party} {records : Work} {call : StoreCall} (member : call ∈ records.calls adapter party state) :
    ∃ channel, channelOf? call = some channel ∧ Speaks state channel party ∧ endOf? call = none := by
  unfold Work.calls issuedOn at member
  split at member
  · next channel built found _ =>
    obtain ⟨statement, _, rfl⟩ := List.mem_map.1 member
    refine ⟨channel, rfl, ?_, rfl⟩
    cases party with
    | plain =>
      have connected : (if state.connected then some Channel.pool else none) = some channel := found
      split at connected
      · exact (Option.some.inj connected).symm
      · cases connected
    | session n =>
      obtain ⟨own, opened, rfl⟩ := Option.map_eq_some_iff.1 found
      exact ⟨own, opened, rfl⟩
  · cases member

theorem Plain.of_silent (kept : after.sessions = state.sessions)
    (past : ∀ n withRollback, use.ends? = some (n, withRollback) → openSession? state n = none) : Plain state after use [] :=
  ⟨kept, rfl, nofun, nofun, past⟩

/-- A use leaves the transactions as they are, begins one or ends one. -/
theorem Effect.plain_begins_or_ends (effect : Effect store adapter state log use outcome after asked) :
    Plain state after use asked ∨
    (∃ transaction, use = .begin .plain ∧ store log .begin = .ok transaction ∧ after = state.addSession transaction ∧
      asked = [⟨.begin, (.ok transaction : Outcome Nat)⟩]) ∨
    (∃ n withRollback own answer, use.ends? = some (n, withRollback) ∧ openSession? state n = some own ∧
      after = state.closeSession n ∧ asked = [endCall own.transaction withRollback answer]) := by
  cases effect with
  | work calls =>
    have each := fun (exchange : Asked) (member : exchange ∈ asked) => speaks_work (calls ▸ List.mem_map_of_mem member)
    refine .inl ⟨rfl, contexts_none fun exchange member begins => ?_, fun exchange member => ?_,
      fun exchange member channel found => ?_, nofun⟩
    · obtain ⟨channel, found, _⟩ := each exchange member
      rw [begins] at found
      cases found
    · obtain ⟨_, _, _, still⟩ := each exchange member
      exact still
    · obtain ⟨other, same, speaks, _⟩ := each exchange member
      exact Option.some.inj (same.symm.trans found) ▸ speaks
  | connected own same =>
    refine .inl ⟨same, contexts_none fun exchange member begins => ?_, fun exchange member => ?_,
      fun exchange member channel found => ?_, nofun⟩
    · exact (begins ▸ own exchange member :)
    · have pool := own exchange member
      generalize exchange.call = call at pool
      cases call <;> first | rfl | cases pool
    · have pool := own exchange member
      generalize exchange.call = call at pool found
      cases call with
      | execute => exact (Option.some.inj found).symm.trans pool
      | _ => cases found
  | disconnected only =>
    refine .inl ⟨rfl, contexts_none fun exchange member begins => ?_, fun exchange member => ?_,
      fun exchange member channel found => ?_, nofun⟩
    · exact StoreCall.noConfusion (begins.symm.trans (only exchange member))
    · rw [only exchange member]
      rfl
    · rw [only exchange member] at found
      cases found
  | begun answered => exact .inr (.inl ⟨_, rfl, answered, rfl, rfl⟩)
  | unbegun =>
    refine .inl ⟨rfl, rfl, fun exchange member => ?_, fun exchange member channel found => ?_, nofun⟩
    · exact List.mem_singleton.1 member ▸ rfl
    · rw [List.mem_singleton.1 member] at found
      cases found
  | refusedBegin => exact .inl (.of_silent rfl nofun)
  | refusedConnect => exact .inl (.of_silent rfl nofun)
  | ended ends found => exact .inr (.inr ⟨_, _, _, _, ends, found, rfl, rfl⟩)
  | late ends past =>
    refine .inl (.of_silent rfl fun n withRollback same => ?_)
    cases ends.symm.trans same
    exact past

theorem party_of_ends? {n : Nat} {withRollback : Bool} (ends : use.ends? = some (n, withRollback)) :
    use.party = .session n := by
  cases use with
  | work => cases ends
  | connect => cases ends
  | begin => cases ends
  | disconnect party =>
    cases party with
    | plain => cases ends
    | session => exact congrArg (fun pair : Nat × Bool => Party.session pair.1) (Option.some.inj ends)
  | finish => exact congrArg (fun pair : Nat × Bool => Party.session pair.1) (Option.some.inj ends)
  | leave => exact congrArg (fun pair : Nat × Bool => Party.session pair.1) (Option.some.inj ends)

theorem endCall_call (transaction : Nat) (withRollback : Bool) (answer : Outcome Unit) :
    (endCall transaction withRollback answer).call = if withRollback then .rollback transaction else .commit transaction := by
  cases withRollback <;> rfl

theorem endOf?_endCall (transaction : Nat) (withRollback : Bool) (answer : Outcome Unit) :
    endOf? (endCall transaction withRollback answer).call = some transaction := by
  cases withRollback <;> rfl

theorem channelOf?_endCall (transaction : Nat) (withRollback : Bool) (answer : Outcome Unit) :
    channelOf? (endCall transaction withRollback answer).call = none := by
  cases withRollback <;> rfl

theorem contexts_endCall (transaction : Nat) (withRollback : Bool) (answer : Outcome Unit) :
    contexts [endCall transaction withRollback answer] = [] := by
  cases withRollback <;> rfl

theorem Effect.speaks (effect : Effect store adapter state log use outcome after asked) :
    ∀ exchange ∈ asked, ∀ channel, channelOf? exchange.call = some channel → Speaks state channel use.party := by
  obtain plain | ⟨_, _, _, _, rfl⟩ | ⟨_, withRollback, _, _, _, _, _, rfl⟩ := effect.plain_begins_or_ends
  · exact plain.speaks
  · intro exchange member channel found
    rw [List.mem_singleton.1 member] at found
    cases found
  · intro exchange member channel found
    rw [List.mem_singleton.1 member, channelOf?_endCall] at found
    cases found

/-- Only an open session has anything done in its transaction. -/
theorem Effect.about (effect : Effect store adapter state log use outcome after asked) :
    ∀ exchange ∈ asked, ∀ transaction, transactionOf? exchange.call = some transaction →
      ∃ n own, use.party = .session n ∧ openSession? state n = some own ∧ own.transaction = transaction := by
  intro exchange member transaction about
  obtain ends | runs := endOf?_or_channelOf? about
  · obtain plain | ⟨_, _, _, _, rfl⟩ | ⟨n, withRollback, own, _, made, found, _, rfl⟩ := effect.plain_begins_or_ends
    · rw [plain.ends exchange member] at ends
      cases ends
    · rw [List.mem_singleton.1 member] at ends
      cases ends
    · rw [List.mem_singleton.1 member, endOf?_endCall] at ends
      exact ⟨n, own, party_of_ends? made, found, Option.some.inj ends⟩
  · have speaks := effect.speaks exchange member _ runs
    cases spoken : use.party with
    | plain =>
      rw [spoken] at speaks
      cases speaks
    | session n =>
      rw [spoken] at speaks
      obtain ⟨own, found, same⟩ := speaks
      exact ⟨n, own, rfl, found, (Channel.transaction.inj same).symm⟩

theorem Effect.over_step (effect : Effect store adapter state log use outcome after asked) {m : Nat}
    (past : (state.session? m).isSome ∧ openSession? state m = none) :
    (after.session? m).isSome ∧ openSession? after m = none := by
  obtain plain | ⟨_, _, _, rfl, _⟩ | ⟨n, _, _, _, _, _, rfl, _⟩ := effect.plain_begins_or_ends
  · rw [openSession?_congr plain.kept, AdapterState.session?, plain.kept]
    exact past
  · exact over_addSession past
  · exact over_closeSession past

theorem Effect.over_of_ends (effect : Effect store adapter state log use outcome after asked) {n : Nat} {withRollback : Bool}
    (ends : use.ends? = some (n, withRollback)) (there : (state.session? n).isSome) :
    (after.session? n).isSome ∧ openSession? after n = none := by
  obtain plain | ⟨_, rfl, _⟩ | ⟨m, _, _, _, made, _, rfl, _⟩ := effect.plain_begins_or_ends
  · exact effect.over_step ⟨there, plain.past n withRollback ends⟩
  · cases ends
  · cases made.symm.trans ends
    refine ⟨by rwa [session?_closeSession, Option.isSome_map], Option.eq_none_iff_forall_ne_some.2 fun own found => ?_⟩
    exact (openSession?_closeSession found).1 rfl

/-- The steps tell which session has which transaction, and the state does too. -/
theorem Effect.owned_step (effect : Effect store adapter state log use outcome after asked) :
    ownedAfter (state.sessions.map ownTransaction?) ⟨use, state, outcome, asked⟩ = after.sessions.map ownTransaction? := by
  unfold ownedAfter
  dsimp only
  obtain plain | ⟨transaction, rfl, _, rfl, rfl⟩ | ⟨n, withRollback, own, answer, made, _, rfl, rfl⟩ :=
    effect.plain_begins_or_ends
  · rw [plain.begins, plain.kept, List.map_nil, List.append_nil]
    split
    · next ends => exact set_ownTransaction?_over (plain.past _ _ ends)
    · rfl
  · rw [AdapterState.addSession, List.map_append]
    rfl
  · rw [made, contexts_endCall, List.map_nil, List.append_nil, ownTransaction?_closeSession]

theorem channel?_eq_lineOf {earlier : History} (owns : owned earlier = state.sessions.map ownTransaction?) (party : Party) :
    state.channel? party = lineOf earlier state.connected party := by
  cases party with
  | plain => rfl
  | session n =>
    rw [lineOf, owns, join_ownTransaction?, Option.map_map]
    rfl

end RecordStore.Adapter
