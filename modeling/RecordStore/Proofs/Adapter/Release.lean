import RecordStore.Proofs.Adapter.Connecting
import RecordStore.Proofs.Adapter.Failures
import RecordStore.Proofs.Adapter.Sessions
import RecordStore.Proofs.Connector.Loans
import RecordStore.Proofs.Store.Hosting
import RecordStore.Script.Url

/-!
# What disconnecting leaves open

An adapter on a connector, over its whole life. Every connection that is out between two uses belongs to a session that
was not ended. Disconnecting ends none of them: they keep their connections, and the next statement of one makes an engine
anew. Apart from these statements nothing makes an engine until the adapter connects again.
-/

namespace RecordStore.Adapter

open RecordStore.Task
open Connector (Driver Loan Line Settled Shifts MayMake Answered lines loansAfter creates)

variable {driver : Driver} {adapter : Adapter} {state after : AdapterState} {connector : Connector}
  {log : List Connector.Asked} {loans : List Loan} {held : List Line} {use : Use} {outcome : Outcome Unit} {α : Type}

/-! ### The store that a connector is -/

theorem gives_shared (driver : Driver) (state : AdapterState) :
    Connector.shared.Gives driver driver fun connector log => ((state, connector), log) :=
  ⟨fun _ _ => rfl, fun _ _ _ => rfl, fun _ _ _ => rfl, fun _ _ _ => rfl⟩

/-- A connector that has answered these calls, and what was asked of the driver until then. -/
def served (driver : Driver) (start : Connector × List Connector.Asked) (calls : List Asked) :
    Connector × List Connector.Asked :=
  calls.foldl (fun now exchange =>
    let came := against driver (Connector.answer exchange.call) now.1 now.2
    (came.1.2, came.2)) start

theorem served_append (start : Connector × List Connector.Asked) (calls more : List Asked) :
    served driver start (calls ++ more) = served driver (served driver start calls) more := List.foldl_append

/-- The store that an adapter finds in a connector. -/
def asStore (driver : Driver) (start : Connector × List Connector.Asked) : Store := fun calls call =>
  let now := served driver start calls
  (against driver (Connector.answer call) now.1 now.2).1.1

theorem gives_onConnector (driver : Driver) (start : Connector × List Connector.Asked) :
    onConnector.Gives driver (asStore driver start) fun state calls =>
      ((state, (served driver start calls).1), (served driver start calls).2) where
  view _ _ := rfl
  update _ _ _ := rfl
  write _ _ _ := rfl
  answer state calls call := by
    have shared := agrees_within (gives_shared driver state) (Connector.answer call) (served driver start calls).1
      (served driver start calls).2
    refine shared.trans ?_
    simp only [served_append]
    rfl

/-- On a connector an operation does what it does on the store that the connector is. -/
theorem meets_onConnector (operation : Run α) :
    against driver (operation.run.within onConnector) (state, connector) log =
      let came := meets (asStore driver (connector, log)) operation state []
      ((came.1.1, (came.1.2, (served driver (connector, log) came.2).1)), (served driver (connector, log) came.2).2) :=
  agrees_within (gives_onConnector driver (connector, log)) operation.run state []

/-! ### Calls one after another -/

/-- The calls that leave the transactions of a connector as they are. A connector without transactions may be opened. -/
def LeavesLines (held : List Line) : StoreCall → Prop
  | .execute .. | .dispose => True
  | .open .. => held = []
  | _ => False

theorem LeavesLines.shifts {call : StoreCall} {answer : call.Answer} {before after : List Line}
    (leaves : LeavesLines before call) (shifts : Shifts call answer before after) : after = before := by
  cases call with
  | «open» => exact shifts.trans (Eq.symm leaves)
  | execute | dispose => exact shifts
  | _ => exact leaves.elim

theorem served_leaving {calls : List Asked} (settled : Settled loans (lines connector))
    (leaves : ∀ exchange ∈ calls, LeavesLines (lines connector) exchange.call) : ∃ asked,
      (served driver (connector, log) calls).2 = log ++ asked ∧ Settled (loansAfter loans asked) (lines connector) ∧
      lines (served driver (connector, log) calls).1 = lines connector ∧
      ((∀ exchange ∈ calls, ¬ MayMake exchange.call) → ∀ exchange ∈ asked, ¬ creates exchange) := by
  induction calls generalizing connector log loans with
  | nil => exact ⟨[], (List.append_nil log).symm, settled, rfl, fun _ => nofun⟩
  | cons exchange rest ih =>
    have first := leaves exchange List.mem_cons_self
    obtain ⟨answer, after, asked, came, answered⟩ := Connector.answered driver log settled exchange.call
      fun url options same => by rw [same] at first; exact first
    have same : lines after = lines connector := first.shifts answered.shifts
    have others : ∀ other ∈ rest, LeavesLines (lines after) other.call :=
      fun other member => same ▸ leaves other (List.mem_cons_of_mem _ member)
    obtain ⟨more, grown, still, kept, made⟩ := @ih after (log ++ asked) _ answered.settled others
    refine ⟨asked ++ more, ?_, ?_, ?_, fun none => ?_⟩
    · rw [served, List.foldl_cons, came, ← List.append_assoc]
      exact grown
    · rw [Connector.loansAfter_append, ← same]
      exact still
    · rw [served, List.foldl_cons, came, ← same]
      exact kept
    · intro other member
      obtain own | later := List.mem_append.1 member
      · exact answered.made (none exchange List.mem_cons_self) other own
      · exact made (fun other member => none other (List.mem_cons_of_mem _ member)) other later

/-! ### Sessions and the transactions of a connector -/

/-- The connections that are out are held by the transactions of the sessions that were not ended. -/
structure Fits (state : AdapterState) (held : List Line) (loans : List Loan) : Prop where
  settled : Settled loans held
  numbered : ∀ session ∈ state.sessions, session.transaction < held.length
  apart : (state.sessions.map (·.transaction)).Nodup
  owned : ∀ m, (∃ c, held[m]? = some (some c, true)) ↔ ∃ n own, openSession? state n = some own ∧ own.transaction = m
  unopened : state.hasStore = false → held = []
  stored : state.connected = true → state.hasStore = true

theorem Fits.same (fits : Fits state held loans) {more : List Loan} (settled : Settled more held)
    (sessions : after.sessions = state.sessions) (unopened : after.hasStore = false → held = [])
    (stored : after.connected = true → after.hasStore = true) : Fits after held more where
  settled := settled
  numbered := sessions ▸ fits.numbered
  apart := sessions ▸ fits.apart
  owned m := by
    simp only [openSession?_congr sessions]
    exact fits.owned m
  unopened := unopened
  stored := stored

/-- A transaction that could not be begun holds nothing. -/
theorem Fits.fails (fits : Fits state held loans) {more : List Loan} (settled : Settled more (held ++ [(none, false)]))
    (opened : state.hasStore = true) : Fits state (held ++ [(none, false)]) more where
  settled := settled
  numbered session member := Nat.lt_of_lt_of_le (fits.numbered session member) (by simp)
  apart := fits.apart
  owned m := by
    rw [← fits.owned m, List.getElem?_append]
    split
    · rfl
    · next outside => simp [List.getElem?_eq_none (Nat.le_of_not_lt outside), List.getElem?_singleton]
  unopened none := by
    rw [opened] at none
    cases none
  stored := fits.stored

theorem openSession?_kept {n transaction : Nat} {own : Session} (found : openSession? state n = some own) :
    openSession? (state.addSession transaction) n = some own := by
  obtain ⟨there, running⟩ := Option.filter_eq_some_iff.1 found
  obtain ⟨inside, _⟩ := List.getElem?_eq_some_iff.1 there
  exact Option.filter_eq_some_iff.2 ⟨(List.getElem?_append_left inside).trans there, running⟩

theorem openSession?_new (transaction : Nat) :
    openSession? (state.addSession transaction) state.sessions.length = some { transaction } := by
  have last : (state.addSession transaction).session? state.sessions.length = some { transaction } := by
    simp [AdapterState.session?, AdapterState.addSession]
  rw [openSession?, last]
  rfl

theorem openSession?_other {n m : Nat} {own : Session} (other : m ≠ n) (found : openSession? state m = some own) :
    openSession? (state.closeSession n) m = some own := by
  unfold openSession? at found ⊢
  rw [session?_closeSession]
  simpa [Ne.symm other] using found

theorem Fits.begins (fits : Fits state held loans) {more : List Loan} {c : Nat}
    (settled : Settled more (held ++ [(some c, true)])) (opened : state.hasStore = true) :
    Fits (state.addSession held.length) (held ++ [(some c, true)]) more where
  settled := settled
  numbered session member := by
    rw [List.length_append]
    obtain old | new := List.mem_append.1 member
    · have := fits.numbered session old
      omega
    · rw [List.mem_singleton.1 new]
      exact Nat.lt_succ_self _
  apart := by
    rw [AdapterState.addSession, List.map_append, List.nodup_append]
    refine ⟨fits.apart, List.nodup_singleton _, ?_⟩
    rintro _ member _ new rfl
    obtain ⟨session, old, same⟩ := List.mem_map.1 member
    have := fits.numbered session old
    simp at new
    omega
  owned m := by
    constructor
    · rintro ⟨d, line⟩
      rw [List.getElem?_append] at line
      split at line
      · obtain ⟨n, own, found, same⟩ := (fits.owned m).1 ⟨d, line⟩
        exact ⟨n, own, openSession?_kept found, same⟩
      · have last : m - held.length = 0 := by simpa using (List.getElem?_eq_some_iff.1 line).1
        exact ⟨_, _, openSession?_new held.length, by dsimp only; omega⟩
    · rintro ⟨n, own, found, rfl⟩
      obtain old | rfl := openSession?_addSession found
      · obtain ⟨d, line⟩ := (fits.owned own.transaction).2 ⟨n, own, old, rfl⟩
        exact ⟨d, (List.getElem?_append_left (List.getElem?_eq_some_iff.1 line).1).trans line⟩
      · exact ⟨c, by simp⟩
  unopened none := by
    rw [show (state.addSession held.length).hasStore = state.hasStore from rfl, opened] at none
    cases none
  stored := fits.stored

theorem Fits.ends (fits : Fits state held loans) {more : List Loan} {n : Nat} {own : Session}
    (found : openSession? state n = some own) (settled : Settled more (held.set own.transaction (none, false))) :
    Fits (state.closeSession n) (held.set own.transaction (none, false)) more where
  settled := settled
  numbered session member := by
    have among := List.mem_map_of_mem (f := (·.transaction)) member
    rw [transactions_closeSession] at among
    obtain ⟨old, there, same⟩ := List.mem_map.1 among
    rw [List.length_set, ← same]
    exact fits.numbered old there
  apart := by
    rw [transactions_closeSession]
    exact fits.apart
  owned m := by
    -- No other session has the transaction of this one.
    have apart : ∀ k other, k ≠ n → openSession? state k = some other → other.transaction ≠ own.transaction := by
      intro k other different there same
      obtain ⟨first, _⟩ := Option.filter_eq_some_iff.1 there
      obtain ⟨second, _⟩ := Option.filter_eq_some_iff.1 found
      obtain ⟨inside, rfl⟩ := List.getElem?_eq_some_iff.1 first
      obtain ⟨within, rfl⟩ := List.getElem?_eq_some_iff.1 second
      have unique := @List.Nodup.getElem_inj_iff _ _ fits.apart k (by simpa using inside) n (by simpa using within)
      exact different (unique.1 (by simpa using same))
    constructor
    · rintro ⟨d, line⟩
      rw [List.getElem?_set] at line
      split at line
      · split at line <;> simp at line
      · next other =>
        obtain ⟨k, own', there, rfl⟩ := (fits.owned m).1 ⟨d, line⟩
        refine ⟨k, own', openSession?_other ?_ there, rfl⟩
        rintro rfl
        cases there.symm.trans found
        exact other rfl
    · rintro ⟨k, own', there, rfl⟩
      obtain ⟨different, before⟩ := openSession?_closeSession there
      obtain ⟨d, line⟩ := (fits.owned own'.transaction).2 ⟨k, own', before, rfl⟩
      refine ⟨d, ?_⟩
      rw [List.getElem?_set_ne (Ne.symm (apart k own' different before))]
      exact line
  unopened none := by
    rw [fits.unopened none]
    rfl
  stored := fits.stored

/-! ### Uses -/

/-- What a use leaves of what is out. While the adapter is not connected, no engine is made but for a session. -/
structure Left (use : Use) (state after : AdapterState) (held : List Line) (loans : List Loan)
    (asked : List Connector.Asked) : Prop where
  fits : Fits after held (loansAfter loans asked)
  unconnected : use = .disconnect .plain ∨ use ≠ .connect .plain ∧ state.connected = false → after.connected = false
  made : state.connected = false → use ≠ .connect .plain → ∀ exchange ∈ asked, creates exchange →
    ∃ n records, use = .work (.session n) records ∧ (openSession? state n).isSome

/-- How a use ends on a connector when it ends so on the store that the connector is. -/
def Leads (driver : Driver) (connector : Connector) (log : List Connector.Asked) (use : Use) (state after : AdapterState)
    (loans : List Loan) (calls : List Asked) : Prop :=
  ∃ later asked, served driver (connector, log) calls = (later, log ++ asked) ∧ Left use state after (lines later) loans asked

theorem leads_nowhere (fits : Fits state (lines connector) loans) (other : use ≠ .disconnect .plain ∨ state.connected = false) :
    Leads driver connector log use state state loans [] := by
  refine ⟨connector, [], by rw [List.append_nil]; rfl, fits, ?_, fun _ _ => nofun⟩
  rintro (disconnects | ⟨_, unconnected⟩)
  · exact other.resolve_left (not_not.2 disconnects)
  · exact unconnected

/-- Calls that leave the transactions as they are, from a use that leaves the sessions as they are. -/
theorem leads_leaving {calls : List Asked} (fits : Fits state (lines connector) loans)
    (leaves : ∀ exchange ∈ calls, LeavesLines (lines connector) exchange.call) (sessions : after.sessions = state.sessions)
    (unopened : after.hasStore = false → lines connector = []) (stored : after.connected = true → after.hasStore = true)
    (unconnected : use = .disconnect .plain ∨ use ≠ .connect .plain ∧ state.connected = false → after.connected = false)
    (made : state.connected = false → use ≠ .connect .plain → (∀ exchange ∈ calls, ¬ MayMake exchange.call) ∨
      ∃ n records, use = .work (.session n) records ∧ (openSession? state n).isSome) :
    Leads driver connector log use state after loans calls := by
  obtain ⟨asked, grown, settled, kept, none⟩ := @served_leaving driver connector log loans calls fits.settled leaves
  refine ⟨_, asked, Prod.ext rfl grown, ?_, unconnected, fun idle other exchange member creation => ?_⟩
  · rw [kept]
    exact fits.same settled sessions unopened stored
  · exact (made idle other).resolve_left fun may => none may exchange member creation

theorem leads_connect {calls : List Asked} (fits : Fits state (lines connector) loans)
    (came : meets (asStore driver (connector, log)) (adapter.connect .plain) state [] = ((outcome, after), calls)) :
    Leads driver connector log (.connect .plain) state after loans calls := by
  have leaves : ∀ exchange ∈ calls, LeavesLines (lines connector) exchange.call := by
    intro exchange member
    cases opened : state.hasStore with
    | true =>
      obtain ⟨_, _, asked, other, runs⟩ :=
        @meets_connect_opened (asStore driver (connector, log)) adapter state [] opened
      obtain ⟨-, rfl⟩ := Prod.mk.inj (came.symm.trans other)
      have pool := runs exchange member
      generalize exchange.call = call at pool
      cases call <;> trivial
    | false =>
      obtain ⟨_, _, asked, other, own, _⟩ := @confined_connect adapter (asStore driver (connector, log)) state []
      obtain ⟨-, rfl⟩ := Prod.mk.inj (came.symm.trans other)
      have pool := own exchange member
      generalize exchange.call = call at pool
      cases call with
      | «open» => exact fits.unopened opened
      | execute => trivial
      | _ => cases pool
  have ends : after = state ∨ after = { state with hasStore := true, connected := true } := by
    obtain ⟨_, _, asked, other, ends⟩ := connected_connect (asStore driver (connector, log)) adapter state []
    obtain ⟨same, -⟩ := Prod.mk.inj (came.symm.trans other)
    cases same
    cases ends <;> simp
  refine leads_leaving fits leaves ?_ ?_ ?_ ?_ fun _ other => absurd rfl other
  · obtain rfl | rfl := ends <;> rfl
  · obtain rfl | rfl := ends
    · exact fits.unopened
    · exact nofun
  · obtain rfl | rfl := ends
    · exact fits.stored
    · exact fun _ => rfl
  · rintro (disconnects | ⟨other, _⟩)
    · cases disconnects
    · exact absurd rfl other

theorem leads_work {party : Party} {records : Work} {keysMade : Nat} {calls : List Asked}
    (fits : Fits state (lines connector) loans) (made : calls.map (·.call) = records.calls adapter party state) :
    Leads driver connector log (.work party records) state { state with keysMade } loans calls := by
  have each : ∀ exchange ∈ calls, _ := fun exchange member =>
    @speaks_work adapter state party records exchange.call (made ▸ List.mem_map_of_mem member)
  refine leads_leaving fits (fun exchange member => ?_) rfl fits.unopened fits.stored ?_ fun idle _ => ?_
  · obtain ⟨channel, runs, -, -⟩ := each exchange member
    generalize exchange.call = call at runs
    cases call <;> trivial
  · rintro (disconnects | ⟨-, unconnected⟩)
    · cases disconnects
    · exact unconnected
  · cases party with
    | session n =>
      cases opened : openSession? state n with
      | some own => exact .inr ⟨n, records, rfl, by rw [opened]; rfl⟩
      | none =>
        refine .inl fun exchange member => ?_
        obtain ⟨_, _, ⟨own, found, _⟩, _⟩ := each exchange member
        cases opened.symm.trans found
    | plain =>
      -- A parent that is not connected has no channel.
      have nothing : records.calls adapter .plain state = [] := by
        have unable : state.channel? .plain = none := if_neg (by simp [idle])
        unfold Work.calls
        rw [unable]
        rfl
      rw [nothing, List.map_eq_nil_iff] at made
      exact .inl (made ▸ nofun)

theorem leads_disconnect {calls : List Asked} (fits : Fits state (lines connector) loans)
    (only : ∀ exchange ∈ calls, exchange.call = .dispose) :
    Leads driver connector log (.disconnect .plain) state { state with connected := false } loans calls := by
  refine leads_leaving fits (fun exchange member => ?_) rfl fits.unopened nofun (fun _ => rfl) fun _ _ =>
    .inl fun exchange member => ?_
  · rw [only exchange member]
    trivial
  · rw [only exchange member]
    exact id

theorem leads_begin {calls : List Asked} (fits : Fits state (lines connector) loans)
    (came : meets (asStore driver (connector, log)) (discard (beginTransaction .plain)) state [] = ((outcome, after), calls)) :
    Leads driver connector log (.begin .plain) state after loans calls := by
  cases connected : state.connected with
  | false =>
    obtain ⟨same, rfl⟩ := Prod.mk.inj (came.symm.trans (meets_begin_unconnected connected))
    cases same
    exact leads_nowhere fits (.inl nofun)
  | true =>
    have opened := fits.stored connected
    have impossible : ¬ state.connected = false := by simp [connected]
    obtain ⟨answer, later, asked, began, answered⟩ := Connector.answered driver log fits.settled .begin nofun
    have answers : asStore driver (connector, log) [] .begin = answer := congrArg (·.1.1) began
    have goes : ∀ result : Outcome Nat, served driver (connector, log) [⟨.begin, result⟩] = (later, log ++ asked) :=
      fun _ => congrArg (fun came => (came.1.2, came.2)) began
    have settled := answered.settled
    have shifts := answered.shifts
    cases answer with
    | ok n =>
      obtain ⟨rfl, c, grown⟩ := shifts
      obtain ⟨same, rfl⟩ := Prod.mk.inj (came.symm.trans (meets_begin connected answers))
      cases same
      rw [grown] at settled
      refine ⟨later, asked, goes _, ?_, ?_, fun idle => absurd idle impossible⟩
      · rw [grown]
        exact fits.begins settled opened
      · rintro (disconnects | ⟨-, idle⟩)
        · cases disconnects
        · exact absurd idle impossible
    | error failure =>
      have grown : lines later = lines connector ++ [(none, false)] := shifts
      obtain ⟨same, rfl⟩ := Prod.mk.inj (came.symm.trans (meets_begin_failed connected answers))
      cases same
      rw [grown] at settled
      refine ⟨later, asked, goes _, ?_, ?_, fun idle => absurd idle impossible⟩
      · rw [grown]
        exact fits.fails settled opened
      · rintro (disconnects | ⟨-, idle⟩)
        · cases disconnects
        · exact absurd idle impossible

theorem leads_end {n : Nat} {own : Session} {withRollback : Bool} (answer : Outcome Unit)
    (fits : Fits state (lines connector) loans) (ends : use.ends? = some (n, withRollback))
    (found : openSession? state n = some own) :
    Leads driver connector log use state (state.closeSession n) loans [endCall own.transaction withRollback answer] := by
  obtain ⟨_, later, asked, came, answered⟩ := Connector.answered driver log fits.settled
    (endCall own.transaction withRollback answer).call fun _ _ same => by cases withRollback <;> cases same
  have left : lines later = (lines connector).set own.transaction (none, false) := by
    cases withRollback <;> exact answered.shifts
  have settled := answered.settled
  rw [left] at settled
  refine ⟨later, asked, congrArg (fun came => (came.1.2, came.2)) came, ?_, ?_, fun _ _ exchange member creation => ?_⟩
  · rw [left]
    exact fits.ends found settled
  · rintro (rfl | ⟨-, unconnected⟩)
    · cases ends
    · exact unconnected
  · refine absurd creation (answered.made ?_ exchange member)
    cases withRollback <;> exact id

theorem leads_use {calls : List Asked} (fits : Fits state (lines connector) loans)
    (came : meets (asStore driver (connector, log)) (use.task adapter) state [] = ((outcome, after), calls)) :
    Leads driver connector log use state after loans calls := by
  by_cases begins : use = .begin .plain
  · subst begins
    exact leads_begin fits came
  · obtain ⟨_, _, _, other, effect⟩ := @effect_of_use (asStore driver (connector, log)) adapter state [] use
    obtain ⟨same, rfl⟩ := Prod.mk.inj (came.symm.trans other)
    cases same
    cases effect with
    | work made => exact leads_work fits made
    | connected => exact leads_connect fits came
    | disconnected only => exact leads_disconnect fits only
    | begun | unbegun => exact absurd rfl begins
    | refusedBegin | refusedConnect => exact leads_nowhere fits (.inl nofun)
    | ended ends found => exact leads_end _ fits ends found
    | late ends =>
      refine leads_nowhere fits (.inl ?_)
      rintro rfl
      cases ends

/-! ### Runs -/

abbrev Both := AdapterState × Connector

abbrev Stage := Step Use Both EngineCall EngineCall.Answer (Outcome Unit)

/-- The uses of an adapter on a connector that has begun no transactions, one after the other. -/
def onConnectorRun (driver : Driver) (adapter : Adapter) (uses : List Use) (hasStore : Bool) (connector : Connector) :
    List Stage :=
  stepsOf driver (fun use => (use.task adapter).run.within onConnector) uses
    ({ hasStore }, { connector with transactions := [] }) []

/-- The connections of the sessions that were not ended. -/
def openConnections (both : Both) : List Nat :=
  (both.1.sessions.filter (·.isOpen)).filterMap fun session => (both.2.transactions.getD session.transaction {}).connection

theorem mem_open_transactions {m : Nat} : m ∈ (state.sessions.filter (·.isOpen)).map (·.transaction) ↔
    ∃ n own, openSession? state n = some own ∧ own.transaction = m := by
  rw [List.mem_map]
  constructor
  · rintro ⟨own, member, same⟩
    obtain ⟨there, running⟩ := List.mem_filter.1 member
    obtain ⟨n, found⟩ := List.mem_iff_getElem?.1 there
    exact ⟨n, own, Option.filter_eq_some_iff.2 ⟨found, running⟩, same⟩
  · rintro ⟨n, own, found, same⟩
    obtain ⟨there, running⟩ := Option.filter_eq_some_iff.1 found
    exact ⟨own, List.mem_filter.2 ⟨List.mem_of_getElem? there, running⟩, same⟩

/-- What is out are the connections of the sessions that were not ended. -/
theorem Fits.out (fits : Fits state (lines connector) loans) :
    loans.Perm ((openConnections (state, connector)).map (⟨·, false⟩)) := by
  let connection (m : Nat) : Option Nat := (connector.transactions.getD m {}).connection
  let holding : List Nat := (List.range (lines connector).length).filter (connection · |>.isSome)
  have each : (lines connector).map (·.1) = (List.range (lines connector).length).map connection := by
    refine List.ext_getElem (by simp) fun m inside _ => ?_
    have inside : m < connector.transactions.length := by simpa [lines] using inside
    simp [lines, connection, inside]
  have held : (lines connector).filterMap (·.1) = holding.filterMap connection := calc
    _ = ((lines connector).map (·.1)).filterMap id := by
      rw [List.filterMap_map]
      rfl
    _ = (List.range (lines connector).length).filterMap connection := by
      rw [each, List.filterMap_map]
      rfl
    _ = holding.filterMap connection := by
      rw [List.filterMap_filter]
      congr with m c
      cases connection m <;> simp
  have same : holding.Perm ((state.sessions.filter (·.isOpen)).map (·.transaction)) := by
    refine (List.perm_ext_iff_of_nodup (List.nodup_range.filter _) ?_).2 fun m => ?_
    · exact fits.apart.sublist (List.filter_sublist.map _)
    · rw [mem_open_transactions, ← fits.owned m, List.mem_filter, List.mem_range]
      constructor
      · rintro ⟨inside, holds⟩
        obtain ⟨c, connected⟩ := Option.isSome_iff_exists.1 holds
        have there : connector.transactions[m]? = some (connector.transactions.getD m {}) := by
          have inside : m < connector.transactions.length := by simpa [lines] using inside
          simp [inside]
        obtain ⟨line, active⟩ := fits.settled.line there
        exact ⟨c, by rw [line, active, show (connector.transactions.getD m {}).connection = some c from connected]; rfl⟩
      · rintro ⟨c, line⟩
        refine ⟨(List.getElem?_eq_some_iff.1 line).1, ?_⟩
        obtain ⟨t, there, same⟩ : ∃ t, connector.transactions[m]? = some t ∧ (t.connection, t.isActive) = (some c, true) := by
          simpa [lines] using line
        simp [connection, List.getD_eq_getElem?_getD, there, (Prod.mk.inj same).1]
  have opened : openConnections (state, connector) =
      ((state.sessions.filter (·.isOpen)).map (·.transaction)).filterMap connection := by
    rw [List.filterMap_map]
    rfl
  refine fits.settled.lent.trans ?_
  rw [opened, ← List.map_filterMap, held]
  exact (same.filterMap connection).map _

/-- What holds after the uses so far: what is out fits the state, and the adapter is unconnected while it is idle. -/
structure Held (steps : List Stage) (both : Both) : Prop where
  fits : Fits both.1 (lines both.2) (loansAfter [] (askedIn steps))
  unconnected : Idle (.connect .plain) (.disconnect .plain) (steps.map (·.made)) → both.1.connected = false

theorem held_step {steps : List Stage} {both later : Both} {asked : List Connector.Asked} (held : Held steps both)
    (came : against driver ((use.task adapter).run.within onConnector) both (askedIn steps) =
      ((outcome, later), askedIn steps ++ asked)) :
    Held (steps ++ [⟨use, both, outcome, asked⟩]) later ∧
      Left use both.1 later.1 (lines later.2) (loansAfter [] (askedIn steps)) asked := by
  obtain ⟨state, connector⟩ := both
  obtain ⟨⟨⟨result, after⟩, calls⟩, met⟩ : ∃ whole,
    meets (asStore driver (connector, askedIn steps)) (use.task adapter) state [] = whole := ⟨_, rfl⟩
  obtain ⟨last, more, goes, left⟩ := leads_use held.fits met
  rw [meets_onConnector, met] at came
  dsimp only at came
  rw [goes] at came
  obtain ⟨same, grown⟩ := Prod.mk.inj came
  cases same
  obtain rfl := List.append_cancel_left grown
  refine ⟨⟨?_, fun idle => left.unconnected ?_⟩, left⟩
  · have all : askedIn (steps ++ [⟨use, (state, connector), outcome, more⟩]) = askedIn steps ++ more := by simp [askedIn]
    rw [all, Connector.loansAfter_append]
    exact left.fits
  · rw [List.map_append] at idle
    exact idle.before.imp_right fun earlier => ⟨earlier.1, held.unconnected earlier.2⟩

/-- At a stage of a run the connections that are out are those of the sessions that were not ended. While the adapter is
idle, an engine is made for the statements of such a session only. -/
structure OpenForSessions (earlier : List Stage) (step : Stage) : Prop where
  out : (loansAfter [] (askedIn earlier)).Perm ((openConnections step.before).map (⟨·, false⟩))
  made : Idle (.connect .plain) (.disconnect .plain) (earlier.map (·.made)) → step.made ≠ .connect .plain →
    ∀ exchange ∈ step.asked, creates exchange →
      ∃ n records, step.made = .work (.session n) records ∧ (openSession? step.before.1 n).isSome

theorem open_for_sessions (driver : Driver) (adapter : Adapter) (uses : List Use) (hasStore : Bool) (connector : Connector)
    {earlier later : List Stage} {step : Stage}
    (run : onConnectorRun driver adapter uses hasStore connector = earlier ++ step :: later) : OpenForSessions earlier step := by
  refine (@stepsOf_induction _ _ _ _ driver _ [] _ (fun use : Use => (use.task adapter).run.within onConnector)
    (fun steps both => (∀ earlier step later, steps = earlier ++ step :: later → OpenForSessions earlier step) ∧
      Held steps both) ?_ uses [] ⟨?_, ?_⟩).1 earlier step later run
  · rintro steps both use outcome after asked ⟨each, held⟩ came
    obtain ⟨next, left⟩ := held_step held came
    refine ⟨fun earlier step later split => ?_, next⟩
    obtain ⟨rfl, rfl, rfl⟩ | ⟨rest, rfl, rfl⟩ := split_last split
    · exact ⟨held.fits.out, fun idle => left.made (held.unconnected idle)⟩
    · exact each earlier step rest rfl
  · intro earlier step later split
    cases earlier <;> cases split
  · exact ⟨⟨⟨nofun, .refl _⟩, nofun, List.nodup_nil, fun m => by simp [openSession?, AdapterState.session?, lines],
      fun _ => rfl, nofun⟩, fun _ => rfl⟩

/-- A driver that does all it is asked, for which every statement changes one row. -/
def willing : Driver
  | _, .create .. => (.ok .numericDollar : Outcome Sql.ParamStyle)
  | log, .checkout | log, .connect => (.ok log.length : Outcome Nat)
  | _, .exec .. => (.ok { rowCount := some 1 } : Outcome DriverResult)
  | _, .disposeEngine | _, .begin _ | _, .commit _ | _, .rollback _ | _, .close _ => (.ok () : Outcome Unit)

/-- A session that goes on after its adapter was disconnected. -/
def lateSession : List Use :=
  [.connect .plain, .begin .plain, .disconnect .plain, .work (.session 0) (.delete (.text "draft") .null),
    .finish 0 none false]

def lateSessionRun : List Stage :=
  onConnectorRun willing
    { draftsAdapter with settings := { url := some "postgresql://localhost/app", ensureSchema := false } } lateSession false
    { toolkit := Script.toolkit }

theorem lateSession_open : ∃ deletes, lateSessionRun[3]? = some deletes ∧ OpenForSessions (lateSessionRun.take 3) deletes ∧
    openConnections deletes.before = [1] := by
  have opened : lateSessionRun[3]?.map (openConnections ·.before) = some [1] := by decide +kernel
  obtain ⟨deletes, here, opened⟩ := Option.map_eq_some_iff.1 opened
  obtain ⟨inside, rfl⟩ := List.getElem?_eq_some_iff.1 here
  have split : lateSessionRun = lateSessionRun.take 3 ++ lateSessionRun[3] :: lateSessionRun.drop 4 := by
    rw [List.getElem_cons_drop, List.take_append_drop]
  exact ⟨_, here, open_for_sessions willing _ lateSession false _ split, opened⟩

/-- Disconnecting succeeds, the connection of the session is still out, and its next statement makes another engine. -/
theorem lateSession_outlives : (lateSessionRun.take 3).map (·.result.isOk) = [true, true, true] ∧
    loansAfter [] (askedIn (lateSessionRun.take 3)) = [⟨1, false⟩] ∧
      ∃ exchange ∈ askedIn (lateSessionRun.drop 3), creates exchange := by
  decide +kernel

end RecordStore.Adapter
