import RecordStore.Proofs.Connector.Lifetime
import RecordStore.Proofs.Store.Completion
import RecordStore.Script.Url

/-!
# One statement at a time

Any number of tasks that use one transaction at the same time, under every schedule. Their statements have the connection
one at a time, in the order in which they came for it. The ends of a transaction do not queue.
-/

namespace RecordStore.Connector

open RecordStore.Task

variable {n number : Nat} {s t : Connector} {α β γ : Type}

def record (n : Nat) (connector : Connector) : Transaction := connector.transactions.getD n {}

def IsStatement : EngineCall → Prop
  | .exec .. => True
  | _ => False

/-! ### Turns -/

/-- Where a task stands in the queue for the connection of a transaction. -/
inductive Turn where
  | away
  | queued (number : Nat)
  | holding (number : Nat)

def Turn.number? : Turn → Option Nat
  | away => none
  | queued number | holding number => some number

/-- What a task finds whenever it goes on: nobody else ends its turn. -/
def Agrees (n : Nat) (connector : Connector) (turn : Turn) : Prop :=
  n < connector.transactions.length ∧ ∀ number, turn = .holding number → (record n connector).served = number

/-- A change after which so many more statements have come for the connection and so many more are through with it. A
transaction that is over stays so. -/
structure Moves (n came served : Nat) (s t : Connector) : Prop where
  inside : n < s.transactions.length → n < t.transactions.length
  came : (record n t).came = (record n s).came + came
  served : (record n t).served = (record n s).served + served
  past : Over n s → Over n t

/-- A task that keeps to the queue, from a turn and a state on. It makes statements only while it has the connection, and
between two calls it relies on its own turn only. -/
inductive Orderly (n : Nat) (good : β → Turn → Connector → Prop) :
    Turn → Connector → Task Connector EngineCall EngineCall.Answer β → Prop
  | done {turn : Turn} {s : Connector} {result : β} (fine : good result turn s) : Orderly n good turn s (.done result)
  | look {turn : Turn} {s : Connector} {next : Connector → Link β} (rest : Orderly n good turn s (next s)) :
    Orderly n good turn s (.look next)
  | note {turn : Turn} {s : Connector} {entry : Log.Entry} {next : Link β} (rest : Orderly n good turn s next) :
    Orderly n good turn s (.note entry next)
  | keep {turn : Turn} {s t : Connector} {next : Link β} (moves : Moves n 0 0 s t) (rest : Orderly n good turn t next) :
    Orderly n good turn s (.change t next)
  | come {s t : Connector} {next : Link β} (moves : Moves n 1 0 s t)
    (rest : Orderly n good (.queued (record n s).came) t next) : Orderly n good .away s (.change t next)
  | leave {number : Nat} {s t : Connector} {next : Link β} (moves : Moves n 0 1 s t) (rest : Orderly n good .away t next) :
    Orderly n good (.holding number) s (.change t next)
  | call {turn : Turn} {s : Connector} {c : EngineCall} {next : c.Answer → Link β}
    (allowed : IsStatement c → ∃ number, turn = .holding number)
    (rest : ∀ answer t, Agrees n t turn → Orderly n good turn t (next answer)) : Orderly n good turn s (.call c next)
  | wait {number : Nat} {s : Connector} {next : Link β}
    (rest : ∀ t, Agrees n t (.holding number) → Orderly n good (.holding number) t next) :
    Orderly n good (.queued number) s (.wait (hasTurn n number) next)

theorem Orderly.bind {good : γ → Turn → Connector → Prop} {better : β → Turn → Connector → Prop} {turn : Turn}
    {task : Link γ} {f : γ → Link β} (orderly : Orderly n good turn s task)
    (rest : ∀ result now t, good result now t → Orderly n better now t (f result)) :
    Orderly n better turn s (task.bind f) := by
  induction orderly with
  | done fine => exact rest _ _ _ fine
  | look _ ih => exact .look ih
  | note _ ih => exact .note ih
  | keep moves _ ih => exact .keep moves ih
  | come moves _ ih => exact .come moves ih
  | leave moves _ ih => exact .leave moves ih
  | call allowed _ ih => exact .call allowed ih
  | wait _ ih => exact .wait ih

/-! ### Operations that keep their turn -/

/-- An operation that keeps its turn, whichever it is of those that are allowed. -/
def Stays (n : Nat) (allowed : Turn → Prop) (operation : Linked α) : Prop :=
  ∀ turn s, allowed turn → Agrees n s turn →
    Orderly n (fun _ now t => now = turn ∧ Agrees n t turn) turn s operation.run

def IsHolding (turn : Turn) : Prop := ∃ number, turn = .holding number

variable {allowed : Turn → Prop}

theorem stays_ofOutcome (outcome : Outcome α) : Stays n allowed (ofOutcome outcome) :=
  fun _ _ _ agrees => .done ⟨rfl, agrees⟩

theorem stays_ofMisuse (result : Except Misuse α) : Stays n allowed (ofMisuse result) := stays_ofOutcome _

theorem stays_pure (a : α) : Stays n allowed (pure a : Linked α) := stays_ofOutcome (.ok a)

theorem stays_refusal (failure : Failure) : Stays n allowed (throw failure : Linked α) := stays_ofOutcome (.error failure)

theorem stays_look : Stays n allowed look := fun _ _ _ agrees => .look (.done ⟨rfl, agrees⟩)

theorem Agrees.moves {turn : Turn} (agrees : Agrees n s turn) (moves : Moves n 0 0 s t) : Agrees n t turn :=
  ⟨moves.inside agrees.1, fun number same => moves.served.trans (agrees.2 number same)⟩

theorem stays_change (f : Connector → Connector) (moves : ∀ s, n < s.transactions.length → Moves n 0 0 s (f s)) :
    Stays n allowed (change f) := fun _ s _ agrees =>
  .look (.keep (moves s agrees.1) (.done ⟨rfl, agrees.moves (moves s agrees.1)⟩))

theorem stays_debug (message : String) : Stays n allowed (debug message) := fun _ _ _ agrees => .note (.done ⟨rfl, agrees⟩)

theorem stays_warn (message : String) : Stays n allowed (warn message) := fun _ _ _ agrees => .note (.done ⟨rfl, agrees⟩)

theorem Stays.bind {operation : Linked α} {f : α → Linked β} (first : Stays n allowed operation)
    (rest : ∀ a, Stays n allowed (f a)) : Stays n allowed (operation >>= f) := by
  intro turn s may agrees
  rw [bind_run]
  refine (first turn s may agrees).bind ?_
  rintro (failure | a) now t ⟨rfl, still⟩
  · exact .done ⟨rfl, still⟩
  · exact rest a now t may still

theorem Stays.handled {operation : Linked α} {handle : Failure → Linked α} (first : Stays n allowed operation)
    (rest : ∀ failure, Stays n allowed (handle failure)) : Stays n allowed (tryCatch operation handle) := by
  intro turn s may agrees
  rw [tryCatch_run]
  refine (first turn s may agrees).bind ?_
  rintro (failure | a) now t ⟨rfl, still⟩
  · exact rest failure now t may still
  · exact .done ⟨rfl, still⟩

theorem Stays.diagnosing {body : Linked α} (stays : Stays n allowed body) (sql operation : String) :
    Stays n allowed (diagnosing sql operation body) :=
  stays.handled fun _ => stays_refusal _

theorem Orderly.kept {operation : Linked α} {f : Outcome α → Linked β} {good : Outcome α → Turn → Connector → Prop}
    {better : Outcome β → Turn → Connector → Prop} {turn : Turn} (orderly : Orderly n good turn s operation.run)
    (rest : ∀ outcome now t, good outcome now t → Orderly n better now t (f outcome).run) :
    Orderly n better turn s (ExceptT.lift operation.run >>= f : Linked β).run := by
  rw [bind_run]
  have told : Orderly n (fun result now t => ∃ outcome, result = .ok outcome ∧ good outcome now t) turn s
      (ExceptT.lift operation.run : Linked (Outcome α)).run :=
    orderly.bind fun outcome _ _ fine => .done ⟨outcome, rfl, fine⟩
  refine told.bind ?_
  rintro _ now t ⟨outcome, rfl, fine⟩
  exact rest outcome now t fine

theorem Stays.kept {operation : Linked α} (stays : Stays n allowed operation) :
    Stays n allowed (ExceptT.lift operation.run : Linked (Outcome α)) := by
  intro turn s may agrees
  refine (stays turn s may agrees).bind ?_
  rintro outcome now t ⟨rfl, still⟩
  exact .done ⟨rfl, still⟩

theorem stays_perform (c : EngineCall) (fine : ∀ turn, allowed turn → IsStatement c → IsHolding turn) :
    ∀ turn s, allowed turn → Agrees n s turn →
      Orderly n (fun _ now t => now = turn ∧ Agrees n t turn) turn s (Task.perform c) :=
  fun turn _ may _ => .call (fine turn may) fun _ _ still => .done ⟨rfl, still⟩

theorem moves_of_transactions (same : t.transactions = s.transactions) : Moves n 0 0 s t := by
  have own : record n t = record n s := by rw [record, same, record]
  refine ⟨fun inside => same ▸ inside, congrArg _ own, congrArg _ own, fun past => ?_⟩
  change (record n t).isActive = false
  rw [own]
  exact past

theorem moves_alter {f : Transaction → Transaction} {came served : Nat} (inside : n < s.transactions.length)
    (counted : (f (record n s)).came = (record n s).came + came)
    (through : (f (record n s)).served = (record n s).served + served)
    (past : (record n s).isActive = false → (f (record n s)).isActive = false) : Moves n came served s (alter n f s) := by
  have own : record n (alter n f s) = f (record n s) := alter_getD inside
  refine ⟨fun _ => alter_length.symm ▸ inside, by rw [own, counted], by rw [own, through], fun before => ?_⟩
  change (record n (alter n f s)).isActive = false
  rw [own]
  exact past before

theorem stays_changeTransaction {f : Transaction → Transaction} (counted : ∀ x, (f x).came = x.came)
    (through : ∀ x, (f x).served = x.served) (past : ∀ x, x.isActive = false → (f x).isActive = false) :
    Stays n allowed (changeTransaction n f) :=
  stays_change _ fun _ inside => moves_alter inside (counted _) (through _) (past _)

theorem stays_transaction : Stays n allowed (transaction n) := stays_look.bind fun _ => stays_pure _

theorem stays_requireActive : Stays n allowed (requireActive n) := by
  refine stays_transaction.bind fun x => ?_
  split
  · exact stays_refusal _
  · exact stays_pure _

theorem stays_createEngine : Stays n allowed createEngine := by
  refine stays_look.bind fun connector => (stays_ofOutcome _).bind fun target => ?_
  refine Stays.bind (stays_change _ fun _ _ => moves_of_transactions (by rfl)) fun _ =>
    (stays_ofMisuse _).bind fun options => ?_
  have creates : Stays n allowed (create target.name options) :=
    stays_perform (.create target.name options) fun _ _ => False.elim
  refine creates.bind fun style => ?_
  exact Stays.bind (stays_change _ fun _ _ => moves_of_transactions (by rfl)) fun _ => stays_debug _

theorem stays_engineStyle : Stays n allowed engineStyle := by
  refine stays_look.bind fun connector => ?_
  cases connector.engine with
  | some style => exact stays_pure style
  | none => exact stays_createEngine.bind fun _ => stays_look.bind fun _ => stays_pure _

theorem stays_closeConnection : Stays n allowed (closeConnection n) := by
  refine stays_transaction.bind fun x => ?_
  cases x.connection with
  | none => exact stays_pure _
  | some c =>
    have closes : Stays n allowed (close c) := stays_perform (.close c) fun _ _ => False.elim
    refine (closes.handled fun _ => stays_warn _).bind fun _ => ?_
    exact stays_changeTransaction (fun _ => rfl) (fun _ => rfl) fun _ _ => rfl

theorem stays_finish (operation : String) {ending : Nat → Linked Unit} (ends : ∀ c, Stays n allowed (ending c)) :
    Stays n allowed (finish n operation ending) := by
  refine stays_requireActive.bind fun _ => stays_transaction.bind fun x => ?_
  refine (Stays.kept (Stays.diagnosing ?_ "" operation)).bind fun outcome => ?_
  · cases x.connection with
    | none => exact stays_refusal _
    | some c => exact ends c
  · refine Stays.bind (stays_changeTransaction (fun _ => rfl) (fun _ => rfl) fun x _ => Bool.and_false x.begun) fun _ => ?_
    exact stays_closeConnection.bind fun _ => stays_ofOutcome outcome

theorem stays_ending (ending : Ending) : Stays n allowed (ending.task n) := by
  cases ending with
  | commit => exact stays_finish _ fun c => stays_perform (.commit c) fun _ _ => False.elim
  | rollback => exact stays_finish _ fun c => stays_perform (.rollback c) fun _ _ => False.elim

theorem stays_runStatement (connection : Option Nat) (sql : String) (params : Value) (style : Sql.ParamStyle) :
    Stays n IsHolding (runStatement connection sql params style) := by
  refine (stays_ofOutcome _).bind fun statement => (stays_ofMisuse _).bind fun count => (stays_debug _).bind fun _ => ?_
  cases connection with
  | none => exact stays_refusal _
  | some c =>
    have runs : Stays n IsHolding (exec c statement) := stays_perform (.exec c statement) fun _ holding _ => holding
    exact runs.bind fun result => stays_ofMisuse _

/-! ### Statements -/

/-- A task that is away from the connection again when it ends. -/
abbrev Returns (n : Nat) (turn : Turn) (s : Connector) (task : Link β) : Prop :=
  Orderly n (fun _ now t => now = .away ∧ Agrees n t .away) turn s task

theorem returns_executeIn (sql : String) (params : Value) (operation : String) (agrees : Agrees n s .away) :
    Returns n .away s (executeIn n sql params operation).run := by
  unfold executeIn
  rw [bind_run]
  have active : Stays n (fun _ => True) (requireActive n) := stays_requireActive
  refine Orderly.bind (active .away s trivial agrees) ?_
  rintro (failure | _) now s ⟨rfl, agrees⟩
  · exact .done ⟨rfl, agrees⟩
  have body : Stays n IsHolding (Connector.diagnosing sql operation do
      let connection := (← transaction n).connection
      let style ← engineStyle
      runStatement connection sql params style) :=
    Stays.diagnosing (stays_transaction.bind fun x => stays_engineStyle.bind fun style =>
      stays_runStatement x.connection sql params style) sql operation
  -- It comes for the connection, waits for its turn, and leaves when the statement has ended.
  refine .look (.look (.come (moves_alter agrees.1 rfl rfl id) (.wait fun t holds => ?_)))
  refine Orderly.kept (body _ t ⟨_, rfl⟩ holds) ?_
  rintro outcome now t ⟨rfl, holds⟩
  have moves : Moves n 0 1 t (alter n (fun x => { x with served := x.served + 1 }) t) := moves_alter holds.1 rfl rfl id
  exact .look (.leave moves (.done ⟨rfl, moves.inside holds.1, nofun⟩))

theorem returns_task (request : TransactionCall) (agrees : Agrees n s .away) : Returns n .away s (request.task n).run := by
  cases request with
  | execute sql params operation =>
    refine Orderly.bind (returns_executeIn sql params operation agrees) ?_
    rintro (failure | result) now t fine
    · exact .done fine
    · exact .done fine
  | finish ending =>
    have ends : Stays n (fun _ => True) (ending.task n) := stays_ending ending
    refine Orderly.bind (ends .away s trivial agrees) ?_
    rintro (failure | _) now t ⟨rfl, still⟩
    · exact .done ⟨rfl, still⟩
    · exact .done ⟨rfl, still⟩

/-- A user of a transaction: what it does next depends on what its calls came to. -/
inductive Client where
  | rest
  | ask (request : TransactionCall) (next : Outcome (Option StatementResult) → Client)

def Client.task (n : Nat) : Client → Link Unit
  | rest => .done ()
  | ask request next => (request.task n).run.bind fun outcome => (next outcome).task n

theorem returns_client (client : Client) (agrees : Agrees n s .away) : Returns n .away s (client.task n) := by
  induction client generalizing s with
  | rest => exact .done ⟨rfl, agrees⟩
  | ask request next ih =>
    refine (returns_task request agrees).bind ?_
    rintro outcome now t ⟨rfl, still⟩
    exact ih outcome still

/-! ### The queue -/

variable {k : Nat} {turns : Fin k → Turn} {i : Fin k}

/-- The turns of tasks that use one transaction together. -/
structure Queue (n : Nat) (connector : Connector) (turns : Fin k → Turn) : Prop where
  inside : n < connector.transactions.length
  ordered : (record n connector).served ≤ (record n connector).came
  within : ∀ i number, (turns i).number? = some number →
    (record n connector).served ≤ number ∧ number < (record n connector).came
  holds : ∀ i number, turns i = .holding number → (record n connector).served = number
  apart : ∀ i j number, (turns i).number? = some number → (turns j).number? = some number → i = j

theorem Queue.agrees (queue : Queue n s turns) (i : Fin k) : Agrees n s (turns i) := ⟨queue.inside, queue.holds i⟩

theorem Queue.start (inside : n < s.transactions.length) (ordered : (record n s).served ≤ (record n s).came) :
    Queue n s fun _ : Fin k => .away :=
  ⟨inside, ordered, nofun, nofun, nofun⟩

theorem Queue.keep (queue : Queue n s turns) (moves : Moves n 0 0 s t) : Queue n t turns where
  inside := moves.inside queue.inside
  ordered := by
    rw [moves.came, moves.served]
    exact queue.ordered
  within i number own := by
    rw [moves.came, moves.served]
    exact queue.within i number own
  holds i number own := moves.served.trans (queue.holds i number own)
  apart := queue.apart

theorem Queue.come (queue : Queue n s turns) (moves : Moves n 1 0 s t) :
    Queue n t (Function.update turns i (.queued (record n s).came)) := by
  have own : ∀ j number, (Function.update turns i (.queued (record n s).came) j).number? = some number →
      j = i ∧ number = (record n s).came ∨ (turns j).number? = some number ∧ number < (record n s).came := by
    intro j number found
    by_cases same : j = i
    · subst same
      rw [Function.update_self] at found
      exact .inl ⟨rfl, (Option.some.inj found).symm⟩
    · rw [Function.update_of_ne same] at found
      exact .inr ⟨found, (queue.within j number found).2⟩
  refine ⟨moves.inside queue.inside, ?_, fun j number found => ?_, fun j number found => ?_, fun j l number here there => ?_⟩
  · rw [moves.came, moves.served]
    exact Nat.le_succ_of_le queue.ordered
  · rw [moves.came, moves.served]
    obtain ⟨_, rfl⟩ | ⟨found, _⟩ := own j number found
    · exact ⟨queue.ordered, Nat.lt_succ_self _⟩
    · exact (queue.within j number found).imp id Nat.lt_succ_of_lt
  · by_cases same : j = i
    · rw [same, Function.update_self] at found
      cases found
    · rw [Function.update_of_ne same] at found
      exact moves.served.trans (queue.holds j number found)
  · obtain ⟨rfl, rfl⟩ | ⟨here, less⟩ := own j number here
    · obtain ⟨rfl, _⟩ | ⟨_, less⟩ := own l _ there
      · rfl
      · exact absurd less (Nat.lt_irrefl _)
    · obtain ⟨_, rfl⟩ | ⟨there, _⟩ := own l number there
      · exact absurd less (Nat.lt_irrefl _)
      · exact queue.apart j l number here there

theorem Queue.take (queue : Queue n s turns) (own : turns i = .queued number) (turn : (record n s).served = number) :
    Queue n s (Function.update turns i (.holding number)) := by
  have same : ∀ j, (Function.update turns i (.holding number) j).number? = (turns j).number? := by
    intro j
    by_cases here : j = i
    · rw [here, Function.update_self, own]
      rfl
    · rw [Function.update_of_ne here]
  refine ⟨queue.inside, queue.ordered, fun j other found => ?_, fun j other found => ?_, fun j l other here there => ?_⟩
  · exact queue.within j other (same j ▸ found)
  · by_cases here : j = i
    · rw [here, Function.update_self] at found
      cases found
      exact turn
    · rw [Function.update_of_ne here] at found
      exact queue.holds j other found
  · exact queue.apart j l other (same j ▸ here) (same l ▸ there)

theorem Queue.leave (queue : Queue n s turns) (own : turns i = .holding number) (moves : Moves n 0 1 s t) :
    Queue n t (Function.update turns i .away) := by
  have mine := queue.holds i number own
  have less := (queue.within i number (by rw [own]; rfl)).2
  have others : ∀ j other, (Function.update turns i .away j).number? = some other →
      j ≠ i ∧ (turns j).number? = some other ∧ other ≠ number := by
    intro j other found
    by_cases here : j = i
    · rw [here, Function.update_self] at found
      cases found
    · rw [Function.update_of_ne here] at found
      refine ⟨here, found, fun same => here (queue.apart j i number (same ▸ found) (by rw [own]; rfl))⟩
  refine ⟨moves.inside queue.inside, ?_, fun j other found => ?_, fun j other found => ?_, fun j l other here there => ?_⟩
  · rw [moves.came, moves.served]
    omega
  · obtain ⟨_, found, different⟩ := others j other found
    obtain ⟨above, below⟩ := queue.within j other found
    rw [moves.came, moves.served]
    omega
  · by_cases here : j = i
    · rw [here, Function.update_self] at found
      cases found
    · rw [Function.update_of_ne here] at found
      have second := queue.holds j other found
      exact absurd (queue.apart j i number (by rw [found, ← second, mine]; rfl) (by rw [own]; rfl)) here
  · obtain ⟨_, here, _⟩ := others j other here
    obtain ⟨_, there, _⟩ := others l other there
    exact queue.apart j l other here there

/-! ### A turn of one task -/

/-- What a task that keeps to the queue looks like while it runs. -/
inductive Runs (n : Nat) : Turn → Running Connector EngineCall EngineCall.Answer β → Prop
  | ready {turn : Turn} {task : Link β} (orderly : ∀ s, Agrees n s turn → Returns n turn s task) : Runs n turn (.ready task)
  | called {turn : Turn} {c : EngineCall} {next : c.Answer → Link β} (allowed : IsStatement c → IsHolding turn)
    (rest : ∀ answer t, Agrees n t turn → Returns n turn t (next answer)) : Runs n turn (.called c next)
  | waiting {number : Nat} {next : Link β}
    (rest : ∀ t, Agrees n t (.holding number) → Returns n (.holding number) t next) :
    Runs n (.queued number) (.waiting (hasTurn n number) next)
  | ended {result : β} : Runs n .away (.ended result)

/-- How far a task of several has got: its new turn goes with those of the others. -/
structure Reaches (n : Nat) (turns : Fin k → Turn) (i : Fin k) (s : Connector)
    (m : Moment Connector EngineCall EngineCall.Answer β) : Prop where
  turn : ∃ now, Queue n m.state (Function.update turns i now) ∧ Runs n now m.running
  past : Over n s → Over n m.state

variable {here place : Place} {history : List (Event EngineCall EngineCall.Answer)}

theorem hasTurn_iff : hasTurn n number s = true ↔ (record n s).served = number := beq_iff_eq

theorem Orderly.advance {turn : Turn} {task : Link β} (orderly : Returns n turn s task) :
    ∀ {turns : Fin k → Turn}, Queue n s turns → turns i = turn →
      Reaches n turns i s (task.advance here s history) ∧
        ((task.advance here s history).history = history ∨ ∃ c next,
          task.advance here s history =
            ⟨(task.advance here s history).state, history ++ [.issued here c], .called c next⟩) := by
  induction orderly with
  | done fine =>
    intro turns queue own
    obtain ⟨rfl, _⟩ := fine
    exact ⟨⟨⟨.away, by rwa [← own, Function.update_eq_self], .ended⟩, id⟩, .inl rfl⟩
  | look _ ih => exact ih
  | note _ ih => exact ih
  | keep moves _ ih =>
    intro turns queue own
    obtain ⟨⟨turn, past⟩, told⟩ := ih (queue.keep moves) own
    exact ⟨⟨turn, fun before => past (moves.past before)⟩, told⟩
  | come moves _ ih =>
    intro turns queue own
    obtain ⟨⟨⟨now, queue, runs⟩, past⟩, told⟩ := ih (queue.come (i := i) moves) (Function.update_self ..)
    rw [Function.update_idem] at queue
    exact ⟨⟨⟨now, queue, runs⟩, fun before => past (moves.past before)⟩, told⟩
  | leave moves _ ih =>
    intro turns queue own
    obtain ⟨⟨⟨now, queue, runs⟩, past⟩, told⟩ := ih (queue.leave own moves) (Function.update_self ..)
    rw [Function.update_idem] at queue
    exact ⟨⟨⟨now, queue, runs⟩, fun before => past (moves.past before)⟩, told⟩
  | call allowed rest =>
    intro turns queue own
    exact ⟨⟨⟨_, by rwa [← own, Function.update_eq_self], .called allowed rest⟩, id⟩, .inr ⟨_, _, rfl⟩⟩
  | @wait number s next rest ih =>
    intro turns queue own
    rw [Task.advance]
    split
    · next turn =>
      have taken := queue.take own (hasTurn_iff.1 turn)
      have agrees : Agrees n s (.holding number) :=
        ⟨queue.inside, fun _ same => Turn.holding.inj same ▸ hasTurn_iff.1 turn⟩
      obtain ⟨⟨⟨now, queue, runs⟩, past⟩, told⟩ := ih s agrees taken (Function.update_self ..)
      rw [Function.update_idem] at queue
      exact ⟨⟨⟨now, queue, runs⟩, past⟩, told⟩
    · exact ⟨⟨⟨_, by rwa [← own, Function.update_eq_self], .waiting rest⟩, id⟩, .inl rfl⟩

variable {outside : Outside EngineCall EngineCall.Answer}

/-- What can happen at a turn of one task: nothing, the answer to its call, or a call, if it was not waiting for an answer. -/
inductive Happens (here : Place) (part running : Running Connector EngineCall EngineCall.Answer β) :
    List (Event EngineCall EngineCall.Answer) → Prop
  | nothing : Happens here part running []
  | answered {c : EngineCall} {answer : c.Answer} : Happens here part running [.answered here c answer]
  | issued {c : EngineCall} {next : c.Answer → Link β} (free : ∀ other place, ¬ part.Awaits here place other)
    (calls : running = .called c next) : Happens here part running [.issued here c]

theorem Runs.turn {part : Running Connector EngineCall EngineCall.Answer β}
    {m : Moment Connector EngineCall EngineCall.Answer β} (runs : Runs n (turns i) part) (queue : Queue n s turns)
    (turned : part.turn outside here place s history = some m) :
    Reaches n turns i s m ∧ ∃ more, m.history = history ++ more ∧ Happens here part m.running more := by
  have happens : ∀ {part : Running Connector EngineCall EngineCall.Answer β}
      {m : Moment Connector EngineCall EngineCall.Answer β}, (∀ other place, ¬ part.Awaits here place other) →
      (m.history = history ∨ ∃ c next, m = ⟨m.state, history ++ [.issued here c], .called c next⟩) →
      ∃ more, m.history = history ++ more ∧ Happens here part m.running more := by
    rintro part m free (same | ⟨c, next, same⟩)
    · exact ⟨[], by rw [same, List.append_nil], .nothing⟩
    · rw [same]
      exact ⟨_, rfl, .issued free rfl⟩
  generalize now : turns i = turn at runs
  cases place with
  | cons j place => cases runs <;> cases turned
  | nil =>
    cases runs with
    | ready orderly =>
      cases turned
      obtain ⟨reaches, told⟩ := @Orderly.advance n s _ _ i here history _ _ (orderly s (now ▸ queue.agrees i)) turns queue now
      exact ⟨reaches, happens (fun _ _ => id) told⟩
    | called allowed rest =>
      cases turned
      exact ⟨⟨⟨_, by rwa [← now, Function.update_eq_self], .ready (rest _)⟩, id⟩, _, rfl, .answered⟩
    | @waiting number next rest =>
      rw [Running.turn] at turned
      split at turned
      · next free =>
        cases turned
        have served := hasTurn_iff.1 free
        obtain ⟨⟨⟨now, queue, runs⟩, past⟩, told⟩ := @Orderly.advance n s _ _ i here history _ _
          (rest s ⟨queue.inside, fun _ same => Turn.holding.inj same ▸ served⟩) _ (queue.take now served)
          (Function.update_self ..)
        rw [Function.update_idem] at queue
        exact ⟨⟨⟨now, queue, runs⟩, past⟩, happens (fun _ _ => id) told⟩
      · cases turned
    | ended => cases turned

theorem Runs.is_over {turn : Turn} {part : Running Connector EngineCall EngineCall.Answer β} {result : β}
    (runs : Runs n turn part)
    (ended : part.result? = some result) : part.Over := by
  cases runs with
  | ended => exact .ended
  | _ => cases ended

theorem Runs.holding {turn : Turn} {part : Running Connector EngineCall EngineCall.Answer β} {c : EngineCall}
    (runs : Runs n turn part) (awaits : part.Awaits here place c) (statement : IsStatement c) : IsHolding turn := by
  cases runs with
  | called allowed =>
    obtain ⟨_, rfl⟩ := awaits
    exact allowed statement
  | _ => cases awaits

theorem Queue.same_holder (queue : Queue n s turns) {j : Fin k} {first second : Nat} (here : turns i = .holding first)
    (there : turns j = .holding second) : i = j := by
  have same := (queue.holds i first here).symm.trans (queue.holds j second there)
  exact queue.apart i j first (by rw [here]; rfl) (by rw [there, same]; rfl)

/-! ### All tasks -/

/-- Whenever a statement is issued, no other statement is in progress. -/
def Exclusive (history : List (Event EngineCall EngineCall.Answer)) : Prop :=
  ∀ before place c, before ++ [.issued place c] <+: history → IsStatement c →
    ∀ other d, IsStatement d → ¬ InProgress other d before

theorem exclusive_nil : Exclusive [] := by
  intro before place c start
  exact absurd (List.prefix_nil.1 start) (List.append_ne_nil_of_right_ne_nil before (List.cons_ne_nil _ []))

theorem Exclusive.append {event : Event EngineCall EngineCall.Answer} (exclusive : Exclusive history)
    (alone : ∀ place c, event = .issued place c → IsStatement c → ∀ other d, IsStatement d → ¬ InProgress other d history) :
    Exclusive (history ++ [event]) := by
  intro before place c start statement
  obtain same | earlier := List.prefix_concat_iff.1 start
  · obtain ⟨rfl, last⟩ := List.append_inj' same rfl
    exact alone place c (List.cons.inj last).1.symm statement
  · exact exclusive before place c earlier statement

/-- How far tasks have come that use one transaction together. -/
inductive Serving (n : Nat) (start : Moment Connector EngineCall EngineCall.Answer (List γ)) :
    Moment Connector EngineCall EngineCall.Answer (List γ) → Prop
  | waiting : Serving n start start
  | together {k : Nat} {s : Connector} {history : List (Event EngineCall EngineCall.Answer)} {turns : Fin k → Turn}
    {parts : Fin k → Running Connector EngineCall EngineCall.Answer γ} (queue : Queue n s turns)
    (each : ∀ i, Runs n (turns i) (parts i)) : Serving n start ⟨s, history, .settling k parts Task.done⟩
  | finished {s : Connector} {history : List (Event EngineCall EngineCall.Answer)}
    {running : Running Connector EngineCall EngineCall.Answer (List γ)} (past : running.Over) :
    Serving n start ⟨s, history, running⟩

theorem Serving.turn {tasks : List (Link γ)} {m later : Moment Connector EngineCall EngineCall.Answer (List γ)}
    (serving : Serving n (.start s (Task.settled tasks)) m) (fresh : Queue n s fun _ : Fin tasks.length => .away)
    (returns : ∀ task ∈ tasks, ∀ s, Agrees n s .away → Returns n .away s task)
    (awaited : ∀ {place c}, InProgress place c m.history → m.running.Awaits [] place c) (exclusive : Exclusive m.history)
    (turned : m.turn outside place = some later) :
    Serving n (.start s (Task.settled tasks)) later ∧ Exclusive later.history ∧ (Over n m.state → Over n later.state) := by
  cases serving with
  | waiting =>
    cases place with
    | nil =>
      cases turned
      exact ⟨.together fresh fun i => .ready (returns _ (List.get_mem tasks i)), exclusive, id⟩
    | cons => cases turned
  | finished past =>
    have still := past.no_turn.symm.trans turned
    cases still
  | @together k s history turns parts queue each =>
    cases place with
    | nil =>
      obtain ⟨results, all, rfl⟩ := Option.map_eq_some_iff.1 turned
      obtain ⟨_, ended, _⟩ := Running.results?_some all
      exact ⟨.finished (.beside (fun i => (each i).is_over (ended i)) .ended), exclusive, id⟩
    | cons j place =>
      rw [Moment.turn, Running.turn] at turned
      split at turned
      · next inside =>
        obtain ⟨part, went, rfl⟩ := Option.map_eq_some_iff.1 turned
        obtain ⟨⟨⟨now, after, runs⟩, past⟩, more, grown, happens⟩ := (each ⟨j, inside⟩).turn queue went
        refine ⟨.together after fun l => ?_, ?_, past⟩
        · by_cases same : l = ⟨j, inside⟩
          · rw [same, Function.update_self, Function.update_self]
            exact runs
          · rw [Function.update_of_ne same, Function.update_of_ne same]
            exact each l
        · change Exclusive part.history
          rw [grown]
          cases happens with
          | nothing => rwa [List.append_nil]
          | answered => exact exclusive.append fun _ _ same => by cases same
          | @issued c _ free calls =>
            refine exclusive.append fun _ _ same statement other d also progress => ?_
            cases same
            -- Both tasks would hold the connection.
            obtain ⟨l, awaits⟩ := awaited progress
            have different : l ≠ ⟨j, inside⟩ := by
              rintro rfl
              exact free _ _ awaits
            obtain ⟨first, own⟩ := (each l).holding awaits also
            obtain ⟨second, mine⟩ : IsHolding now := by
              rw [calls] at runs
              cases runs with
              | called allowed => exact allowed statement
            exact different (after.same_holder (by rwa [Function.update_of_ne different]) (by rwa [Function.update_self]))
      · cases turned

/-- What holds at every moment of tasks that use one transaction together: its statements exclude each other; and once it is
over it stays over and refuses every call that begins, without the driver. -/
structure Serial (n : Nat) (outside : Outside EngineCall EngineCall.Answer)
    (m : Moment Connector EngineCall EngineCall.Answer β) : Prop where
  exclusive : Exclusive m.history
  stays : Over n m.state → ∀ place later, m.turn outside place = some later → Over n later.state
  refuses : Over n m.state → ∀ (request : TransactionCall) place history,
    (request.task n).run.advance place m.state history = ⟨m.state, history, .ended (.error (.ofError .transactionClosed))⟩

theorem advance_failed {operation : Linked α} {failure : Failure}
    (failed : operation.run.advance here s history = ⟨s, history, .ended (.error failure)⟩) (f : α → Linked β) :
    (operation >>= f).run.advance here s history = ⟨s, history, .ended (.error failure)⟩ := by
  rw [bind_run, advance_bind_ended failed]
  rfl

theorem advance_over (past : Over n s) (request : TransactionCall) : (request.task n).run.advance here s history =
    ⟨s, history, .ended (.error (.ofError .transactionClosed))⟩ := by
  have refused : (requireActive n).run.advance here s history =
      ⟨s, history, .ended (.error (.ofError .transactionClosed))⟩ := by
    have looked : (transaction n).run.advance here s history = ⟨s, history, .ended (.ok (record n s))⟩ := rfl
    unfold requireActive
    rw [bind_run, advance_bind_ended looked]
    dsimp only
    rw [show (record n s).isActive = false from past]
    rfl
  cases request with
  | execute sql params operation => exact advance_failed (advance_failed refused _) _
  | finish ending =>
    cases ending with
    | commit => exact advance_failed (advance_failed refused _) _
    | rollback => exact advance_failed (advance_failed refused _) _

/-- Whatever tasks use a transaction together, and however they take turns: its statements exclude each other, and what
begins after its end is refused. -/
theorem statements_exclusive {c : Nat} {style : Sql.ParamStyle} {schedule : List Place}
    {m : Moment Connector EngineCall EngineCall.Answer (List Unit)} (active : Active n c style s) (clients : List Client)
    (played : (Moment.start s (Task.settled (clients.map (Client.task n)))).play outside schedule = some m) :
    Serial n outside m := by
  obtain ⟨served, holds⟩ := active.holds
  have fresh : Queue n s fun _ : Fin (clients.map (Client.task n)).length => .away := by
    refine .start active.inside ?_
    rw [record, holds]
  have returns : ∀ task ∈ clients.map (Client.task n), ∀ s, Agrees n s .away → Returns n .away s task := by
    intro task member s agrees
    obtain ⟨client, _, rfl⟩ := List.mem_map.1 member
    exact returns_client client agrees
  have reached : Serving n (.start s (Task.settled (clients.map (Client.task n)))) m ∧ Exclusive m.history ∧
      ∀ {place c}, InProgress place c m.history → m.running.Awaits [] place c := by
    refine Moment.play_induction (P := fun _ m => Serving n (.start s (Task.settled (clients.map (Client.task n)))) m ∧
      Exclusive m.history ∧ ∀ {place c}, InProgress place c m.history → m.running.Awaits [] place c) ?_ ?_ played
    · exact ⟨.waiting, exclusive_nil, fun progress => absurd progress inProgress_nil⟩
    · rintro schedule place m later ⟨serving, exclusive, awaited⟩ turned
      obtain ⟨serving, exclusive, _⟩ := serving.turn fresh returns awaited exclusive turned
      exact ⟨serving, exclusive, Moment.awaits_turn awaited turned⟩
  obtain ⟨serving, exclusive, awaited⟩ := reached
  exact ⟨exclusive, fun past place later turned => (serving.turn fresh returns awaited exclusive turned).2.2 past,
    fun past request place history => advance_over past request⟩

def startedSample : Connector where
  toolkit := Script.toolkit
  engine := some .extendedFormat
  transactions := [{ connection := some 0, begun := true }]

theorem active_startedSample : Active 0 0 .extendedFormat startedSample := ⟨Nat.zero_lt_one, ⟨0, rfl⟩, rfl⟩

def selectSample (sql : String) : TransactionCall := .execute sql (.list []) "statement"

def fineOutside : Outside EngineCall EngineCall.Answer
  | _, _, .create .. => (.ok .extendedFormat : Outcome Sql.ParamStyle)
  | _, _, .disposeEngine => (.ok () : Outcome Unit)
  | _, _, .checkout => (.ok 0 : Outcome Nat)
  | _, _, .connect => (.ok 0 : Outcome Nat)
  | _, _, .begin _ => (.ok () : Outcome Unit)
  | _, _, .commit _ => (.ok () : Outcome Unit)
  | _, _, .rollback _ => (.ok () : Outcome Unit)
  | _, _, .close _ => (.ok () : Outcome Unit)
  | _, _, .exec .. => (.ok {} : Outcome DriverResult)

/-- Two users of one transaction, of which the second one ends it as soon as its statement has ended. -/
def clientsSample : List Client :=
  [.ask (selectSample "select 1") fun _ => .rest,
   .ask (selectSample "select 2") fun _ => .ask (.finish .commit) fun _ => .rest]

theorem clientsSample_exclusive : ∃ m, (Moment.start startedSample (Task.settled (clientsSample.map (Client.task 0)))).play
      fineOutside [[], [0], [1], [0], [0], [1], [1], [1]] = some m ∧ m.history.length = 5 ∧ Serial 0 fineOutside m := by
  have played : ((Moment.start startedSample (Task.settled (clientsSample.map (Client.task 0)))).play
      fineOutside [[], [0], [1], [0], [0], [1], [1], [1]]).map (fun m => m.history.length) = some 5 := rfl
  obtain ⟨m, played, five⟩ := Option.map_eq_some_iff.1 played
  exact ⟨m, played, five, statements_exclusive active_startedSample clientsSample played⟩

def crossingSample : Link (List (Outcome (Option StatementResult))) :=
  Task.settled ([selectSample "select 1", .finish .commit, selectSample "select 2"].map fun request => (request.task 0).run)

/-- A commit does not wait for the statement that has the connection. A statement that waits for its turn meanwhile is not
refused when it gets it, but fails for want of a connection. -/
theorem commit_crosses_statement :
    (∃ m, (Moment.start startedSample crossingSample).play fineOutside [[], [0], [1]] = some m ∧
      InProgress [0] (.exec 0 ⟨"select 1", none⟩) m.history ∧ InProgress [1] (.commit 0) m.history) ∧
    ∃ m, (Moment.start startedSample crossingSample).play fineOutside
        [[], [0], [2], [1], [1], [1], [1], [1], [0], [0], [2], []] = some m ∧
      ∃ first failure, m.running.result? = some [first, .ok none, .error failure] ∧
        failure.error?.map (·.code) = some .failed := by
  refine ⟨⟨_, rfl, ⟨[], _, rfl, ?_⟩, ⟨[_], [], rfl, nofun⟩⟩, _, rfl, _, _, rfl, rfl⟩
  intro answer member
  cases List.mem_singleton.1 member

end RecordStore.Connector
