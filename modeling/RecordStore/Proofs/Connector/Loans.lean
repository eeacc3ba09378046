import RecordStore.Proofs.Connector.Lifetime

/-!
# Connections that are out

The engine hands out a connection for one statement, or for a transaction. The one for a statement is back when the
statement has ended; the one for a transaction is back when the transaction has ended, whatever becomes of the engine.
-/

namespace RecordStore.Connector

open RecordStore.Task

variable {driver : Driver} {connector after : Connector} {log asked : List Asked} {n c : Nat} {sql operation : String}
  {params : Value}

/-! ### What is out -/

/-- A connection that was handed out, for one statement or for a transaction. -/
structure Loan where
  connection : Nat
  forStatement : Bool
  deriving DecidableEq

/-- What a call does to the loans. A commit or a rollback gives the connection of a statement back, closing that of a
transaction, whatever is answered. -/
def Loan.afterCall (loans : List Loan) : Asked → List Loan
  | ⟨.checkout, (.ok c : Outcome Nat)⟩ => ⟨c, true⟩ :: loans
  | ⟨.connect, (.ok c : Outcome Nat)⟩ => ⟨c, false⟩ :: loans
  | ⟨.commit c, _⟩ | ⟨.rollback c, _⟩ => loans.erase ⟨c, true⟩
  | ⟨.close c, _⟩ => loans.erase ⟨c, false⟩
  | _ => loans

def loansAfter (loans : List Loan) (asked : List Asked) : List Loan := asked.foldl Loan.afterCall loans

theorem loansAfter_append (loans : List Loan) (asked more : List Asked) :
    loansAfter loans (asked ++ more) = loansAfter (loansAfter loans asked) more := List.foldl_append

/-- Exchanges in which no connection goes out or comes back. -/
def Still (asked : List Asked) : Prop := ∀ loans, loansAfter loans asked = loans

theorem Makes.still (makes : Makes asked) : Still asked := by
  intro loans
  induction asked with
  | nil => rfl
  | cons exchange rest ih =>
    obtain ⟨call, answer⟩ := exchange
    obtain ⟨name, options, same⟩ := makes _ List.mem_cons_self
    cases same
    exact ih fun other member => makes other (List.mem_cons_of_mem _ member)

theorem Still.append {more : List Asked} (first : Still asked) (rest : Still more) : Still (asked ++ more) := by
  intro loans
  rw [loansAfter_append, first, rest]

theorem Ran.still {style : Sql.ParamStyle} {outcome : Outcome StatementResult}
    (ran : Ran c style sql params operation outcome asked) : Still asked := by
  cases ran <;> exact fun _ => rfl

/-! ### Transactions at rest -/

/-- The connection of a transaction, and whether it takes statements. -/
abbrev Line := Option Nat × Bool

def lines (connector : Connector) : List Line := connector.transactions.map fun t => (t.connection, t.isActive)

theorem lines_alter {f : Transaction → Transaction} {line : Line} (n : Nat)
    (becomes : ∀ t, ((f t).connection, (f t).isActive) = line) (connector : Connector) :
    lines (alter n f connector) = (lines connector).set n line := by
  refine List.ext_getElem? fun m => ?_
  rw [lines, lines, List.getElem?_map, List.getElem?_set]
  change ((connector.transactions.modify n f)[m]?).map _ = _
  rw [List.getElem?_modify, List.length_map, List.getElem?_map]
  by_cases own : n = m
  · subst own
    by_cases inside : n < connector.transactions.length
    · simp [inside, becomes]
    · simp [inside]
  · simp [own]

theorem lines_kept {f : Transaction → Transaction} (n : Nat)
    (kept : ∀ t, ((f t).connection, (f t).isActive) = (t.connection, t.isActive)) (connector : Connector) :
    lines (alter n f connector) = lines connector := by
  refine List.ext_getElem? fun m => ?_
  rw [lines, lines, List.getElem?_map, List.getElem?_map]
  change ((connector.transactions.modify n f)[m]?).map _ = _
  rw [List.getElem?_modify]
  by_cases own : n = m
  · cases connector.transactions[m]? with
    | none => rfl
    | some t => simpa [own] using kept t
  · simp [own]

/-- An operation that moves no connections and neither begins nor ends a transaction. -/
def Steady {α : Type} (operation : Linked α) : Prop := ∀ (driver : Driver) connector log, ∃ outcome after asked,
  meets driver operation connector log = ((outcome, after), log ++ asked) ∧ Still asked ∧ lines after = lines connector

section Steady

variable {α β : Type} {first : Linked α} {f : α → Linked β}

theorem steady_ofOutcome (outcome : Outcome α) : Steady (ofOutcome outcome) := by
  intro driver connector log
  exact ⟨outcome, connector, [], by rw [List.append_nil, meets_ofOutcome], fun _ => rfl, rfl⟩

theorem steady_look : Steady look := fun driver connector log =>
  ⟨_, connector, [], by rw [List.append_nil, meets_look], fun _ => rfl, rfl⟩

theorem Steady.bind (steady : Steady first) (rest : ∀ a, Steady (f a)) : Steady (first >>= f) := by
  intro driver connector log
  obtain ⟨outcome, after, asked, came, still, same⟩ := steady driver connector log
  cases outcome with
  | error failure => exact ⟨_, after, asked, meets_error came f, still, same⟩
  | ok a =>
    obtain ⟨outcome, last, more, went, rests, kept⟩ := rest a driver after (log ++ asked)
    refine ⟨outcome, last, asked ++ more, ?_, still.append rests, kept.trans same⟩
    rw [meets_ok came, went, List.append_assoc]

theorem Steady.diagnosing (steady : Steady first) (sql operation : String) : Steady (diagnosing sql operation first) := by
  intro driver connector log
  obtain ⟨outcome, after, asked, came, still, same⟩ := steady driver connector log
  exact ⟨_, after, asked, meets_diagnosing sql operation came, still, same⟩

end Steady

theorem steady_engineStyle : Steady engineStyle := by
  intro driver connector log
  obtain ⟨outcome, after, made, came, makes, same, _⟩ := @meets_engineStyle_made driver connector log
  exact ⟨outcome, after, made, came, makes.still, by rw [lines, same, lines]⟩

theorem steady_runStatement (connection : Option Nat) (sql : String) (params : Value) (style : Sql.ParamStyle) :
    Steady (runStatement connection sql params style) := by
  cases connection with
  | some c =>
    intro driver connector log
    obtain ⟨outcome, asked, came, ran⟩ := @meets_runStatement driver connector log c style sql "" params
    exact ⟨outcome, connector, asked, came, ran.still, rfl⟩
  | none =>
    refine (steady_ofOutcome _).bind fun statement => (steady_ofOutcome _).bind fun count => ?_
    refine Steady.bind (?_ : Steady (debug _)) fun _ => steady_ofOutcome _
    exact fun driver connector log => ⟨_, connector, [], by rw [List.append_nil, meets_debug], fun _ => rfl, rfl⟩

/-! ### Statements -/

theorem meets_commit : meets driver (commit c) connector log =
    ((driver log (.commit c), connector), log ++ [⟨.commit c, driver log (.commit c)⟩]) := rfl

theorem meets_rollback : meets driver (rollback c) connector log =
    ((driver log (.rollback c), connector), log ++ [⟨.rollback c, driver log (.rollback c)⟩]) := rfl

/-- A statement on a connection that it gives back at its end. -/
def onLoan (c : Nat) (statement : Linked StatementResult) : Linked StatementResult := do
  let result ← tryCatch statement fun failure => do
    rollback c
    throw failure
  commit c
  return result

theorem Steady.returned {statement : Linked StatementResult} (steady : Steady statement) (driver : Driver)
    (connector : Connector) (log : List Asked) : ∃ outcome after asked,
      meets driver (onLoan c statement) connector log = ((outcome, after), log ++ asked) ∧
        (∀ loans, loansAfter loans asked = loans.erase ⟨c, true⟩) ∧ lines after = lines connector := by
  obtain ⟨outcome, after, asked, came, still, same⟩ := steady driver connector log
  unfold onLoan
  -- After the statement there is one call more, whichever way it went.
  have last : ∀ exchange : Asked, (∀ loans, Loan.afterCall loans exchange = loans.erase ⟨c, true⟩) →
      ∀ loans, loansAfter loans (asked ++ [exchange]) = loans.erase ⟨c, true⟩ := by
    intro exchange gives loans
    rw [loansAfter_append, still]
    exact gives loans
  cases outcome with
  | error failure =>
    have back := @meets_rollback driver after (log ++ asked) c
    have caught : ∃ raised, meets driver (tryCatch statement fun failure => do
        rollback c
        throw failure) connector log =
          ((.error raised, after), log ++ asked ++ [⟨.rollback c, driver (log ++ asked) (.rollback c)⟩]) := by
      rw [meets_tryCatch_error came]
      cases answered : driver (log ++ asked) (.rollback c) with
      | ok _ => exact ⟨failure, meets_ok (answered ▸ back) _⟩
      | error other => exact ⟨other, meets_error (answered ▸ back) _⟩
    obtain ⟨raised, caught⟩ := caught
    exact ⟨_, after, _, (meets_error caught _).trans (by rw [List.append_assoc]), last _ fun _ => rfl, same⟩
  | ok result =>
    have back := @meets_commit driver after (log ++ asked) c
    have commits : ∃ outcome, meets driver (commit c >>= fun _ => pure result) after (log ++ asked) =
        ((outcome, after), log ++ asked ++ [⟨.commit c, driver (log ++ asked) (.commit c)⟩]) := by
      cases answered : driver (log ++ asked) (.commit c) with
      | ok _ => exact ⟨_, meets_ok (answered ▸ back) _⟩
      | error failure => exact ⟨_, meets_error (answered ▸ back) _⟩
    obtain ⟨outcome, commits⟩ := commits
    refine ⟨outcome, after, asked ++ [⟨.commit c, driver (log ++ asked) (.commit c)⟩], ?_, last _ fun _ => rfl, same⟩
    rw [meets_ok (meets_tryCatch_ok came _), ← List.append_assoc]
    exact commits

theorem steady_execute (sql : String) (params : Value) (operation : String) : Steady (execute sql params operation) := by
  let statement (c : Nat) : Linked StatementResult := do
    let style ← engineStyle
    runStatement (some c) sql params style
  have lends : Steady (checkout >>= fun c => onLoan c (statement c)) := by
    intro driver connector log
    have asks : meets driver checkout connector log =
      ((driver log .checkout, connector), log ++ [⟨.checkout, driver log .checkout⟩]) := rfl
    cases answered : driver log .checkout with
    | error failure =>
      rw [answered] at asks
      exact ⟨_, connector, _, meets_error asks _, fun _ => rfl, rfl⟩
    | ok c =>
      rw [answered] at asks
      have steady : Steady (statement c) := steady_engineStyle.bind fun style => steady_runStatement (some c) sql params style
      obtain ⟨outcome, after, asked, came, returned, same⟩ := @Steady.returned c _ steady driver connector
        (log ++ [⟨.checkout, (.ok c : Outcome Nat)⟩])
      refine ⟨outcome, after, _, (meets_ok asks _).trans (came.trans (by rw [List.append_assoc])), fun loans => ?_, same⟩
      rw [loansAfter_append, returned]
      exact List.erase_cons_head ..
  have discards : Steady (discard engineStyle) := steady_engineStyle.bind fun _ => steady_ofOutcome (.ok ())
  exact (discards.bind fun _ => lends).diagnosing sql operation

theorem steady_changeTransaction {f : Transaction → Transaction} (n : Nat)
    (kept : ∀ t, ((f t).connection, (f t).isActive) = (t.connection, t.isActive)) : Steady (changeTransaction n f) :=
  fun _ connector _ => ⟨_, alter n f connector, [], by rw [List.append_nil, meets_changeTransaction], fun _ => rfl,
    lines_kept n kept connector⟩

theorem steady_executeIn (n : Nat) (sql : String) (params : Value) (operation : String) :
    Steady (executeIn n sql params operation) := by
  have looks : Steady (transaction n) := steady_look.bind fun _ => steady_ofOutcome (.ok _)
  have active : Steady (requireActive n) := by
    refine looks.bind fun transaction => ?_
    cases transaction.isActive with
    | true => exact steady_ofOutcome (.ok ())
    | false => exact steady_ofOutcome (.error _)
  have runs : Steady (do
      let connection := (← transaction n).connection
      let style ← engineStyle
      runStatement connection sql params style) :=
    looks.bind fun t => steady_engineStyle.bind fun style => steady_runStatement t.connection sql params style
  have waits : ∀ number, Steady (ExceptT.lift (Task.waitFor (hasTurn n number)) : Linked Unit) :=
    fun number driver connector log =>
      ⟨_, connector, [], by rw [List.append_nil, meets_wait], fun _ => rfl, rfl⟩
  unfold executeIn
  refine active.bind fun _ => Steady.bind looks fun t => ?_
  refine Steady.bind (steady_changeTransaction n ?_) fun _ => Steady.bind (waits _) fun _ => ?_
  · exact fun _ => rfl
  refine Steady.bind (?_ : Steady (ExceptT.lift (ExceptT.run (Connector.diagnosing sql operation _)))) fun result => ?_
  · intro driver connector log
    obtain ⟨outcome, after, asked, came, still, same⟩ := runs driver connector log
    exact ⟨_, after, asked, meets_kept came, still, same⟩
  · refine Steady.bind (steady_changeTransaction n ?_) fun _ => steady_ofOutcome result
    exact fun _ => rfl

/-! ### Beginning and ending -/

theorem meets_beginTransaction : ∃ outcome after held asked,
    meets driver beginTransaction connector log = ((outcome, after), log ++ asked) ∧
      Starts connector.transactions.length outcome held asked ∧
      lines after = lines connector ++ [(held, held.isSome)] := by
  let entered : Connector := { connector with transactions := connector.transactions ++ [{}] }
  have unstarted : Unstarted connector.transactions.length entered := ⟨by simp [entered], by simp [entered]⟩
  obtain ⟨outcome, after, held, asked, started, starts, changed, _⟩ := @Unstarted.starts_framed driver entered log _ unstarted
  refine ⟨outcome.map fun _ => connector.transactions.length, after, held, asked, ?_, starts, ?_⟩
  · have numbered : meets driver newTransaction connector log = ((.ok connector.transactions.length, entered), log) := rfl
    unfold beginTransaction
    rw [meets_ok numbered]
    cases outcome with
    | ok _ => exact meets_ok started _
    | error failure => exact meets_error started _
  · let begun : Transaction := { connection := held, begun := held.isSome }
    have same : lines after = lines (alter connector.transactions.length (fun _ => begun) entered) := by
      rw [lines, changed]
      rfl
    have own : (begun.connection, begun.isActive) = (held, held.isSome) := by simp [begun, Transaction.isActive]
    rw [same, lines_alter _ fun _ => own]
    simp [entered, lines]

theorem Starts.loans {outcome : Outcome Nat} {held : Option Nat} (starts : Starts n outcome held asked)
    (loans : List Loan) : loansAfter loans asked = (held.map (⟨·, false⟩)).toList ++ loans := by
  cases starts with
  | unmade makes => exact makes.still loans
  | unconnected makes =>
    rw [loansAfter_append, makes.still]
    rfl
  | unbegun closing makes =>
    rw [loansAfter_append, makes.still]
    exact List.erase_cons_head ..
  | begun makes =>
    rw [loansAfter_append, makes.still]
    rfl

/-- Between two calls the transactions hold what is out, and the ones that hold something are those that take statements. -/
structure Settled (loans : List Loan) (lines : List Line) : Prop where
  resting : ∀ line ∈ lines, line.2 = line.1.isSome
  lent : loans.Perm (lines.filterMap (·.1.map (⟨·, false⟩)))

theorem Settled.of_still {loans : List Loan} {lines : List Line} (settled : Settled loans lines) (still : Still asked) :
    Settled (loansAfter loans asked) lines := (still loans).symm ▸ settled

theorem Settled.begins {loans : List Loan} {lines : List Line} {outcome : Outcome Nat} {held : Option Nat}
    (settled : Settled loans lines) (starts : Starts n outcome held asked) :
    Settled (loansAfter loans asked) (lines ++ [(held, held.isSome)]) := by
  constructor
  · intro line member
    obtain old | new := List.mem_append.1 member
    · exact settled.resting line old
    · rw [List.mem_singleton.1 new]
  · rw [starts.loans, List.filterMap_append]
    cases held with
    | none => simpa using settled.lent
    | some c => exact (settled.lent.cons _).trans (List.perm_append_singleton _ _).symm

theorem Settled.ends {loans : List Loan} {lines : List Line} (settled : Settled loans lines)
    (here : lines[n]? = some (some c, true)) :
    Settled ((loans.erase ⟨c, true⟩).erase ⟨c, false⟩) (lines.set n (none, false)) := by
  constructor
  · intro line member
    obtain old | rfl := List.mem_or_eq_of_mem_set member
    · exact settled.resting line old
    · rfl
  · obtain ⟨inside, found⟩ := List.getElem?_eq_some_iff.1 here
    have foreign : (⟨c, true⟩ : Loan) ∉ loans := by
      intro member
      simpa using settled.lent.mem_iff.1 member
    rw [List.erase_of_not_mem foreign]
    refine (settled.lent.erase _).trans ?_
    have split : lines = lines.take n ++ (some c, true) :: lines.drop (n + 1) := by
      rw [← found, List.getElem_cons_drop, List.take_append_drop]
    rw [List.set_eq_take_append_cons_drop, if_pos inside]
    conv_lhs => rw [split]
    simp only [List.filterMap_append, List.filterMap_cons, Option.map_some, Option.map_none]
    have front := @List.perm_middle _ (⟨c, false⟩ : Loan) ((lines.take n).filterMap (·.1.map (⟨·, false⟩)))
      ((lines.drop (n + 1)).filterMap (·.1.map (⟨·, false⟩)))
    refine (front.erase _).trans ?_
    rw [List.erase_cons_head]

/-! ### What is asked of a connector -/

/-- What a call does to the lines of the transactions. -/
def Shifts : (call : StoreCall) → call.Answer → List Line → List Line → Prop
  | .open .., _, _, later => later = []
  | .begin, (.ok n : Outcome Nat), before, later => n = before.length ∧ ∃ c, later = before ++ [(some c, true)]
  | .begin, (.error _ : Outcome Nat), before, later => later = before ++ [(none, false)]
  | .commit n, _, before, later | .rollback n, _, before, later => later = before.set n (none, false)
  | .execute .., _, before, later | .dispose, _, before, later => later = before

/-- The calls for which an engine may be made. -/
def MayMake : StoreCall → Prop
  | .open .. | .execute .. | .begin => True
  | .commit _ | .rollback _ | .dispose => False

def creates (exchange : Asked) : Prop := ∃ name options, exchange.call = .create name options

instance : DecidablePred creates
  | ⟨.create name options, _⟩ => .isTrue ⟨name, options, rfl⟩
  | ⟨.disposeEngine, _⟩ | ⟨.checkout, _⟩ | ⟨.connect, _⟩ | ⟨.begin _, _⟩ | ⟨.commit _, _⟩ | ⟨.rollback _, _⟩
  | ⟨.close _, _⟩ | ⟨.exec .., _⟩ => .isFalse nofun

/-- What an answer of a connector has done, apart from what came out of it. -/
structure Answered (call : StoreCall) (answer : call.Answer) (loans : List Loan) (before after : List Line)
    (asked : List Asked) : Prop where
  settled : Settled (loansAfter loans asked) after
  shifts : Shifts call answer before after
  made : ¬ MayMake call → ∀ exchange ∈ asked, ¬ creates exchange

theorem Settled.line {loans : List Loan} {t : Transaction} (settled : Settled loans (lines connector))
    (found : connector.transactions[n]? = some t) :
    (lines connector)[n]? = some (t.connection, t.isActive) ∧ t.isActive = t.connection.isSome := by
  have line : (lines connector)[n]? = some (t.connection, t.isActive) := by
    rw [lines, List.getElem?_map, found]
    rfl
  exact ⟨line, settled.resting _ (List.mem_of_getElem? line)⟩

theorem Settled.held_of_active {loans : List Loan} (settled : Settled loans (lines connector))
    (active : (connector.transactions.getD n {}).isActive = true) :
    n < connector.transactions.length ∧ ∃ c, (connector.transactions.getD n {}).connection = some c ∧
      (lines connector)[n]? = some (some c, true) := by
  rw [List.getD_eq_getElem?_getD] at active ⊢
  cases found : connector.transactions[n]? with
  | none =>
    rw [found] at active
    cases active
  | some t =>
    rw [found] at active
    have active : t.isActive = true := active
    obtain ⟨line, holds⟩ := settled.line found
    obtain ⟨c, connection⟩ := Option.isSome_iff_exists.1 (holds.symm.trans active)
    rw [connection, active] at line
    exact ⟨(List.getElem?_eq_some_iff.1 found).1, c, connection, line⟩

theorem Settled.set_over {loans : List Loan} (settled : Settled loans (lines connector)) (past : Over n connector) :
    (lines connector).set n (none, false) = lines connector := by
  cases found : connector.transactions[n]? with
  | none => exact List.set_eq_of_length_le (by simpa [lines] using found)
  | some t =>
    obtain ⟨line, holds⟩ := settled.line found
    rw [Over, List.getD_eq_getElem?_getD, found] at past
    have past : t.isActive = false := past
    have idle : t.connection = none := Option.not_isSome_iff_eq_none.1 (by rw [← holds, past]; exact Bool.false_ne_true)
    obtain ⟨inside, here⟩ := List.getElem?_eq_some_iff.1 line
    rw [← idle, ← past, ← here]
    exact List.set_getElem_self inside

theorem ending_settled {loans : List Loan} (settled : Settled loans (lines connector)) (n : Nat) (ending : Ending) :
    ∃ outcome after asked, meets driver (ending.task n) connector log = ((outcome, after), log ++ asked) ∧
      Settled (loansAfter loans asked) (lines after) ∧ lines after = (lines connector).set n (none, false) ∧
        ∀ exchange ∈ asked, ¬ creates exchange := by
  cases active : (connector.transactions.getD n {}).isActive with
  | false =>
    refine ⟨_, connector, [], by rw [ending.meets_task_over active, List.append_nil], settled, ?_, nofun⟩
    exact (settled.set_over active).symm
  | true =>
    obtain ⟨inside, c, holds, line⟩ := settled.held_of_active active
    have ended : ∃ answer closing, meets driver (ending.task n) connector log =
        ((raising "" ending.label answer,
            alter n (fun t => { t with connection := none, begun := false, finished := true }) connector),
          log ++ [ending.exchange c answer, ⟨.close c, closing⟩]) := by
      cases ending with
      | commit => exact ⟨_, meets_finish inside holds active meets_commit⟩
      | rollback => exact ⟨_, meets_finish inside holds active meets_rollback⟩
    obtain ⟨answer, closing, came⟩ := ended
    have left : lines (alter n (fun t => { t with connection := none, begun := false, finished := true }) connector) =
        (lines connector).set n (none, false) := by
      refine lines_alter n (fun t => ?_) connector
      rfl
    refine ⟨_, _, _, came, ?_, left, ?_⟩
    · rw [left]
      have ends := settled.ends line
      cases ending <;> exact ends
    · rintro exchange member ⟨name, options, create⟩
      cases ending <;> simp [Ending.exchange] at member <;> obtain rfl | rfl := member <;> cases create

theorem meets_dispose : ∃ outcome after asked, meets driver dispose connector log = ((outcome, after), log ++ asked) ∧
    after.transactions = connector.transactions ∧
      (asked = [] ∨ ∃ answer : Outcome Unit, asked = [⟨.disposeEngine, answer⟩]) := by
  unfold dispose
  rw [meets_ok meets_look]
  cases engine : connector.engine with
  | none => exact ⟨.ok (), connector, [], by rw [List.append_nil]; rfl, rfl, .inl rfl⟩
  | some style =>
    have asks : meets driver disposeEngine connector log =
      ((driver log .disposeEngine, connector), log ++ [⟨.disposeEngine, driver log .disposeEngine⟩]) := rfl
    rw [if_pos (show (some style).isSome = true from rfl)]
    cases answered : driver log .disposeEngine with
    | ok _ => exact ⟨_, { connector with engine := none }, _, meets_ok (answered ▸ asks) _, rfl, .inr ⟨_, rfl⟩⟩
    | error failure => exact ⟨_, connector, _, meets_error (answered ▸ asks) _, rfl, .inr ⟨_, rfl⟩⟩

/-- Whatever is asked of a connector, connections are out afterwards only for the transactions that were not ended. -/
theorem answered (driver : Driver) (log : List Asked) {loans : List Loan} (settled : Settled loans (lines connector))
    (call : StoreCall) (opens : ∀ url options, call = .open url options → lines connector = []) :
    ∃ outcome after asked, against driver (answer call) connector log = ((outcome, after), log ++ asked) ∧
      Answered call outcome loans (lines connector) (lines after) asked := by
  cases call with
  | «open» url options =>
    obtain ⟨outcome, after, made, came, makes, none, _⟩ :=
      @meets_createEngine driver { toolkit := connector.toolkit, url, options := .map options } log
    have empty : lines after = [] := by rw [lines, none]; rfl
    refine ⟨outcome, after, made, ?_, ?_, empty, absurd trivial⟩
    · exact (meets_ok (meets_change fun c => { toolkit := c.toolkit, url, options := .map options }) fun _ => createEngine).trans came
    · rw [empty]
      exact (opens url options rfl ▸ settled).of_still makes.still
  | execute channel sql params operation =>
    have steady : Steady (match channel with
      | .pool => execute sql (.list params) operation
      | .transaction n => executeIn n sql (.list params) operation) := by
      cases channel with
      | pool => exact steady_execute sql (.list params) operation
      | transaction n => exact steady_executeIn n sql (.list params) operation
    obtain ⟨outcome, after, asked, came, still, same⟩ := steady driver connector log
    refine ⟨outcome, after, asked, ?_, by rw [same]; exact settled.of_still still, same, absurd trivial⟩
    cases channel <;> exact came
  | begin =>
    obtain ⟨outcome, after, held, asked, came, starts, grown⟩ := @meets_beginTransaction driver connector log
    refine ⟨outcome, after, asked, came, by rw [grown]; exact settled.begins starts, ?_, absurd trivial⟩
    rw [grown]
    cases starts with
    | begun => exact ⟨(List.length_map _).symm, _, rfl⟩
    | _ => rfl
  | commit n =>
    obtain ⟨outcome, after, asked, came, still, ended, made⟩ := @ending_settled driver connector log loans settled n .commit
    exact ⟨outcome, after, asked, came, still, ended, fun _ => made⟩
  | rollback n =>
    obtain ⟨outcome, after, asked, came, still, ended, made⟩ := @ending_settled driver connector log loans settled n .rollback
    exact ⟨outcome, after, asked, came, still, ended, fun _ => made⟩
  | dispose =>
    obtain ⟨outcome, after, asked, came, same, only⟩ := @meets_dispose driver connector log
    have kept : lines after = lines connector := by rw [lines, same, lines]
    refine ⟨outcome, after, asked, came, ?_, kept, fun _ => ?_⟩
    · have still : Still asked := by
        obtain rfl | ⟨answer, rfl⟩ := only <;> exact fun _ => rfl
      rw [kept]
      exact settled.of_still still
    · rintro exchange member ⟨name, options, create⟩
      obtain rfl | ⟨answer, rfl⟩ := only
      · cases member
      · rw [List.mem_singleton.1 member] at create
        cases create

end RecordStore.Connector
