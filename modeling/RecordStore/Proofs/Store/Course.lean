import RecordStore.Proofs.Store.Exchange

/-!
# Every course of a task

How a task can go when each of its calls may be answered anything and others may change the state between any two of its
steps. What a task comes to by itself is one of its courses. A task of a host makes the calls of its host, and what it asks
of it is what some course of the task asks.
-/

namespace RecordStore.Task

variable {σ κ : Type} {α : κ → Type} {β γ ε : Type}

/-- Whether a task can go so that it makes these exchanges and comes to this result. Where it looks at the state, it may
find any. The tasks that it starts itself go one after the other. -/
def Goes : {β : Type} → Task σ κ α β → List (Exchange κ α) → β → Prop
  | _, done own, asked, result => asked = [] ∧ result = own
  | _, look next, asked, result => ∃ s, (next s).Goes asked result
  | _, change _ next, asked, result => next.Goes asked result
  | _, note _ next, asked, result => next.Goes asked result
  | _, call c next, asked, result => ∃ answer more, asked = ⟨c, answer⟩ :: more ∧ (next answer).Goes more result
  | _, wait _ next, asked, result => next.Goes asked result
  | _, settle n tasks next, asked, result => ∃ (parts : Fin n → List (Exchange κ α)) (results : Fin n → _) (more : _),
    asked = (List.ofFn parts).flatten ++ more ∧ (∀ i, (tasks i).Goes (parts i) (results i)) ∧
      (next (List.ofFn results)).Goes more result
  | _, join n tasks next, asked, result => ∃ (parts : Fin n → List (Exchange κ α)) (results : Fin n → _) (more : _),
    asked = (List.ofFn parts).flatten ++ more ∧ (∀ i, (tasks i).Goes (parts i) (results i)) ∧
      (next ((List.ofFn results).mapM id)).Goes more result

variable {oracle : Oracle κ α} {s : σ} {log asked : List (Exchange κ α)} {result : β}

theorem goes_done {own : β} : (done own : Task σ κ α β).Goes [] own := ⟨rfl, rfl⟩

theorem goes_perform {c : κ} {answer : α c} (goes : (perform c : Task σ κ α (α c)).Goes asked answer) :
    asked = [⟨c, answer⟩] := by
  obtain ⟨_, _, rfl, rfl, rfl⟩ := goes
  rfl

theorem goes_bind {task : Task σ κ α γ} {f : γ → Task σ κ α β} (goes : (task.bind f).Goes asked result) :
    ∃ first own more, asked = first ++ more ∧ task.Goes first own ∧ (f own).Goes more result := by
  induction task generalizing asked with
  | done own => exact ⟨[], own, asked, rfl, goes_done, goes⟩
  | look next ih =>
    obtain ⟨s, goes⟩ := goes
    obtain ⟨first, own, more, same, went, rest⟩ := ih s goes
    exact ⟨first, own, more, same, ⟨s, went⟩, rest⟩
  | change _ next ih => exact ih goes
  | note _ next ih => exact ih goes
  | wait _ next ih => exact ih goes
  | call c next ih =>
    obtain ⟨answer, later, rfl, goes⟩ := goes
    obtain ⟨first, own, more, rfl, went, rest⟩ := ih answer goes
    exact ⟨⟨c, answer⟩ :: first, own, more, rfl, ⟨answer, first, rfl, went⟩, rest⟩
  | settle n tasks next _ ih =>
    obtain ⟨parts, results, later, rfl, each, goes⟩ := goes
    obtain ⟨first, own, more, rfl, went, rest⟩ := ih _ goes
    exact ⟨_ ++ first, own, more, (List.append_assoc ..).symm, ⟨parts, results, first, rfl, each, went⟩, rest⟩
  | join n tasks next _ ih =>
    obtain ⟨parts, results, later, rfl, each, goes⟩ := goes
    obtain ⟨first, own, more, rfl, went, rest⟩ := ih _ goes
    exact ⟨_ ++ first, own, more, (List.append_assoc ..).symm, ⟨parts, results, first, rfl, each, went⟩, rest⟩

/-! ### By itself -/

theorem goes_all {n : Nat} {tasks : Fin n → Task σ κ α γ}
    (each : ∀ i s log, ∃ asked, (against oracle (tasks i) s log).2 = log ++ asked ∧
      (tasks i).Goes asked (against oracle (tasks i) s log).1.1) :
    ∃ (parts : Fin n → List (Exchange κ α)) (results : Fin n → γ),
      (allAgainst oracle (List.ofFn tasks) s log).2 = log ++ (List.ofFn parts).flatten ∧
      (allAgainst oracle (List.ofFn tasks) s log).1.1 = List.ofFn results ∧
      ∀ i, (tasks i).Goes (parts i) (results i) := by
  induction n generalizing s log with
  | zero => exact ⟨nofun, nofun, by simp [allAgainst], by simp [allAgainst], nofun⟩
  | succ n ih =>
    obtain ⟨first, grown, went⟩ := each 0 s log
    obtain ⟨parts, results, later, same, rest⟩ := @ih (against oracle (tasks 0) s log).1.2 (log ++ first)
      (fun i => tasks i.succ) fun i => each i.succ
    refine ⟨Fin.cons first parts, Fin.cons (against oracle (tasks 0) s log).1.1 results, ?_, ?_, ?_⟩
    · rw [List.ofFn_succ, allAgainst]
      dsimp only
      rw [grown, later, List.ofFn_succ, List.flatten_cons, List.append_assoc]
      rfl
    · rw [List.ofFn_succ, allAgainst]
      dsimp only
      rw [grown, same, List.ofFn_succ]
      rfl
    · intro i
      cases i using Fin.cases with
      | zero => exact went
      | succ i => exact rest i

/-- Whatever its calls are answered, a task by itself comes to a result, in one of its courses. -/
theorem goes_against (oracle : Oracle κ α) (task : Task σ κ α β) : ∀ s log, ∃ asked,
    (against oracle task s log).2 = log ++ asked ∧ task.Goes asked (against oracle task s log).1.1 := by
  induction task with
  | done own => exact fun s log => ⟨[], (List.append_nil log).symm, goes_done⟩
  | look next ih =>
    intro s log
    obtain ⟨asked, grown, went⟩ := ih s s log
    exact ⟨asked, grown, s, went⟩
  | change t _ ih => exact fun s log => ih t log
  | note _ _ ih => exact fun s log => ih s log
  | wait _ _ ih => exact fun s log => ih s log
  | call c next ih =>
    intro s log
    obtain ⟨asked, grown, went⟩ := ih (oracle log c) s (log ++ [⟨c, oracle log c⟩])
    exact ⟨_, grown.trans (List.append_assoc ..), oracle log c, asked, rfl, went⟩
  | settle n tasks next each ih =>
    intro s log
    obtain ⟨parts, results, grown, same, all⟩ := @goes_all _ _ _ _ oracle s log n tasks each
    rw [against_settle, ← List.ofFn_eq_map]
    dsimp only
    rw [grown, same]
    obtain ⟨more, later, went⟩ := ih (List.ofFn results) (allAgainst oracle (List.ofFn tasks) s log).1.2
      (log ++ (List.ofFn parts).flatten)
    exact ⟨_, later.trans (List.append_assoc ..), parts, results, more, rfl, all, went⟩
  | join n tasks next each ih =>
    intro s log
    obtain ⟨parts, results, grown, same, all⟩ := @goes_all _ _ _ _ oracle s log n tasks each
    rw [against_join, ← List.ofFn_eq_map]
    dsimp only
    rw [grown, same]
    obtain ⟨more, later, went⟩ := ih ((List.ofFn results).mapM id) (allAgainst oracle (List.ofFn tasks) s log).1.2
      (log ++ (List.ofFn parts).flatten)
    exact ⟨_, later.trans (List.append_assoc ..), parts, results, more, rfl, all, went⟩

/-! ### Tasks that may fail -/

variable {outcome : Except ε β}

/-- What is bound goes as the operation does, and after it as what comes then. -/
theorem goes_bind_run {operation : ExceptT ε (Task σ κ α) γ} {f : γ → ExceptT ε (Task σ κ α) β}
    (goes : (operation >>= f).run.Goes asked outcome) : ∃ first own more, asked = first ++ more ∧
      operation.run.Goes first own ∧ match own with
        | .ok c => (f c).run.Goes more outcome
        | .error e => more = [] ∧ outcome = .error e := by
  rw [bind_run] at goes
  obtain ⟨first, own, more, same, went, rest⟩ := goes_bind goes
  refine ⟨first, own, more, same, went, ?_⟩
  cases own <;> exact rest

theorem goes_tryCatch {operation : ExceptT ε (Task σ κ α) β} {handle : ε → ExceptT ε (Task σ κ α) β}
    (goes : (tryCatch operation handle : ExceptT ε (Task σ κ α) β).run.Goes asked outcome) :
    ∃ first own more, asked = first ++ more ∧ operation.run.Goes first own ∧ match own with
      | .ok b => more = [] ∧ outcome = .ok b
      | .error e => (handle e).run.Goes more outcome := by
  rw [tryCatch_run] at goes
  obtain ⟨first, own, more, same, went, rest⟩ := goes_bind goes
  refine ⟨first, own, more, same, went, ?_⟩
  cases own <;> exact rest

/-- An operation that makes no calls. -/
def Silent (operation : ExceptT ε (Task σ κ α) β) : Prop := ∀ asked outcome, operation.run.Goes asked outcome → asked = []

theorem silent_outcome (outcome : Except ε β) : Silent (ExceptT.mk (done outcome) : ExceptT ε (Task σ κ α) β) :=
  fun _ _ goes => And.left goes

theorem silent_pure (b : β) : Silent (pure b : ExceptT ε (Task σ κ α) β) := silent_outcome (.ok b)

theorem silent_throw (e : ε) : Silent (throw e : ExceptT ε (Task σ κ α) β) := silent_outcome (.error e)

theorem silent_get : Silent (ExceptT.lift Task.get : ExceptT ε (Task σ κ α) σ) := fun _ _ ⟨_, goes⟩ => And.left goes

theorem silent_modify (f : σ → σ) : Silent (ExceptT.lift (Task.modify f) : ExceptT ε (Task σ κ α) Unit) :=
  fun _ _ ⟨_, goes⟩ => And.left goes

theorem silent_log (level : Log.Level) (logger : String) (message : Text) :
    Silent (ExceptT.lift (Task.log level logger message) : ExceptT ε (Task σ κ α) Unit) := fun _ _ goes => And.left goes

theorem silent_waitFor (ready : σ → Bool) : Silent (ExceptT.lift (Task.waitFor ready) : ExceptT ε (Task σ κ α) Unit) :=
  fun _ _ goes => And.left goes

theorem Silent.bind {operation : ExceptT ε (Task σ κ α) γ} {f : γ → ExceptT ε (Task σ κ α) β} (first : Silent operation)
    (rest : ∀ c, Silent (f c)) : Silent (operation >>= f) := by
  intro asked outcome goes
  obtain ⟨before, own, more, rfl, went, goes⟩ := goes_bind_run goes
  rw [first _ _ went, List.nil_append]
  cases own with
  | ok c => exact rest c _ _ goes
  | error e => exact goes.1

/-! ### Hosts -/

variable {τ ι : Type} {ρ : ι → Type} {host : Host σ κ α τ ι ρ}

/-- How a host answers calls that are made of it one after the other. -/
inductive Host.Answers (host : Host σ κ α τ ι ρ) : List (Exchange κ α) → List (Exchange ι ρ) → Prop
  | nil : host.Answers [] []
  | cons {c : κ} {answer : α c} {calls : List (Exchange κ α)} {own more : List (Exchange ι ρ)}
    (goes : (host.answer c).Goes own answer) (rest : host.Answers calls more) :
    host.Answers (⟨c, answer⟩ :: calls) (own ++ more)

theorem Host.Answers.append {first second : List (Exchange κ α)} {own more : List (Exchange ι ρ)}
    (answers : host.Answers first own) (rest : host.Answers second more) : host.Answers (first ++ second) (own ++ more) := by
  induction answers with
  | nil => exact rest
  | cons goes _ ih =>
    rw [List.append_assoc]
    exact .cons goes ih

theorem Host.Answers.flatten {n : Nat} {calls : Fin n → List (Exchange κ α)} {asked : Fin n → List (Exchange ι ρ)}
    (each : ∀ i, host.Answers (calls i) (asked i)) : host.Answers (List.ofFn calls).flatten (List.ofFn asked).flatten := by
  induction n with
  | zero => exact .nil
  | succ n ih =>
    rw [List.ofFn_succ, List.ofFn_succ, List.flatten_cons, List.flatten_cons]
    exact (each 0).append (ih fun i => each i.succ)

/-- Within a host a task goes as it can go by itself, with the calls that the host answers. -/
theorem goes_within {task : Task σ κ α β} {asked : List (Exchange ι ρ)} (goes : (task.within host).Goes asked result) :
    ∃ calls, task.Goes calls result ∧ host.Answers calls asked := by
  induction task generalizing asked with
  | done own =>
    obtain ⟨rfl, rfl⟩ := goes
    exact ⟨[], goes_done, .nil⟩
  | look next ih =>
    obtain ⟨t, goes⟩ := goes
    obtain ⟨calls, went, answers⟩ := ih _ goes
    exact ⟨calls, ⟨host.view t, went⟩, answers⟩
  | change _ next ih =>
    obtain ⟨_, goes⟩ := goes
    exact ih goes
  | note _ next ih =>
    obtain ⟨_, goes⟩ := goes
    exact ih goes
  | wait _ next ih => exact ih goes
  | call c next ih =>
    -- First the host answers the call, with calls of its own.
    obtain ⟨own, answer, more, rfl, answered, goes⟩ := goes_bind goes
    obtain ⟨calls, went, answers⟩ := ih answer goes
    exact ⟨⟨c, answer⟩ :: calls, ⟨answer, calls, rfl, went⟩, .cons answered answers⟩
  | settle n tasks next each ih =>
    obtain ⟨parts, results, more, rfl, all, goes⟩ := goes
    choose calls wents answered using fun i => each i (all i)
    obtain ⟨later, went, answers⟩ := ih _ goes
    exact ⟨_, ⟨calls, results, later, rfl, wents, went⟩, (Host.Answers.flatten answered).append answers⟩
  | join n tasks next each ih =>
    obtain ⟨parts, results, more, rfl, all, goes⟩ := goes
    choose calls wents answered using fun i => each i (all i)
    obtain ⟨later, went, answers⟩ := ih _ goes
    exact ⟨_, ⟨calls, results, later, rfl, wents, went⟩, (Host.Answers.flatten answered).append answers⟩

/-- A host that makes the calls itself adds none. -/
theorem Host.Answers.same {host : Host σ κ α τ κ α} (performs : ∀ c, host.answer c = perform c)
    {calls asked : List (Exchange κ α)} (answers : host.Answers calls asked) : asked = calls := by
  induction answers with
  | nil => rfl
  | cons goes _ ih =>
    rw [performs] at goes
    rw [goes_perform goes, ih]
    rfl

end RecordStore.Task
