import Mathlib.Data.List.FinRange
import RecordStore.Store.Task

/-!
# Tasks run one after the other

What a task comes to when the answer to each of its calls may be anything, and may depend on all calls and answers that
came before it. Tasks that may fail are taken apart step by step.
-/

namespace RecordStore.Task

variable {σ κ : Type} {α : κ → Type} {β γ ε : Type}

section Run

variable {m : Type → Type} [Monad m] [LawfulMonad m]

theorem run_bind (world : World m κ α) (task : Task σ κ α β) (f : β → Task σ κ α γ) :
    run world (task.bind f) = run world task >>= fun b => run world (f b) := by
  induction task with
  | done result => rw [bind, run, pure_bind]
  | look next ih => simp only [bind, run, bind_assoc, ih]
  | change s next ih => simp only [bind, run, bind_assoc, ih]
  | note entry next ih => simp only [bind, run, bind_assoc, ih]
  | call c next ih => simp only [bind, run, bind_assoc, ih]
  | wait ready next ih => simp only [bind, run, ih]
  | settle n tasks next _ ih => simp only [bind, run, bind_assoc, ih]
  | join n tasks next _ ih => simp only [bind, run, bind_assoc, ih]

end Run

structure Exchange (κ : Type) (α : κ → Type) where
  call : κ
  answer : α call

/-- What each call is answered, after all that was asked and answered before. -/
abbrev Oracle (κ : Type) (α : κ → Type) := List (Exchange κ α) → (c : κ) → α c

def asking (oracle : Oracle κ α) : World (StateM (List (Exchange κ α))) κ α where
  answer c := modifyGet fun log => (oracle log c, log ++ [⟨c, oracle log c⟩])
  write _ := pure ()

/-- What a task comes to by itself, with the state and all exchanges after it. -/
def against (oracle : Oracle κ α) (task : Task σ κ α β) (s : σ) (log : List (Exchange κ α)) :
    (β × σ) × List (Exchange κ α) :=
  ((task.run (asking oracle)).run s).run log

/-- What a task that may fail comes to by itself. -/
def meets (oracle : Oracle κ α) (operation : ExceptT ε (Task σ κ α) β) (s : σ) (log : List (Exchange κ α)) :
    (Except ε β × σ) × List (Exchange κ α) :=
  against oracle operation.run s log

variable {oracle : Oracle κ α} {s after : σ} {log later : List (Exchange κ α)}

theorem against_bind (task : Task σ κ α β) (f : β → Task σ κ α γ) :
    against oracle (task.bind f) s log =
      against oracle (f (against oracle task s log).1.1) (against oracle task s log).1.2 (against oracle task s log).2 := by
  unfold against
  rw [run_bind, StateT.run_bind, StateT.run_bind]
  rfl

/-! ### Groups -/

def allAgainst (oracle : Oracle κ α) : List (Task σ κ α γ) → σ → List (Exchange κ α) → (List γ × σ) × List (Exchange κ α)
  | [], s, log => (([], s), log)
  | task :: rest, s, log =>
    let first := against oracle task s log
    let more := allAgainst oracle rest first.1.2 first.2
    ((first.1.1 :: more.1.1, more.1.2), more.2)

theorem run_parts {n : Nat} (tasks : Fin n → Task σ κ α γ) (parts : List (Fin n)) :
    ((parts.mapM fun i => (tasks i).run (asking oracle)).run s).run log = allAgainst oracle (parts.map tasks) s log := by
  induction parts generalizing s log with
  | nil => rfl
  | cons i rest ih =>
    rw [List.mapM_cons, List.map_cons, allAgainst, ← ih]
    rfl

theorem against_settle (n : Nat) (tasks : Fin n → Task σ κ α γ) (next : List γ → Task σ κ α β) :
    against oracle (settle n tasks next) s log =
      let all := allAgainst oracle ((List.finRange n).map tasks) s log
      against oracle (next all.1.1) all.1.2 all.2 := by
  rw [← run_parts]
  rfl

theorem against_join (n : Nat) (tasks : Fin n → Task σ κ α (Except ε γ)) (next : Except ε (List γ) → Task σ κ α β) :
    against oracle (join n tasks next) s log =
      let all := allAgainst oracle ((List.finRange n).map tasks) s log
      against oracle (next (all.1.1.mapM id)) all.1.2 all.2 := by
  rw [← run_parts]
  rfl

theorem against_settled (tasks : List (Task σ κ α γ)) :
    against oracle (settled tasks) s log = allAgainst oracle tasks s log := by
  have same : (List.finRange tasks.length).map tasks.get = tasks := List.map_get_finRange tasks
  rw [settled, against_settle, same]
  rfl

theorem against_joined (tasks : List (Task σ κ α (Except ε γ))) :
    against oracle (joined tasks) s log =
      (((allAgainst oracle tasks s log).1.1.mapM id, (allAgainst oracle tasks s log).1.2),
        (allAgainst oracle tasks s log).2) := by
  have same : (List.finRange tasks.length).map tasks.get = tasks := List.map_get_finRange tasks
  rw [joined, against_join, same]
  rfl

/-! ### Operations one after another -/

theorem grows_all {tasks : List (Task σ κ α γ)}
    (each : ∀ task ∈ tasks, ∀ s log, ∃ asked, (against oracle task s log).2 = log ++ asked) :
    ∃ asked, (allAgainst oracle tasks s log).2 = log ++ asked := by
  induction tasks generalizing s log with
  | nil => exact ⟨[], (List.append_nil log).symm⟩
  | cons task rest ih =>
    obtain ⟨first, grown⟩ := each task List.mem_cons_self s log
    obtain ⟨more, later⟩ := @ih (against oracle task s log).1.2 (log ++ first)
      fun other member => each other (List.mem_cons_of_mem _ member)
    refine ⟨first ++ more, ?_⟩
    rw [allAgainst]
    dsimp only
    rw [grown, later, List.append_assoc]

theorem grows (task : Task σ κ α β) : ∀ s log, ∃ asked, (against oracle task s log).2 = log ++ asked := by
  induction task with
  | done => exact fun s log => ⟨[], (List.append_nil log).symm⟩
  | look _ ih => exact fun s log => ih s s log
  | change t _ ih => exact fun s log => ih t log
  | note _ _ ih => exact fun s log => ih s log
  | wait _ _ ih => exact fun s log => ih s log
  | call c next ih =>
    intro s log
    obtain ⟨asked, grown⟩ := ih (oracle log c) s (log ++ [⟨c, oracle log c⟩])
    exact ⟨_, grown.trans (List.append_assoc ..)⟩
  | settle n tasks next each rest =>
    intro s log
    obtain ⟨first, grown⟩ := @grows_all _ _ _ _ oracle s log ((List.finRange n).map tasks) fun task member => by
      obtain ⟨i, _, rfl⟩ := List.mem_map.1 member
      exact each i
    obtain ⟨more, later⟩ := rest (allAgainst oracle ((List.finRange n).map tasks) s log).1.1
      (allAgainst oracle ((List.finRange n).map tasks) s log).1.2 (log ++ first)
    refine ⟨first ++ more, ?_⟩
    rw [against_settle]
    dsimp only
    rw [grown, later, List.append_assoc]
  | join n tasks next each rest =>
    intro s log
    obtain ⟨first, grown⟩ := @grows_all _ _ _ _ oracle s log ((List.finRange n).map tasks) fun task member => by
      obtain ⟨i, _, rfl⟩ := List.mem_map.1 member
      exact each i
    obtain ⟨more, later⟩ := rest ((allAgainst oracle ((List.finRange n).map tasks) s log).1.1.mapM id)
      (allAgainst oracle ((List.finRange n).map tasks) s log).1.2 (log ++ first)
    refine ⟨first ++ more, ?_⟩
    rw [against_join]
    dsimp only
    rw [grown, later, List.append_assoc]

/-- An operation that was made in a state, what it came to, and what was asked for it. -/
structure Step (ι σ κ : Type) (α : κ → Type) (β : Type) where
  made : ι
  before : σ
  result : β
  asked : List (Exchange κ α)

variable {ι : Type} {operations : ι → Task σ κ α β}

def stepsOf (oracle : Oracle κ α) (operations : ι → Task σ κ α β) : List ι → σ → List (Exchange κ α) → List (Step ι σ κ α β)
  | [], _, _ => []
  | first :: rest, s, log =>
    let came := against oracle (operations first) s log
    ⟨first, s, came.1.1, came.2.drop log.length⟩ :: stepsOf oracle operations rest came.1.2 came.2

def afterAll (oracle : Oracle κ α) (operations : ι → Task σ κ α β) (made : List ι) (s : σ) (log : List (Exchange κ α)) :
    σ × List (Exchange κ α) :=
  made.foldl (fun now i => let came := against oracle (operations i) now.1 now.2; (came.1.2, came.2)) (s, log)

def askedIn (steps : List (Step ι σ κ α β)) : List (Exchange κ α) := steps.flatMap Step.asked

theorem made_stepsOf (made : List ι) : (stepsOf oracle operations made s log).map Step.made = made := by
  induction made generalizing s log with
  | nil => rfl
  | cons first rest ih => exact congrArg (first :: ·) ih

/-- What each operation keeps, all of them keep. It may speak of all steps so far and of the state after them. -/
theorem stepsOf_induction {P : List (Step ι σ κ α β) → σ → Prop}
    (each : ∀ {steps now i result after asked}, P steps now →
      against oracle (operations i) now (log ++ askedIn steps) = ((result, after), log ++ askedIn steps ++ asked) →
      P (steps ++ [⟨i, now, result, asked⟩]) after) (made : List ι) {steps : List (Step ι σ κ α β)} (before : P steps s) :
    P (steps ++ stepsOf oracle operations made s (log ++ askedIn steps))
      (afterAll oracle operations made s (log ++ askedIn steps)).1 := by
  induction made generalizing s steps with
  | nil => exact (List.append_nil steps).symm ▸ before
  | cons first rest ih =>
    obtain ⟨asked, grown⟩ := @grows _ _ _ _ oracle (operations first) s (log ++ askedIn steps)
    have came : against oracle (operations first) s (log ++ askedIn steps) =
      ((against oracle (operations first) s (log ++ askedIn steps)).1, log ++ askedIn steps ++ asked) := Prod.ext rfl grown
    generalize (against oracle (operations first) s (log ++ askedIn steps)).1 = whole at came
    obtain ⟨result, after⟩ := whole
    have later := ih (each before came)
    have logged : log ++ askedIn (steps ++ [⟨first, s, result, asked⟩]) = log ++ askedIn steps ++ asked := by
      simp [askedIn, List.append_assoc]
    rw [logged, List.append_assoc] at later
    rw [stepsOf, afterAll, List.foldl_cons, came]
    dsimp only
    rw [List.drop_left]
    exact later

theorem split_last {ι : Type} {items before after : List ι} {item last : ι}
    (same : items ++ [last] = before ++ item :: after) :
    (items = before ∧ last = item ∧ after = []) ∨ ∃ rest, after = rest ++ [last] ∧ items = before ++ item :: rest := by
  obtain rfl | ⟨rest, other, rfl⟩ := List.eq_nil_or_concat after
  · obtain ⟨first, only⟩ := List.append_inj' same rfl
    exact .inl ⟨first, List.singleton_inj.1 only, rfl⟩
  · have split : items ++ [last] = (before ++ item :: rest) ++ [other] := by simpa using same
    obtain ⟨first, only⟩ := List.append_inj' split rfl
    exact .inr ⟨rest, by rw [List.concat_eq_append, only], first⟩

/-! ### Tasks that may fail -/

variable {operation : ExceptT ε (Task σ κ α) β} {b : β} {e : ε}

theorem bind_run (operation : ExceptT ε (Task σ κ α) β) (f : β → ExceptT ε (Task σ κ α) γ) :
    (operation >>= f).run = Task.bind operation.run fun
      | .ok b => (f b).run
      | .error e => done (.error e) := by
  refine congrArg (Task.bind operation.run) ?_
  funext result
  cases result <;> rfl

theorem tryCatch_run (operation : ExceptT ε (Task σ κ α) β) (handle : ε → ExceptT ε (Task σ κ α) β) :
    (tryCatch operation handle : ExceptT ε (Task σ κ α) β).run = Task.bind operation.run fun
      | .ok b => done (.ok b)
      | .error e => (handle e).run := by
  refine congrArg (Task.bind operation.run) ?_
  funext result
  cases result <;> rfl

theorem meets_ok (came : meets oracle operation s log = ((.ok b, after), later)) (f : β → ExceptT ε (Task σ κ α) γ) :
    meets oracle (operation >>= f) s log = meets oracle (f b) after later := by
  unfold meets at came ⊢
  rw [bind_run, against_bind, came]

theorem meets_error (came : meets oracle operation s log = ((.error e, after), later))
    (f : β → ExceptT ε (Task σ κ α) γ) : meets oracle (operation >>= f) s log = ((.error e, after), later) := by
  unfold meets at came ⊢
  rw [bind_run, against_bind, came]
  rfl

theorem meets_tryCatch_ok (came : meets oracle operation s log = ((.ok b, after), later))
    (handle : ε → ExceptT ε (Task σ κ α) β) : meets oracle (tryCatch operation handle) s log = ((.ok b, after), later) := by
  unfold meets at came ⊢
  rw [tryCatch_run, against_bind, came]
  rfl

theorem meets_tryCatch_error (came : meets oracle operation s log = ((.error e, after), later))
    (handle : ε → ExceptT ε (Task σ κ α) β) :
    meets oracle (tryCatch operation handle) s log = meets oracle (handle e) after later := by
  unfold meets at came ⊢
  rw [tryCatch_run, against_bind, came]

end RecordStore.Task
