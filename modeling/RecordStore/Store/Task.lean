import RecordStore.Log.Entry

/-!
Programs that wait. A task looks at and changes a state that it shares with other tasks, writes to the
log, calls the outside and goes on with the answer. Between two calls it is not interrupted; it can be
while it waits for an answer, for the state to let it go on, or for tasks that it started together.
-/

namespace RecordStore

/-- A task over states `σ` that makes calls `κ`, whose answers are of the types `α`. -/
inductive Task (σ κ : Type) (α : κ → Type) : Type → Type 1 where
  | done {β : Type} (result : β) : Task σ κ α β
  | look {β : Type} (next : σ → Task σ κ α β) : Task σ κ α β
  | change {β : Type} (s : σ) (next : Task σ κ α β) : Task σ κ α β
  | note {β : Type} (entry : Log.Entry) (next : Task σ κ α β) : Task σ κ α β
  | call {β : Type} (c : κ) (next : α c → Task σ κ α β) : Task σ κ α β
  | wait {β : Type} (ready : σ → Bool) (next : Task σ κ α β) : Task σ κ α β
  /-- Starts tasks together and goes on when all of them have ended. -/
  | settle {β γ : Type} (n : Nat) (tasks : Fin n → Task σ κ α γ) (next : List γ → Task σ κ α β) :
    Task σ κ α β
  /-- Starts tasks together and goes on when all of them have ended well, or as soon as one has failed;
  then the others go on by themselves. -/
  | join {β γ ε : Type} (n : Nat) (tasks : Fin n → Task σ κ α (Except ε γ))
    (next : Except ε (List γ) → Task σ κ α β) : Task σ κ α β

namespace Task

variable {σ κ : Type} {α : κ → Type} {β γ ε : Type}

def bind : Task σ κ α β → (β → Task σ κ α γ) → Task σ κ α γ
  | done result, f => f result
  | look next, f => look fun s => (next s).bind f
  | change s next, f => change s (next.bind f)
  | note entry next, f => note entry (next.bind f)
  | call c next, f => call c fun answer => (next answer).bind f
  | wait ready next, f => wait ready (next.bind f)
  | settle n tasks next, f => settle n tasks fun results => (next results).bind f
  | join n tasks next, f => join n tasks fun results => (next results).bind f

instance : Monad (Task σ κ α) where
  pure := done
  bind := bind

def get : Task σ κ α σ := look done

def modify (f : σ → σ) : Task σ κ α Unit := look fun s => change (f s) (done ())

def log (level : Log.Level) (logger : String) (message : Text) : Task σ κ α Unit :=
  note ⟨level, logger, message⟩ (done ())

def perform (c : κ) : Task σ κ α (α c) := call c done

def waitFor (ready : σ → Bool) : Task σ κ α Unit := wait ready (done ())

def settled (tasks : List (Task σ κ α γ)) : Task σ κ α (List γ) := settle tasks.length tasks.get done

def joined (tasks : List (Task σ κ α (Except ε γ))) : Task σ κ α (Except ε (List γ)) :=
  join tasks.length tasks.get done

/-- Tasks over a larger state, in which a task finds its own state and the answers to its calls. -/
structure Host (σ κ : Type) (α : κ → Type) (τ ι : Type) (ρ : ι → Type) where
  view : τ → σ
  update : σ → τ → τ
  write : Log.Entry → τ → τ
  answer : (c : κ) → Task τ ι ρ (α c)

def within {τ ι : Type} {ρ : ι → Type} (host : Host σ κ α τ ι ρ) : {β : Type} → Task σ κ α β → Task τ ι ρ β
  | _, done result => done result
  | _, look next => look fun t => within host (next (host.view t))
  | _, change s next => look fun t => change (host.update s t) (within host next)
  | _, note entry next => look fun t => change (host.write entry t) (within host next)
  | _, call c next => (host.answer c).bind fun answer => within host (next answer)
  | _, wait ready next => wait (fun t => ready (host.view t)) (within host next)
  | _, settle n tasks next => settle n (fun i => within host (tasks i)) fun results => within host (next results)
  | _, join n tasks next => join n (fun i => within host (tasks i)) fun results => within host (next results)

/-- What a task needs from its surroundings. -/
structure World (m : Type → Type) (κ : Type) (α : κ → Type) where
  answer : (c : κ) → m (α c)
  write : Log.Entry → m Unit

/-- Runs a task in a world where no call lets another task go on. So it never has to wait, and tasks that
are started together run one after the other. -/
def run {m : Type → Type} [Monad m] (world : World m κ α) :
    {β : Type} → Task σ κ α β → StateT σ m β
  | _, done result => pure result
  | _, look next => do run world (next (← StateT.get))
  | _, change s next => do
    StateT.set s
    run world next
  | _, note entry next => do
    StateT.lift (world.write entry)
    run world next
  | _, call c next => do run world (next (← StateT.lift (world.answer c)))
  | _, wait _ next => run world next
  | _, settle n tasks next => do
    run world (next (← (List.finRange n).mapM fun i => run world (tasks i)))
  | _, join n tasks next => do
    let results ← (List.finRange n).mapM fun i => run world (tasks i)
    run world (next (results.mapM id))

end Task
end RecordStore
