import RecordStore.Store.Task

/-!
Tasks that were started, each at its place: a call that was made waits for its answer, a group of tasks for its results.
-/

namespace RecordStore.Task

variable {σ κ : Type} {α : κ → Type} {γ ε : Type}

/-- Where a task stands: its number in its group, after the place of the task that started the group. -/
abbrev Place := List Nat

/-- A task that was started. The tasks of a group stay there when the one that started them has gone on. -/
inductive Running (σ κ : Type) (α : κ → Type) : Type → Type 1 where
  | ready {β : Type} (task : Task σ κ α β) : Running σ κ α β
  | called {β : Type} (c : κ) (next : α c → Task σ κ α β) : Running σ κ α β
  | waiting {β : Type} (free : σ → Bool) (next : Task σ κ α β) : Running σ κ α β
  | settling {β γ : Type} (n : Nat) (parts : Fin n → Running σ κ α γ) (next : List γ → Task σ κ α β) :
    Running σ κ α β
  | joining {β γ ε : Type} (n : Nat) (parts : Fin n → Running σ κ α (Except ε γ)) (first : Option ε)
    (next : Except ε (List γ) → Task σ κ α β) : Running σ κ α β
  | beside {β γ : Type} (n : Nat) (parts : Fin n → Running σ κ α γ) (rest : Running σ κ α β) : Running σ κ α β
  | ended {β : Type} (result : β) : Running σ κ α β

namespace Running

def result? : {β : Type} → Running σ κ α β → Option β
  | _, ended result => some result
  | _, beside _ _ rest => rest.result?
  | _, _ => none

/-- The results of a group whose tasks have all ended. -/
def results? {n : Nat} (parts : Fin n → Running σ κ α γ) : Option (List γ) :=
  if all : ∀ i, (parts i).result?.isSome then some (List.ofFn fun i => (parts i).result?.get (all i)) else none

def failed? : Except ε γ → Option ε
  | .error e => some e
  | .ok _ => none

def failure? (part : Running σ κ α (Except ε γ)) : Option ε := part.result?.bind failed?

end Running
end RecordStore.Task
