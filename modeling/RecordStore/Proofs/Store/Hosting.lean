import RecordStore.Proofs.Store.Exchange

/-!
# Tasks of a host, run one after the other

What a task comes to within a host, it comes to by itself against the answers that its host gives. So what is known of a
task whatever it is answered is known of it within every host.
-/

namespace RecordStore.Task

variable {σ κ τ ι : Type} {α : κ → Type} {ρ : ι → Type} {β γ ε : Type}

/-- Where a host is when its task is in a state and has made so many exchanges, and what the host itself has asked until
then. The answers of the host are those that are told of it. -/
structure Host.Gives (host : Host σ κ α τ ι ρ) (driver : Oracle ι ρ) (told : Oracle κ α)
    (place : σ → List (Exchange κ α) → τ × List (Exchange ι ρ)) : Prop where
  view : ∀ s log, host.view (place s log).1 = s
  update : ∀ s t log, (host.update t (place s log).1, (place s log).2) = place t log
  write : ∀ s log entry, host.write entry (place s log).1 = (place s log).1
  answer : ∀ s log c, against driver (host.answer c) (place s log).1 (place s log).2 =
    ((told log c, (place s (log ++ [⟨c, told log c⟩])).1), (place s (log ++ [⟨c, told log c⟩])).2)

variable {host : Host σ κ α τ ι ρ} {driver : Oracle ι ρ} {told : Oracle κ α}
  {place : σ → List (Exchange κ α) → τ × List (Exchange ι ρ)}

def Host.Agrees (host : Host σ κ α τ ι ρ) (driver : Oracle ι ρ) (told : Oracle κ α)
    (place : σ → List (Exchange κ α) → τ × List (Exchange ι ρ)) (task : Task σ κ α β) : Prop :=
  ∀ s log, against driver (task.within host) (place s log).1 (place s log).2 =
    let came := against told task s log
    ((came.1.1, (place came.1.2 came.2).1), (place came.1.2 came.2).2)

theorem agrees_all {tasks : List (Task σ κ α γ)} (each : ∀ task ∈ tasks, host.Agrees driver told place task) (s : σ)
    (log : List (Exchange κ α)) :
    allAgainst driver (tasks.map (within host)) (place s log).1 (place s log).2 =
      let came := allAgainst told tasks s log
      ((came.1.1, (place came.1.2 came.2).1), (place came.1.2 came.2).2) := by
  induction tasks generalizing s log with
  | nil => rfl
  | cons task rest ih =>
    rw [List.map_cons, allAgainst, each task List.mem_cons_self]
    dsimp only
    rw [ih fun other member => each other (List.mem_cons_of_mem _ member)]
    rfl

theorem agrees_parts {n : Nat} {tasks : Fin n → Task σ κ α γ} (each : ∀ i, host.Agrees driver told place (tasks i)) (s : σ)
    (log : List (Exchange κ α)) :
    allAgainst driver ((List.finRange n).map fun i => (tasks i).within host) (place s log).1 (place s log).2 =
      let came := allAgainst told ((List.finRange n).map tasks) s log
      ((came.1.1, (place came.1.2 came.2).1), (place came.1.2 came.2).2) := by
  have same : ((List.finRange n).map fun i => (tasks i).within host) = ((List.finRange n).map tasks).map (within host) :=
    (List.map_map ..).symm
  rw [same]
  refine agrees_all (fun task member => ?_) s log
  obtain ⟨i, _, rfl⟩ := List.mem_map.1 member
  exact each i

theorem agrees_within (gives : host.Gives driver told place) (task : Task σ κ α β) :
    host.Agrees driver told place task := by
  induction task with
  | done => exact fun _ _ => rfl
  | look next ih =>
    intro s log
    change against driver ((next (host.view (place s log).1)).within host) _ _ = _
    rw [gives.view]
    exact ih s s log
  | change t next ih =>
    intro s log
    obtain ⟨moved, kept⟩ := Prod.mk.inj (gives.update s t log)
    change against driver (next.within host) (host.update t (place s log).1) _ = _
    rw [moved, kept]
    exact ih t log
  | note entry next ih =>
    intro s log
    change against driver (next.within host) (host.write entry (place s log).1) _ = _
    rw [gives.write]
    exact ih s log
  | wait free next ih => exact ih
  | call c next ih =>
    intro s log
    rw [within, against_bind, gives.answer]
    exact ih (told log c) s _
  | settle n tasks next each ih =>
    intro s log
    rw [within, against_settle, against_settle, agrees_parts each]
    exact ih _ _ _
  | join n tasks next each ih =>
    intro s log
    rw [within, against_join, against_join, agrees_parts each]
    exact ih _ _ _

end RecordStore.Task
