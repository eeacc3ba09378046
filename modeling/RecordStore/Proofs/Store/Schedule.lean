import Mathlib.Data.List.Induction
import Mathlib.Logic.Function.Basic
import RecordStore.Store.Running

/-!
# Tasks under every schedule

Tasks that were started together go on in turns, whose order is left to a schedule. At its turn a task goes on until
it has to wait. What a call is answered is left to the outside, and so is when: the answer to a call is a turn of its own.
-/

namespace RecordStore.Task

variable {σ κ : Type} {α : κ → Type} {β γ ε : Type}

inductive Event (κ : Type) (α : κ → Type) where
  | issued (place : Place) (c : κ)
  | answered (place : Place) (c : κ) (answer : α c)

def Event.place : Event κ α → Place
  | issued place _ => place
  | answered place _ _ => place

/-- What a call is answered, after all that has happened. -/
abbrev Outside (κ : Type) (α : κ → Type) := List (Event κ α) → Place → (c : κ) → α c

structure Moment (σ κ : Type) (α : κ → Type) (β : Type) where
  state : σ
  history : List (Event κ α)
  running : Running σ κ α β

def Moment.within (f : Running σ κ α γ → Running σ κ α β) (m : Moment σ κ α γ) : Moment σ κ α β :=
  ⟨m.state, m.history, f m.running⟩

/-- How far a task gets without having to wait. -/
def advance (place : Place) : {β : Type} → Task σ κ α β → σ → List (Event κ α) → Moment σ κ α β
  | _, done result, s, history => ⟨s, history, .ended result⟩
  | _, look next, s, history => advance place (next s) s history
  | _, change s next, _, history => advance place next s history
  | _, note _ next, s, history => advance place next s history
  | _, call c next, s, history => ⟨s, history ++ [.issued place c], .called c next⟩
  | _, wait free next, s, history =>
    if free s then advance place next s history else ⟨s, history, .waiting free next⟩
  | _, settle n tasks next, s, history => ⟨s, history, .settling n (fun i => .ready (tasks i)) next⟩
  | _, join n tasks next, s, history => ⟨s, history, .joining n (fun i => .ready (tasks i)) none next⟩

namespace Running

/-- A turn of the task at a place below the given one, if it can have one. -/
def turn (outside : Outside κ α) : {β : Type} → Running σ κ α β → Place → Place → σ → List (Event κ α) →
    Option (Moment σ κ α β)
  | _, ready task, here, [], s, history => some (task.advance here s history)
  | _, called c next, here, [], s, history =>
    let answer := outside history here c
    some ⟨s, history ++ [.answered here c answer], .ready (next answer)⟩
  | _, waiting free next, here, [], s, history => if free s then some (next.advance here s history) else none
  | _, settling n parts next, here, [], s, history =>
    (results? parts).map fun results => ((next results).advance (here ++ [n]) s history).within (beside n parts)
  | _, settling n parts next, here, i :: place, s, history =>
    if inside : i < n then
      ((parts ⟨i, inside⟩).turn outside (here ++ [i]) place s history).map
        (.within fun part => settling n (Function.update parts ⟨i, inside⟩ part) next)
    else none
  | _, joining n parts (some e) next, here, [], s, history =>
    some (((next (.error e)).advance (here ++ [n]) s history).within (beside n parts))
  | _, joining n parts none next, here, [], s, history =>
    (results? parts).map fun results =>
      ((next (results.mapM id)).advance (here ++ [n]) s history).within (beside n parts)
  | _, joining n parts first next, here, i :: place, s, history =>
    if inside : i < n then
      ((parts ⟨i, inside⟩).turn outside (here ++ [i]) place s history).map
        (.within fun part => joining n (Function.update parts ⟨i, inside⟩ part) (first.or part.failure?) next)
    else none
  | _, beside n parts rest, here, i :: place, s, history =>
    if inside : i < n then
      ((parts ⟨i, inside⟩).turn outside (here ++ [i]) place s history).map
        (.within fun part => beside n (Function.update parts ⟨i, inside⟩ part) rest)
    else if i = n then (rest.turn outside (here ++ [n]) place s history).map (.within (beside n parts))
    else none
  | _, _, _, _, _, _ => none

end Running

namespace Moment

def start (s : σ) (task : Task σ κ α β) : Moment σ κ α β := ⟨s, [], .ready task⟩

def turn (outside : Outside κ α) (place : Place) (m : Moment σ κ α β) : Option (Moment σ κ α β) :=
  m.running.turn outside [] place m.state m.history

/-- The moment after the turns of a schedule. -/
def play (outside : Outside κ α) (m : Moment σ κ α β) (schedule : List Place) : Option (Moment σ κ α β) :=
  schedule.foldlM (fun m place => m.turn outside place) m

variable {outside : Outside κ α} {start m later : Moment σ κ α β} {schedule : List Place} {place : Place}

theorem play_induction {P : List Place → Moment σ κ α β → Prop} (first : P [] start)
    (each : ∀ {schedule place m later}, P schedule m → m.turn outside place = some later → P (schedule ++ [place]) later)
    (played : start.play outside schedule = some m) : P schedule m := by
  induction schedule using List.reverseRecOn generalizing m with
  | nil =>
    cases played
    exact first
  | append_singleton schedule place ih =>
    rw [play, List.foldlM_append] at played
    obtain ⟨before, played, turned⟩ := Option.bind_eq_some_iff.1 played
    obtain ⟨after, turned, same⟩ := Option.bind_eq_some_iff.1 turned
    cases same
    exact each (ih played) turned

/-- Under every schedule a run ends, after so many turns at most, and its result and all that has happened until then
are as they should be. -/
structure Ends (outside : Outside κ α) (start : Moment σ κ α β) (turns : Nat) (good : β → List (Event κ α) → Prop) :
    Prop where
  bounded : ∀ {schedule m}, start.play outside schedule = some m → schedule.length ≤ turns
  goesOn : ∀ {schedule m}, start.play outside schedule = some m → m.running.result? = none →
    ∃ place, (m.turn outside place).isSome
  good : ∀ {schedule m result}, start.play outside schedule = some m → m.running.result? = some result →
    good result m.history

variable {turns more : Nat} {good better : β → List (Event κ α) → Prop}

theorem Ends.mono (ends : Ends outside start turns good) (fewer : turns ≤ more)
    (implies : ∀ result history, good result history → better result history) : Ends outside start more better where
  bounded played := Nat.le_trans (ends.bounded played) fewer
  goesOn := ends.goesOn
  good played ended := implies _ _ (ends.good played ended)

theorem ends_of_keeps {P : List Place → Moment σ κ α β → Prop} (first : P [] start)
    (each : ∀ {schedule place m later}, P schedule m → m.turn outside place = some later → P (schedule ++ [place]) later)
    (bounded : ∀ {schedule m}, P schedule m → schedule.length ≤ turns)
    (goesOn : ∀ {schedule m}, P schedule m → m.running.result? = none → ∃ place, (m.turn outside place).isSome)
    (holds : ∀ {schedule m result}, P schedule m → m.running.result? = some result → good result m.history) :
    Ends outside start turns good where
  bounded played := bounded (play_induction first each played)
  goesOn played := goesOn (play_induction first each played)
  good played := holds (play_induction first each played)

/-- A task that never has to wait ends at its first turn. -/
theorem ends_at_once {s after : σ} {task : Task σ κ α β} {result : β}
    (atOnce : task.advance [] s [] = ⟨after, [], .ended result⟩) :
    Ends outside (.start s task) 1 fun r history => r = result ∧ history = [] := by
  refine ends_of_keeps (P := fun schedule m => (schedule = [] ∧ m = start s task) ∨
    (schedule = [[]] ∧ m = ⟨after, [], .ended result⟩)) (.inl ⟨rfl, rfl⟩) ?_ ?_ ?_ ?_
  · rintro schedule place m later (⟨rfl, rfl⟩ | ⟨rfl, rfl⟩) turned
    · cases place with
      | nil => exact .inr ⟨rfl, (Option.some.inj turned).symm.trans atOnce⟩
      | cons i place => cases turned
    · cases turned
  · rintro schedule m (⟨rfl, rfl⟩ | ⟨rfl, rfl⟩) <;> simp
  · rintro schedule m (⟨rfl, rfl⟩ | ⟨rfl, rfl⟩) alive
    · exact ⟨[], rfl⟩
    · cases alive
  · rintro schedule m r (⟨rfl, rfl⟩ | ⟨rfl, rfl⟩) ended
    · cases ended
    · exact ⟨(Option.some.inj ended).symm, rfl⟩

end Moment

/-! ### Going on after a task -/

section Advance

variable {s after : σ} {place : Place} {history later : List (Event κ α)} {f : γ → Task σ κ α β}

theorem advance_bind_ended {task : Task σ κ α γ} {result : γ}
    (ended : task.advance place s history = ⟨after, later, .ended result⟩) :
    (task.bind f).advance place s history = (f result).advance place after later := by
  induction task generalizing s with
  | done =>
    cases ended
    rfl
  | look next ih => exact ih s ended
  | change t next ih => exact ih ended
  | note entry next ih => exact ih ended
  | wait free next ih =>
    simp only [bind, advance] at ended ⊢
    split
    · rw [if_pos ‹_›] at ended
      exact ih ended
    · rw [if_neg ‹_›] at ended
      cases ended
  | call => cases ended
  | settle => cases ended
  | join => cases ended

theorem advance_bind_called {task : Task σ κ α γ} {c : κ} {next : α c → Task σ κ α γ}
    (called : task.advance place s history = ⟨after, later, .called c next⟩) :
    (task.bind f).advance place s history = ⟨after, later, .called c fun answer => (next answer).bind f⟩ := by
  induction task generalizing s with
  | call =>
    cases called
    rfl
  | look next ih => exact ih s called
  | change t next ih => exact ih called
  | note entry next ih => exact ih called
  | wait free next ih =>
    simp only [bind, advance] at called ⊢
    split
    · rw [if_pos ‹_›] at called
      exact ih called
    · rw [if_neg ‹_›] at called
      cases called
  | done => cases called
  | settle => cases called
  | join => cases called

end Advance

/-! ### What turns come to -/

namespace Running

/-- A turn by its kind: of a task itself, or of a task below it, at the rest of the place. -/
inductive Turned (outside : Outside κ α) (s : σ) (history : List (Event κ α)) :
    {β : Type} → Place → Place → Running σ κ α β → Moment σ κ α β → Prop
  | ready {β : Type} {here : Place} {task : Task σ κ α β} :
    Turned outside s history here [] (.ready task) (task.advance here s history)
  | answered {β : Type} {here : Place} {c : κ} {next : α c → Task σ κ α β} :
    Turned outside s history here [] (.called c next)
      ⟨s, history ++ [.answered here c (outside history here c)], .ready (next (outside history here c))⟩
  | freed {β : Type} {here : Place} {free : σ → Bool} {next : Task σ κ α β} (now : free s = true) :
    Turned outside s history here [] (.waiting free next) (next.advance here s history)
  | settled {β γ : Type} {here : Place} {n : Nat} {parts : Fin n → Running σ κ α γ} {next : List γ → Task σ κ α β}
    {results : List γ} (all : results? parts = some results) :
    Turned outside s history here [] (.settling n parts next)
      (((next results).advance (here ++ [n]) s history).within (.beside n parts))
  | failed {β γ ε : Type} {here : Place} {n : Nat} {parts : Fin n → Running σ κ α (Except ε γ)} {e : ε}
    {next : Except ε (List γ) → Task σ κ α β} :
    Turned outside s history here [] (.joining n parts (some e) next)
      (((next (.error e)).advance (here ++ [n]) s history).within (.beside n parts))
  | joined {β γ ε : Type} {here : Place} {n : Nat} {parts : Fin n → Running σ κ α (Except ε γ)}
    {next : Except ε (List γ) → Task σ κ α β} {results : List (Except ε γ)} (all : results? parts = some results) :
    Turned outside s history here [] (.joining n parts none next)
      (((next (results.mapM id)).advance (here ++ [n]) s history).within (.beside n parts))
  | settling {β γ : Type} {here place : Place} {n : Nat} {parts : Fin n → Running σ κ α γ} {next : List γ → Task σ κ α β}
    {i : Fin n} {part : Moment σ κ α γ} (turned : Turned outside s history (here ++ [i.val]) place (parts i) part) :
    Turned outside s history here (i.val :: place) (.settling n parts next)
      (part.within fun running => .settling n (Function.update parts i running) next)
  | joining {β γ ε : Type} {here place : Place} {n : Nat} {parts : Fin n → Running σ κ α (Except ε γ)} {first : Option ε}
    {next : Except ε (List γ) → Task σ κ α β} {i : Fin n} {part : Moment σ κ α (Except ε γ)}
    (turned : Turned outside s history (here ++ [i.val]) place (parts i) part) :
    Turned outside s history here (i.val :: place) (.joining n parts first next)
      (part.within fun running => .joining n (Function.update parts i running) (first.or running.failure?) next)
  | beside {β γ : Type} {here place : Place} {n : Nat} {parts : Fin n → Running σ κ α γ} {rest : Running σ κ α β}
    {i : Fin n} {part : Moment σ κ α γ} (turned : Turned outside s history (here ++ [i.val]) place (parts i) part) :
    Turned outside s history here (i.val :: place) (.beside n parts rest)
      (part.within fun running => .beside n (Function.update parts i running) rest)
  | after {β γ : Type} {here place : Place} {n : Nat} {parts : Fin n → Running σ κ α γ} {rest : Running σ κ α β}
    {m : Moment σ κ α β} (turned : Turned outside s history (here ++ [n]) place rest m) :
    Turned outside s history here (n :: place) (.beside n parts rest) (m.within (.beside n parts))

theorem turned_of_turn {outside : Outside κ α} {running : Running σ κ α β} {here place : Place} {s : σ}
    {history : List (Event κ α)} {m : Moment σ κ α β} (went : running.turn outside here place s history = some m) :
    Turned outside s history here place running m := by
  induction running generalizing here place with
  | ready =>
    cases place with
    | nil =>
      cases went
      exact .ready
    | cons => cases went
  | called =>
    cases place with
    | nil =>
      cases went
      exact .answered
    | cons => cases went
  | waiting =>
    cases place with
    | nil =>
      rw [turn] at went
      split at went
      · cases went
        exact .freed ‹_›
      · cases went
    | cons => cases went
  | settling n parts next ih =>
    cases place with
    | nil =>
      obtain ⟨results, all, rfl⟩ := Option.map_eq_some_iff.1 went
      exact .settled all
    | cons i place =>
      rw [turn] at went
      split at went
      · next inside =>
        obtain ⟨part, moved, rfl⟩ := Option.map_eq_some_iff.1 went
        exact .settling (i := ⟨i, inside⟩) (ih _ moved)
      · cases went
  | joining n parts first next ih =>
    cases place with
    | nil =>
      cases first with
      | some e =>
        cases went
        exact .failed
      | none =>
        obtain ⟨results, all, rfl⟩ := Option.map_eq_some_iff.1 went
        exact .joined all
    | cons i place =>
      rw [turn] at went
      split at went
      · next inside =>
        obtain ⟨part, moved, rfl⟩ := Option.map_eq_some_iff.1 went
        exact .joining (i := ⟨i, inside⟩) (ih _ moved)
      · cases went
  | beside n parts rest each ih =>
    cases place with
    | nil => cases went
    | cons i place =>
      rw [turn] at went
      split at went
      · next inside =>
        obtain ⟨part, moved, rfl⟩ := Option.map_eq_some_iff.1 went
        exact .beside (i := ⟨i, inside⟩) (each _ moved)
      · split at went
        · next last =>
          obtain ⟨m, moved, rfl⟩ := Option.map_eq_some_iff.1 went
          rw [last]
          exact .after (ih moved)
        · cases went
  | ended => cases place <;> cases went

end Running
end RecordStore.Task
