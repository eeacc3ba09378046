import RecordStore.Proofs.Error.Outcome
import RecordStore.Proofs.Store.Groups

/-!
# Tasks that make their calls one after the other

A task with a script makes one call after the other, as long as it gets good answers, and ends after the last of them. When
such tasks are started together, each comes to the end of its script, under every schedule.
-/

namespace RecordStore.Task

variable {σ κ : Type} {α : κ → Type} {β γ δ ε : Type} {s : σ} {good : (c : κ) → α c → Prop} {place : Place} {result : γ}
  {calls more : List κ} {events : List (Event κ α)} {c : κ} {outside : Outside κ α}

/-- A task that makes calls one after the other, as long as the answers are good, and then ends with a result. -/
def AsksEach (s : σ) (good : (c : κ) → α c → Prop) (result : γ) : List κ → Task σ κ α γ → Prop
  | [], task => EndsAtOnce s task result
  | c :: calls, task => ∃ next : α c → Task σ κ α γ,
    (∀ place history, task.advance place s history = ⟨s, history ++ [.issued place c], .called c next⟩) ∧
    ∀ answer, good c answer → AsksEach s good result calls (next answer)

theorem EndsAtOnce.bind_asksEach {task : Task σ κ α γ} {f : γ → Task σ κ α δ} {last : δ} (atOnce : EndsAtOnce s task result)
    (rest : AsksEach s good last calls (f result)) : AsksEach s good last calls (task.bind f) := by
  cases calls with
  | nil => exact fun place history => (advance_bind_ended (atOnce place history)).trans (rest place history)
  | cons c calls =>
    obtain ⟨next, asks, others⟩ := rest
    exact ⟨next, fun place history => (advance_bind_ended (atOnce place history)).trans (asks place history), others⟩

theorem AsksEach.bind {task : Task σ κ α γ} {f : γ → Task σ κ α δ} {last : δ} (first : AsksEach s good result calls task)
    (rest : AsksEach s good last more (f result)) : AsksEach s good last (calls ++ more) (task.bind f) := by
  induction calls generalizing task with
  | nil => exact EndsAtOnce.bind_asksEach first rest
  | cons c calls ih =>
    obtain ⟨next, asks, others⟩ := first
    exact ⟨_, fun place history => advance_bind_called (asks place history), fun answer well => ih (others answer well)⟩

/-! ### What happens at the place of a script -/

/-- What happens at a place where calls get good answers, one after the other. -/
inductive CarriedOut (good : (c : κ) → α c → Prop) (place : Place) : List κ → List (Event κ α) → Prop
  | nothing : CarriedOut good place [] []
  | next {calls : List κ} {events : List (Event κ α)} {c : κ} {answer : α c} (before : CarriedOut good place calls events)
    (well : good c answer) : CarriedOut good place (calls ++ [c]) (events ++ [.issued place c, .answered place c answer])

/-- When a call is made, the calls before it in the script have been answered. -/
theorem CarriedOut.split {first rest : List (Event κ α)}
    (carried : CarriedOut good place calls (first ++ .issued place c :: rest)) :
    ∃ done left, calls = done ++ c :: left ∧ CarriedOut good place done first := by
  generalize whole : first ++ .issued place c :: rest = all at carried
  induction carried generalizing rest with
  | nothing => simp at whole
  | @next calls events d answer before well ih =>
    -- The call is the last one, or it was made before the last one was.
    rcases List.eq_nil_or_concat rest with rfl | ⟨rest, last, rfl⟩
    · have ends := congrArg List.getLast? whole
      simp at ends
    · have answered : (first ++ .issued place c :: rest) ++ [last] =
          (events ++ [.issued place d]) ++ [.answered place d answer] := by
        simpa using whole
      have shorter := (List.append_inj' answered rfl).1
      rcases List.eq_nil_or_concat rest with rfl | ⟨rest, last, rfl⟩
      · obtain ⟨rfl, same⟩ := List.append_inj' shorter rfl
        cases same
        exact ⟨calls, [], rfl, before⟩
      · have issued : (first ++ .issued place c :: rest) ++ [last] = events ++ [.issued place d] := by simpa using shorter
        obtain ⟨done, left, rfl, carried⟩ := ih (List.append_inj' issued rfl).1
        exact ⟨done, left ++ [d], by simp, carried⟩

/-! ### Under every schedule -/

/-- The stages of a task with a script. -/
inductive ScriptAt (s : σ) (good : (c : κ) → α c → Prop) (place : Place) (result : γ) (calls : List κ) : Stage σ κ α γ
  | ready {task : Task σ κ α γ} {done left : List κ} {own : List (Event κ α)} (whole : calls = done ++ left)
    (carried : CarriedOut good place done own) (asks : AsksEach s good result left task) :
    ScriptAt s good place result calls (.ready task) own (2 * done.length)
  | called {c : κ} {next : α c → Task σ κ α γ} {done left : List κ} {own : List (Event κ α)} (whole : calls = done ++ c :: left)
    (carried : CarriedOut good place done own) (asks : ∀ answer, good c answer → AsksEach s good result left (next answer)) :
    ScriptAt s good place result calls (.called c next) (own ++ [.issued place c]) (2 * done.length + 1)
  | ended {own : List (Event κ α)} (carried : CarriedOut good place calls own) :
    ScriptAt s good place result calls (.ended result) own (2 * calls.length + 1)

/-- An outside that gives a call of a script a good answer once the calls before it were given good answers. -/
def AnswersWell (outside : Outside κ α) (good : (c : κ) → α c → Prop) (place : Place) (calls : List κ) : Prop :=
  ∀ history {own done c left}, calls = done ++ c :: left → CarriedOut good place done own →
    eventsAt place history = own ++ [.issued place c] → good c (outside history place c)

theorem AnswersWell.keeps {i : Nat} (answers : AnswersWell outside good [i] calls) :
    Keeps outside s i (2 * calls.length + 1) (ScriptAt s good [i] result calls) where
  turn {part turns place history m} stage turned := by
    have single : ∀ {event : Event κ α}, event.place = [i] → ∀ other ∈ [event], other.place = [i] :=
      fun own _ member => List.mem_singleton.1 member ▸ own
    generalize here : eventsAt [i] history = own at stage ⊢
    cases place with
    | cons j rest => cases stage <;> cases turned
    | nil =>
      refine ⟨rfl, ?_⟩
      cases stage with
      | @ready task done left _ whole carried asks =>
        have went := (Option.some.inj turned).symm
        cases left with
        | nil =>
          obtain rfl := went.trans (asks _ _)
          rw [List.append_nil] at whole
          subst whole
          refine ⟨rfl, [], (List.append_nil _).symm, nofun, ?_⟩
          rw [List.append_nil]
          exact .ended carried
        | cons c left =>
          obtain ⟨next, calls, rest⟩ := asks
          obtain rfl := went.trans (calls _ _)
          exact ⟨rfl, _, rfl, single rfl, .called whole carried rest⟩
      | @called c next done left before whole carried asks =>
        cases turned
        have well : good c (outside history [i] c) := answers history whole carried here
        refine ⟨rfl, _, rfl, single rfl, ?_⟩
        rw [List.append_assoc]
        have later := ScriptAt.ready (whole.trans (List.append_cons ..)) (carried.next well) (asks _ well)
        rw [List.length_append] at later
        exact later
      | ended => cases turned
  limit stage := by
    cases stage with
    | ready whole =>
      rw [whole, List.length_append]
      omega
    | called whole =>
      rw [whole, List.length_append, List.length_cons]
      omega
    | ended => exact le_rfl
  goesOn stage alive history := by
    cases stage with
    | ended => cases alive
    | _ => rfl
  ended stage last := by
    cases stage with
    | ended =>
      cases last
      rfl
    | _ => cases last

theorem Running.joining_cast {m n : Nat} (same : m = n) (tasks : Fin m → Task σ κ α (Except ε γ)) {first : Option ε}
    {next : Except ε (List γ) → Task σ κ α β} : joining m (fun i => .ready (tasks i)) first next =
      joining n (fun i => .ready (tasks (i.cast same.symm))) first next := by
  subst same
  rfl

/-- A task that only joins tasks with scripts ends, and then each script has come to its end. -/
theorem ends_joined_scripts {n : Nat} {whole : Task σ κ α β} {tasks : Fin n → Task σ κ α (Except ε γ)}
    {next : Except ε (List γ) → Task σ κ α β} {final : Except ε (List γ) → β} {calls : Fin n → List κ} {results : Fin n → γ}
    (starts : whole.advance [] s [] = ⟨s, [], .joining n (fun i => .ready (tasks i)) none next⟩)
    (asks : ∀ i, AsksEach s good (.ok (results i)) (calls i) (tasks i))
    (answers : ∀ i : Fin n, AnswersWell outside good [i.val] (calls i))
    (ends : ∀ outcome, next outcome = .done (final outcome)) :
    Moment.Ends outside (.start s whole) (∑ i, (2 * (calls i).length + 1) + 2) fun result history =>
      result = final (.ok (List.ofFn results)) ∧
        (∀ i : Fin n, CarriedOut good [i.val] (calls i) (eventsAt [i.val] history)) ∧
        ∀ event ∈ history, ∃ i : Fin n, event.place = [i.val] := by
  have fresh (i : Fin n) : ScriptAt s good [i.val] (.ok (results i)) (calls i) (.ready (tasks i)) [] 0 :=
    .ready rfl .nothing (asks i)
  refine (ends_group awaits_joining starts fresh (fun i => (answers i).keeps) ?_
    fun each => ends (each.mapM id)).mono le_rfl ?_
  · intro i part own turns last stage ended
    cases stage with
    | ended =>
      cases ended
      rfl
    | _ => cases ended
  · rintro result history ⟨each, rfl, stages, places⟩
    have own (i : Fin n) : each i = .ok (results i) ∧ CarriedOut good [i.val] (calls i) (eventsAt [i.val] history) := by
      obtain ⟨turns, stage⟩ := stages i
      generalize eventsAt [i.val] history = events at stage ⊢
      generalize each i = last at stage ⊢
      cases stage with
      | ended carried => exact ⟨rfl, carried⟩
    have all : List.ofFn each = (List.ofFn results).map .ok := by
      rw [List.map_ofFn]
      exact congrArg List.ofFn (funext fun i => (own i).1)
    have joined : ((List.ofFn results).map .ok).mapM id = (.ok (List.ofFn results) : Except ε (List γ)) := by
      rw [List.mapM_map]
      exact (mapM_ok (g := id) fun _ _ => rfl).trans (by rw [List.map_id])
    exact ⟨by rw [all, joined], fun i => (own i).2, places⟩

end RecordStore.Task
