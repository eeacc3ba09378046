import Mathlib.Algebra.BigOperators.Fin
import Mathlib.Algebra.Order.BigOperators.Group.Finset
import RecordStore.Proofs.Store.Schedule

/-!
# Groups of tasks under every schedule

A task may start a group of tasks and wait until all of them have ended. As long as each of them keeps to itself, what
becomes of the group is what becomes of each alone, under every schedule.
-/

namespace RecordStore.Task

variable {σ κ : Type} {α : κ → Type} {β γ : Type}

namespace Running

theorem results?_some {n : Nat} {parts : Fin n → Running σ κ α γ} {results : List γ}
    (all : results? parts = some results) : ∃ each : Fin n → γ, (∀ i, (parts i).result? = some (each i)) ∧
      results = List.ofFn each := by
  unfold results? at all
  split at all
  · rename_i each
    exact ⟨_, fun i => (Option.some_get (each i)).symm, (Option.some.inj all).symm⟩
  · cases all

theorem results?_isSome {n : Nat} {parts : Fin n → Running σ κ α γ} (each : ∀ i, (parts i).result? ≠ none) :
    (results? parts).isSome := by
  unfold results?
  rw [dif_pos fun i => Option.isSome_iff_ne_none.2 (each i)]
  rfl

end Running

def eventsAt (place : Place) (history : List (Event κ α)) : List (Event κ α) :=
  history.filter fun event => event.place = place

theorem eventsAt_same {place : Place} {history more : List (Event κ α)} (own : ∀ event ∈ more, event.place = place) :
    eventsAt place (history ++ more) = eventsAt place history ++ more := by
  have all : more.filter (fun event => event.place = place) = more := List.filter_eq_self.2 (by simpa using own)
  rw [eventsAt, List.filter_append, all]
  rfl

theorem eventsAt_other {place other : Place} {history more : List (Event κ α)} (different : place ≠ other)
    (own : ∀ event ∈ more, event.place = other) : eventsAt place (history ++ more) = eventsAt place history := by
  have none : more.filter (fun event => event.place = place) = [] := by
    rw [List.filter_eq_nil_iff]
    intro event member
    simpa [own event member] using different.symm
  rw [eventsAt, List.filter_append, none, List.append_nil]
  rfl

/-- What can be said of a task by itself: where it is, what has happened at its place, and how many turns it had. -/
abbrev Stage (σ κ : Type) (α : κ → Type) (γ : Type) := Running σ κ α γ → List (Event κ α) → Nat → Prop

/-- A task of a group keeps to itself if its turns do not change the state and are as many at most. -/
structure Keeps (outside : Outside κ α) (s : σ) (i limit : Nat) (stage : Stage σ κ α γ) : Prop where
  turn : ∀ {part turns place history m}, stage part (eventsAt [i] history) turns →
    part.turn outside [i] place s history = some m → place = [] ∧ m.state = s ∧
      ∃ more, m.history = history ++ more ∧ (∀ event ∈ more, event.place = [i]) ∧
        stage m.running (eventsAt [i] history ++ more) (turns + 1)
  limit : ∀ {part own turns}, stage part own turns → turns ≤ limit
  goesOn : ∀ {part own turns}, stage part own turns → part.result? = none →
    ∀ history, (part.turn outside [i] [] s history).isSome
  ended : ∀ {part own turns result}, stage part own turns → part.result? = some result → part = .ended result

section Group

variable {n : Nat} {limit : Fin n → Nat} {s : σ} {outside : Outside κ α} {stage : Fin n → Stage σ κ α γ}

/-- Each task of a group is at its stage, and nothing happened elsewhere. -/
structure Together (stage : Fin n → Stage σ κ α γ) (parts : Fin n → Running σ κ α γ) (history : List (Event κ α))
    (schedule : List Place) : Prop where
  each : ∀ i : Fin n, stage i (parts i) (eventsAt [i.val] history) (schedule.count [i.val])
  events : ∀ event ∈ history, ∃ i : Fin n, event.place = [i.val]
  places : ∀ place ∈ schedule, place = [] ∨ ∃ i : Fin n, place = [i.val]

variable {parts : Fin n → Running σ κ α γ} {history : List (Event κ α)} {schedule : List Place}

theorem Together.turn (together : Together stage parts history schedule)
    (keeps : ∀ i, Keeps outside s i.val (limit i) (stage i))
    {i : Fin n} {place : Place} {m : Moment σ κ α γ} (turned : (parts i).turn outside [i.val] place s history = some m) :
    place = [] ∧ m.state = s ∧
      Together stage (Function.update parts i m.running) m.history (schedule ++ [[i.val]]) := by
  obtain ⟨here, same, more, grown, own, staged⟩ := (keeps i).turn (together.each i) turned
  refine ⟨here, same, ⟨fun j => ?_, ?_, ?_⟩⟩
  · rw [grown, List.count_append]
    by_cases mine : j = i
    · subst mine
      rw [Function.update_self, eventsAt_same own, List.count_singleton_self]
      exact staged
    · have apart : [j.val] ≠ [i.val] := by simpa [Fin.ext_iff] using mine
      have none : List.count [j.val] [[i.val]] = 0 := List.count_eq_zero_of_not_mem (by simpa using apart)
      rw [Function.update_of_ne mine, eventsAt_other apart own, none]
      exact together.each j
  · rw [grown]
    intro event member
    rcases List.mem_append.1 member with old | new
    · exact together.events event old
    · exact ⟨i, own event new⟩
  · intro other member
    rcases List.mem_append.1 member with old | new
    · exact together.places other old
    · exact .inr ⟨i, List.mem_singleton.1 new⟩

/-- A turn of the task that started the group. -/
theorem Together.own (together : Together stage parts history schedule) :
    Together stage parts history (schedule ++ [[]]) where
  each i := by
    have none : List.count [i.val] [[]] = 0 := List.count_eq_zero_of_not_mem (by simp)
    rw [List.count_append, none]
    exact together.each i
  events := together.events
  places place member := by
    rcases List.mem_append.1 member with old | new
    · exact together.places place old
    · exact .inl (List.mem_singleton.1 new)

theorem length_of_places (places : ∀ place ∈ schedule, place = [] ∨ ∃ i : Fin n, place = [i.val]) :
    schedule.length = schedule.count [] + ∑ i : Fin n, schedule.count [i.val] := by
  induction schedule with
  | nil => simp
  | cons place rest ih =>
    have shorter := ih fun other member => places other (List.mem_cons_of_mem _ member)
    rw [List.length_cons, shorter]
    rcases places place List.mem_cons_self with rfl | ⟨i, rfl⟩
    · have others : ∀ j : Fin n, ([] :: rest).count [j.val] = rest.count [j.val] := fun j =>
        List.count_cons_of_ne (by simp)
      simp only [others, List.count_cons_self]
      omega
    · have each : ∀ j : Fin n, ([i.val] :: rest).count [j.val] = rest.count [j.val] + if i = j then 1 else 0 := by
        intro j
        simp [List.count_cons, Fin.ext_iff]
      simp only [each, Finset.sum_add_distrib, Finset.sum_ite_eq, Finset.mem_univ, if_true]
      rw [List.count_cons_of_ne (by simp)]
      omega

theorem Together.length_le (together : Together stage parts history schedule)
    (keeps : ∀ i, Keeps outside s i.val (limit i) (stage i)) : schedule.length ≤ schedule.count [] + ∑ i, limit i := by
  rw [length_of_places together.places]
  exact Nat.add_le_add_left (Finset.sum_le_sum fun i _ => (keeps i).limit (together.each i)) _

/-- A running task that waits for the tasks of a group and goes on when all of them have ended. After a turn of one of them
it waits for the others in the same way, as long as the task has not ended badly. -/
structure Awaits (outside : Outside κ α) (s : σ) (fine : γ → Prop) (group : (Fin n → Running σ κ α γ) → Running σ κ α β)
    (grown : (Fin n → Running σ κ α γ) → Fin n → Running σ κ α γ → Running σ κ α β) (next : List γ → Task σ κ α β) :
    Prop where
  alive : ∀ parts, (group parts).result? = none
  own : ∀ parts history, (group parts).turn outside [] [] s history =
    (Running.results? parts).map fun results => ((next results).advance [n] s history).within (.beside n parts)
  part : ∀ parts (i : Fin n) place history, (group parts).turn outside [] (i.val :: place) s history =
    ((parts i).turn outside [i.val] place s history).map (.within (grown parts i))
  beyond : ∀ parts i place history, n ≤ i → (group parts).turn outside [] (i :: place) s history = none
  kept : ∀ parts i running, (∀ result, running.result? = some result → fine result) →
    grown parts i running = group (Function.update parts i running)

theorem awaits_settling {next : List γ → Task σ κ α β} :
    Awaits outside s (fun _ => True) (fun parts : Fin n → Running σ κ α γ => .settling n parts next)
      (fun parts i running => .settling n (Function.update parts i running) next) next where
  alive _ := rfl
  own _ _ := rfl
  part parts i place history := by
    rw [Running.turn, dif_pos i.isLt]
    rfl
  beyond parts i place history outer := by rw [Running.turn, dif_neg (Nat.not_lt.2 outer)]
  kept _ _ _ _ := rfl

/-- No failure is kept of tasks that have not failed. -/
theorem awaits_joining {ε : Type} {next : Except ε (List γ) → Task σ κ α β} :
    Awaits outside s (fun result => Running.failed? result = none)
      (fun parts : Fin n → Running σ κ α (Except ε γ) => .joining n parts none next)
      (fun parts i running => .joining n (Function.update parts i running) (Option.none.or running.failure?) next)
      fun results => next (results.mapM id) where
  alive _ := rfl
  own _ _ := rfl
  part parts i place history := by
    rw [Running.turn, dif_pos i.isLt]
    rfl
  beyond parts i place history outer := by rw [Running.turn, dif_neg (Nat.not_lt.2 outer)]
  kept parts i running fine := by
    have none : running.failure? = none := Option.bind_eq_none_iff.2 fine
    rw [none]
    rfl

theorem Awaits.turn {fine : γ → Prop} {group : (Fin n → Running σ κ α γ) → Running σ κ α β}
    {grown : (Fin n → Running σ κ α γ) → Fin n → Running σ κ α γ → Running σ κ α β} {next : List γ → Task σ κ α β}
    {place : Place} {m : Moment σ κ α β} (awaits : Awaits outside s fine group grown next)
    (turned : (group parts).turn outside [] place s history = some m) :
    (place = [] ∧ ∃ each : Fin n → γ, (∀ i, (parts i).result? = some (each i)) ∧
      m = ((next (List.ofFn each)).advance [n] s history).within (.beside n parts)) ∨
    ∃ (i : Fin n) (rest : Place) (part : Moment σ κ α γ), place = i.val :: rest ∧
      (parts i).turn outside [i.val] rest s history = some part ∧ m = part.within (grown parts i) := by
  cases place with
  | nil =>
    rw [awaits.own] at turned
    obtain ⟨results, all, rfl⟩ := Option.map_eq_some_iff.1 turned
    obtain ⟨each, ended, rfl⟩ := Running.results?_some all
    exact .inl ⟨rfl, each, ended, rfl⟩
  | cons i rest =>
    rcases Nat.lt_or_ge i n with inside | outer
    · rw [awaits.part parts ⟨i, inside⟩] at turned
      obtain ⟨part, went, rfl⟩ := Option.map_eq_some_iff.1 turned
      exact .inr ⟨⟨i, inside⟩, rest, part, rfl, went, rfl⟩
    · rw [awaits.beyond parts i rest history outer] at turned
      cases turned

theorem Running.beside_ended {each : Fin n → γ} {result : β} {here place : Place} :
    (beside n (fun i => ended (each i)) (ended result)).turn outside here place s history = none := by
  have still : ∀ {δ : Type} (r : δ) (here place : Place), (ended r).turn outside here place s history = none :=
    fun _ _ place => by cases place <;> rfl
  cases place with
  | nil => rfl
  | cons i rest =>
    rw [turn]
    split
    · rw [still]
      rfl
    · split
      · rw [still]
        rfl
      · rfl

/-- How far a task has come that only starts a group and ends with what its tasks end with. -/
inductive GroupAt (stage : Fin n → Stage σ κ α γ) (start : Moment σ κ α β)
    (group : (Fin n → Running σ κ α γ) → Running σ κ α β) (final : List γ → β) (s : σ) :
    List Place → Moment σ κ α β → Prop
  | waiting : GroupAt stage start group final s [] start
  | together {parts : Fin n → Running σ κ α γ} {history : List (Event κ α)} {schedule : List Place}
    (all : Together stage parts history schedule) (once : schedule.count [] = 1) :
    GroupAt stage start group final s schedule ⟨s, history, group parts⟩
  | finished {each : Fin n → γ} {history : List (Event κ α)} {schedule : List Place}
    (all : Together stage (fun i => .ended (each i)) history schedule) (twice : schedule.count [] = 2) :
    GroupAt stage start group final s schedule
      ⟨s, history, .beside n (fun i => .ended (each i)) (.ended (final (List.ofFn each)))⟩

variable {task : Task σ κ α β} {tasks : Fin n → Task σ κ α γ} {group : (Fin n → Running σ κ α γ) → Running σ κ α β}
  {grown : (Fin n → Running σ κ α γ) → Fin n → Running σ κ α γ → Running σ κ α β} {next : List γ → Task σ κ α β}
  {final : List γ → β} {fine : γ → Prop}

theorem GroupAt.turn {place : Place} {m later : Moment σ κ α β} (awaits : Awaits outside s fine group grown next)
    (starts : task.advance [] s [] = ⟨s, [], group fun i => .ready (tasks i)⟩)
    (fresh : ∀ i, stage i (.ready (tasks i)) [] 0) (keeps : ∀ i, Keeps outside s i.val (limit i) (stage i))
    (well : ∀ {i part own turns result}, stage i part own turns → part.result? = some result → fine result)
    (ends : ∀ results, next results = .done (final results))
    (came : GroupAt stage (.start s task) group final s schedule m) (turned : m.turn outside place = some later) :
    GroupAt stage (.start s task) group final s (schedule ++ [place]) later := by
  cases came with
  | waiting =>
    cases place with
    | nil =>
      obtain rfl := (Option.some.inj turned).symm.trans starts
      exact .together ⟨fresh, fun _ member => absurd member List.not_mem_nil, fun _ member =>
        .inl (List.mem_singleton.1 member)⟩ rfl
    | cons i rest => cases turned
  | together all once =>
    rcases awaits.turn turned with ⟨rfl, each, ended, rfl⟩ | ⟨i, rest, part, rfl, went, rfl⟩
    · have finished := funext fun i => (keeps i).ended (all.each i) (ended i)
      subst finished
      rw [ends]
      refine .finished all.own ?_
      rw [List.count_append, once]
      rfl
    · obtain ⟨rfl, same, kept⟩ := all.turn keeps went
      obtain ⟨after, grown, running⟩ := part
      obtain rfl : after = s := same
      have own : stage i running (eventsAt [i.val] grown) ((schedule ++ [[i.val]]).count [i.val]) := by
        have staged := kept.each i
        rw [Function.update_self] at staged
        exact staged
      rw [Moment.within, awaits.kept _ _ _ fun result => well own]
      refine .together kept ?_
      rw [List.count_append, once]
      rfl
  | finished => exact absurd turned (by rw [Moment.turn, Running.beside_ended]; simp)

/-- A task that only starts a group whose tasks keep to themselves ends, and then each of them has ended. -/
theorem ends_group (awaits : Awaits outside s fine group grown next)
    (starts : task.advance [] s [] = ⟨s, [], group fun i => .ready (tasks i)⟩)
    (fresh : ∀ i, stage i (.ready (tasks i)) [] 0) (keeps : ∀ i, Keeps outside s i.val (limit i) (stage i))
    (well : ∀ {i part own turns result}, stage i part own turns → part.result? = some result → fine result)
    (ends : ∀ results, next results = .done (final results)) :
    Moment.Ends outside (.start s task) (∑ i, limit i + 2) fun result history =>
      ∃ each : Fin n → γ, result = final (List.ofFn each) ∧
        (∀ i : Fin n, ∃ turns, stage i (.ended (each i)) (eventsAt [i.val] history) turns) ∧
        ∀ event ∈ history, ∃ i : Fin n, event.place = [i.val] := by
  refine Moment.ends_of_keeps (P := GroupAt stage (.start s task) group final s) .waiting
    (GroupAt.turn awaits starts fresh keeps well ends) ?_ ?_ ?_
  · rintro schedule m (_ | ⟨all, once⟩ | ⟨all, twice⟩)
    · simp
    · have few := all.length_le keeps
      omega
    · have few := all.length_le keeps
      omega
  · rintro schedule m (_ | ⟨all, once⟩ | ⟨all, twice⟩) alive
    · exact ⟨[], rfl⟩
    · -- Either some task of the group can have a turn, or the one that started it can.
      rename_i parts history
      by_cases every : ∀ i, (parts i).result? ≠ none
      · refine ⟨[], ?_⟩
        rw [Moment.turn, awaits.own, Option.isSome_map]
        exact Running.results?_isSome every
      · obtain ⟨i, going⟩ := not_forall.1 every
        refine ⟨[i.val], ?_⟩
        rw [Moment.turn, awaits.part, Option.isSome_map]
        exact (keeps i).goesOn (all.each i) (not_not.1 going) history
    · cases alive
  · rintro schedule m result (_ | ⟨all, once⟩ | ⟨all, twice⟩) ended
    · cases ended
    · exact absurd ended (by rw [awaits.alive]; simp)
    · cases ended
      exact ⟨_, rfl, fun i => ⟨_, all.each i⟩, all.events⟩

end Group

/-! ### Tasks that make one call at most -/

section Brief

variable {s : σ} {outside : Outside κ α} {task : Task σ κ α γ} {c : κ} {ends : α c → γ} {result : γ}

/-- A task that ends without waiting and without a change of the state. -/
def EndsAtOnce (s : σ) (task : Task σ κ α γ) (result : γ) : Prop :=
  ∀ place history, task.advance place s history = ⟨s, history, .ended result⟩

/-- A task that makes one call and ends with what the answer says. -/
def AsksOnce (s : σ) (task : Task σ κ α γ) (c : κ) (ends : α c → γ) : Prop :=
  ∃ next : α c → Task σ κ α γ,
    (∀ place history, task.advance place s history = ⟨s, history ++ [.issued place c], .called c next⟩) ∧
    ∀ answer, EndsAtOnce s (next answer) (ends answer)

theorem EndsAtOnce.bind_asks {f : γ → Task σ κ α β} {ends : α c → β} (atOnce : EndsAtOnce s task result)
    (asks : AsksOnce s (f result) c ends) : AsksOnce s (task.bind f) c ends := by
  obtain ⟨next, calls, rest⟩ := asks
  refine ⟨next, fun place history => ?_, rest⟩
  rw [advance_bind_ended (atOnce place history), calls]

theorem AsksOnce.bind {f : γ → Task σ κ α β} {more : α c → β} (asks : AsksOnce s task c ends)
    (rest : ∀ answer, EndsAtOnce s (f (ends answer)) (more answer)) : AsksOnce s (task.bind f) c more := by
  obtain ⟨next, calls, ended⟩ := asks
  refine ⟨fun answer => (next answer).bind f, fun place history => ?_, fun answer place history => ?_⟩
  · rw [advance_bind_called (calls place history)]
  · rw [advance_bind_ended (ended answer place history), rest]

/-- What a task does that makes one call at most. -/
inductive Plan (κ : Type) (α : κ → Type) (γ : Type) where
  | rest (result : γ)
  | ask (c : κ) (ends : α c → γ)

def Follows (s : σ) (task : Task σ κ α γ) : Plan κ α γ → Prop
  | .rest result => EndsAtOnce s task result
  | .ask c ends => AsksOnce s task c ends

/-- What a plan comes to at a place, and what happens there. -/
inductive Plan.ComesTo (outside : Outside κ α) (place : Place) : Plan κ α γ → γ → List (Event κ α) → Prop
  | rest {result : γ} : ComesTo outside place (.rest result) result []
  | ask {c : κ} {ends : α c → γ} (before : List (Event κ α)) :
    ComesTo outside place (.ask c ends) (ends (outside before place c))
      [.issued place c, .answered place c (outside before place c)]

/-- The stages of a task that follows a plan. -/
inductive PlanAt (outside : Outside κ α) (s : σ) (place : Place) (task : Task σ κ α γ) : Plan κ α γ → Stage σ κ α γ
  | fresh {plan : Plan κ α γ} : PlanAt outside s place task plan (.ready task) [] 0
  | asked {c : κ} {ends : α c → γ} {next : α c → Task σ κ α γ} (rest : ∀ answer, EndsAtOnce s (next answer) (ends answer)) :
    PlanAt outside s place task (.ask c ends) (.called c next) [.issued place c] 1
  | told {c : κ} {ends : α c → γ} {next : Task σ κ α γ} (before : List (Event κ α))
    (rest : EndsAtOnce s next (ends (outside before place c))) :
    PlanAt outside s place task (.ask c ends) (.ready next)
      [.issued place c, .answered place c (outside before place c)] 2
  | finished {plan : Plan κ α γ} {result : γ} {own : List (Event κ α)} {turns : Nat} (few : turns ≤ 3)
    (comes : plan.ComesTo outside place result own) : PlanAt outside s place task plan (.ended result) own turns

theorem Follows.keeps {plan : Plan κ α γ} (follows : Follows s task plan) (i : Nat) :
    Keeps outside s i 3 (PlanAt outside s [i] task plan) where
  turn {part turns place history m} stage turned := by
    generalize eventsAt [i] history = own at stage ⊢
    have silent : history = history ++ [] := (List.append_nil _).symm
    have nothing : ∀ event ∈ ([] : List (Event κ α)), event.place = [i] := fun _ member => absurd member List.not_mem_nil
    cases place with
    | cons j rest => cases stage <;> cases turned
    | nil =>
      refine ⟨rfl, ?_⟩
      cases stage with
      | fresh =>
        have went := (Option.some.inj turned).symm
        cases plan with
        | rest result =>
          obtain rfl := went.trans (follows _ _)
          exact ⟨rfl, [], silent, nothing, .finished (by omega) .rest⟩
        | ask c ends =>
          obtain ⟨next, calls, rest⟩ := follows
          obtain rfl := went.trans (calls _ _)
          exact ⟨rfl, _, rfl, fun _ member => List.mem_singleton.1 member ▸ rfl, .asked rest⟩
      | asked rest =>
        cases turned
        exact ⟨rfl, _, rfl, fun _ member => List.mem_singleton.1 member ▸ rfl, .told history (rest _)⟩
      | told before rest =>
        obtain rfl := (Option.some.inj turned).symm.trans (rest _ _)
        exact ⟨rfl, [], silent, nothing, .finished le_rfl (.ask before)⟩
      | finished => cases turned
  limit stage := by
    cases stage with
    | finished few => exact few
    | _ => omega
  goesOn stage alive history := by
    cases stage with
    | finished => cases alive
    | _ => rfl
  ended stage result := by
    cases stage with
    | finished =>
      cases result
      rfl
    | _ => cases result

/-- A task that only starts a group of tasks with plans ends, and then each plan was followed to its end. -/
theorem ends_settled_plans {n : Nat} {whole : Task σ κ α β} {tasks : Fin n → Task σ κ α γ}
    {next : List γ → Task σ κ α β} {final : List γ → β} {plan : Fin n → Plan κ α γ}
    (starts : whole.advance [] s [] = ⟨s, [], .settling n (fun i => .ready (tasks i)) next⟩)
    (follows : ∀ i, Follows s (tasks i) (plan i)) (ends : ∀ results, next results = .done (final results)) :
    Moment.Ends outside (.start s whole) (n * 3 + 2) fun result history =>
      ∃ each : Fin n → γ, result = final (List.ofFn each) ∧
        (∀ i : Fin n, (plan i).ComesTo outside [i.val] (each i) (eventsAt [i.val] history)) ∧
        ∀ event ∈ history, ∃ i : Fin n, event.place = [i.val] := by
  refine (ends_group awaits_settling starts (fun i => .fresh) (fun i => (follows i).keeps i.val) (fun _ _ => trivial)
    ends).mono ?_ ?_
  · simp
  rintro result history ⟨each, same, stages, events⟩
  refine ⟨each, same, fun i => ?_, events⟩
  obtain ⟨turns, stage⟩ := stages i
  generalize plan i = own at stage ⊢
  generalize eventsAt [i.val] history = happened at stage ⊢
  cases stage with
  | finished few comes => exact comes

end Brief

end RecordStore.Task
