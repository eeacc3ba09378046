import RecordStore.Proofs.Store.Groups

/-!
# Calls in progress

Which calls are still in progress at a moment of a run, and tasks that leave none behind: when they have ended, all that
they started has ended. A group that ends with the first failure may leave others going on, so a task that waits for such a
group leaves nothing behind only if nothing in it failed.
-/

namespace RecordStore.Task

variable {σ κ : Type} {α : κ → Type} {β γ ε : Type} {outside : Outside κ α} {here place : Place} {c : κ} {s : σ}
  {history more : List (Event κ α)}

/-- A call that was made and is not answered yet. -/
def InProgress (place : Place) (c : κ) (history : List (Event κ α)) : Prop :=
  ∃ before after, history = before ++ .issued place c :: after ∧ ∀ answer, .answered place c answer ∉ after

theorem inProgress_nil : ¬ InProgress place c ([] : List (Event κ α)) := by
  rintro ⟨before, after, none, _⟩
  exact List.append_ne_nil_of_right_ne_nil before (List.cons_ne_nil _ after) none.symm

/-- A call in progress was made just now, or it was in progress before and is not answered now. -/
theorem InProgress.of_append (progress : InProgress place c (history ++ more)) :
    .issued place c ∈ more ∨ InProgress place c history ∧ ∀ answer, .answered place c answer ∉ more := by
  obtain ⟨before, after, same, unanswered⟩ := progress
  obtain ⟨middle, rfl, rest⟩ | ⟨middle, rfl, rest⟩ := List.append_eq_append_iff.1 same
  · exact .inl (rest ▸ List.mem_append_right middle List.mem_cons_self)
  · cases middle with
    | nil =>
      rw [List.nil_append] at rest
      exact .inl (rest ▸ List.mem_cons_self)
    | cons event middle =>
      obtain ⟨rfl, rfl⟩ := List.cons.inj rest
      refine .inr ⟨⟨before, middle, rfl, fun answer member => ?_⟩, fun answer member => ?_⟩
      · exact unanswered answer (List.mem_append_left _ member)
      · exact unanswered answer (List.mem_append_right _ member)

namespace Running

/-- The task at a place below the given one waits for the answer to a call. -/
def Awaits : {β : Type} → Running σ κ α β → Place → Place → κ → Prop
  | _, called c _, here, place, asked => place = here ∧ asked = c
  | _, settling n parts _, here, place, asked => ∃ i : Fin n, (parts i).Awaits (here ++ [i.val]) place asked
  | _, joining n parts _ _, here, place, asked => ∃ i : Fin n, (parts i).Awaits (here ++ [i.val]) place asked
  | _, beside n parts rest, here, place, asked =>
    (∃ i : Fin n, (parts i).Awaits (here ++ [i.val]) place asked) ∨ rest.Awaits (here ++ [n]) place asked
  | _, _, _, _, _ => False

/-- What is waited for after something has happened: what was waited for before and is not answered, and what was asked. -/
structure Follows (now old : Place → κ → Prop) (more : List (Event κ α)) : Prop where
  kept : ∀ {place c}, old place c → (∀ answer, .answered place c answer ∉ more) → now place c
  new : ∀ {place c}, .issued place c ∈ more → now place c

theorem Follows.update {n : Nat} {parts : Fin n → Running σ κ α γ} {i : Fin n} {part : Running σ κ α γ}
    (follows : Follows (part.Awaits (here ++ [i.val])) ((parts i).Awaits (here ++ [i.val])) more) :
    Follows (fun place c => ∃ j : Fin n, (Function.update parts i part j).Awaits (here ++ [j.val]) place c)
      (fun place c => ∃ j : Fin n, (parts j).Awaits (here ++ [j.val]) place c) more where
  kept := by
    rintro place c ⟨j, awaits⟩ unanswered
    refine ⟨j, ?_⟩
    by_cases own : j = i
    · subst own
      rw [Function.update_self]
      exact follows.kept awaits unanswered
    · rw [Function.update_of_ne own]
      exact awaits
  new issued := ⟨i, by
    rw [Function.update_self]
    exact follows.new issued⟩

end Running

theorem advance_follows (task : Task σ κ α β) :
    ∃ more, (task.advance here s history).history = history ++ more ∧
      Running.Follows ((task.advance here s history).running.Awaits here) (fun _ _ => False) more := by
  induction task generalizing s with
  | done => exact ⟨[], (List.append_nil _).symm, nofun, nofun⟩
  | look next ih => exact ih s
  | change t next ih => exact ih
  | note entry next ih => exact ih
  | call c next =>
    refine ⟨[.issued here c], rfl, nofun, fun {place asked} member => ?_⟩
    cases List.mem_singleton.1 member
    exact ⟨rfl, rfl⟩
  | wait free next ih =>
    rw [advance]
    split
    · exact ih
    · exact ⟨[], (List.append_nil _).symm, nofun, nofun⟩
  | settle => exact ⟨[], (List.append_nil _).symm, nofun, nofun⟩
  | join => exact ⟨[], (List.append_nil _).symm, nofun, nofun⟩

/-- A task that goes on after a group leaves the group beside it as it is. -/
theorem Running.resumed_follows {n : Nat} (parts : Fin n → Running σ κ α γ) (task : Task σ κ α β) :
    ∃ more, (task.advance (here ++ [n]) s history).history = history ++ more ∧
      Follows ((beside n parts (task.advance (here ++ [n]) s history).running).Awaits here)
        (fun place c => ∃ i : Fin n, (parts i).Awaits (here ++ [i.val]) place c) more := by
  obtain ⟨more, grown, follows⟩ := @advance_follows _ _ _ _ (here ++ [n]) s history task
  exact ⟨more, grown, fun awaits _ => .inl awaits, fun issued => .inr (follows.new issued)⟩

theorem Running.Turned.follows {running : Running σ κ α β} {m : Moment σ κ α β}
    (turned : Turned outside s history here place running m) :
    ∃ more, m.history = history ++ more ∧ Follows (m.running.Awaits here) (running.Awaits here) more := by
  induction turned with
  | ready | freed =>
    obtain ⟨more, grown, follows⟩ := advance_follows _
    exact ⟨more, grown, fun awaits _ => False.elim awaits, follows.new⟩
  | @answered _ here c next =>
    refine ⟨[.answered here c (outside history here c)], rfl, ?_, fun issued => ?_⟩
    · rintro place asked ⟨rfl, rfl⟩ unanswered
      exact absurd List.mem_cons_self (unanswered _)
    · cases List.mem_singleton.1 issued
  | settled | failed | joined => exact resumed_follows _ _
  | settling _ ih | joining _ ih =>
    obtain ⟨more, grown, follows⟩ := ih
    exact ⟨more, grown, follows.update⟩
  | beside _ ih =>
    obtain ⟨more, grown, follows⟩ := ih
    have group := follows.update
    refine ⟨more, grown, fun awaits unanswered => ?_, fun issued => .inl (group.new issued)⟩
    exact awaits.imp (group.kept · unanswered) id
  | after _ ih =>
    obtain ⟨more, grown, follows⟩ := ih
    refine ⟨more, grown, fun awaits unanswered => ?_, fun issued => .inr (follows.new issued)⟩
    exact awaits.imp id (follows.kept · unanswered)

theorem Moment.awaits_turn {m later : Moment σ κ α β}
    (awaited : ∀ {place c}, InProgress place c m.history → m.running.Awaits [] place c)
    (turned : m.turn outside place = some later) :
    ∀ {place c}, InProgress place c later.history → later.running.Awaits [] place c := by
  intro asked c progress
  obtain ⟨more, grown, follows⟩ := (Running.turned_of_turn turned).follows
  rw [grown] at progress
  obtain new | ⟨old, unanswered⟩ := progress.of_append
  · exact follows.new new
  · exact follows.kept (awaited old) unanswered

/-- Every call in progress is waited for by the task that made it. -/
theorem Moment.awaits_of_inProgress {task : Task σ κ α β} {schedule : List Place} {m : Moment σ κ α β}
    (played : (Moment.start s task).play outside schedule = some m) :
    ∀ {place c}, InProgress place c m.history → m.running.Awaits [] place c :=
  play_induction (P := fun _ m => ∀ {place c}, InProgress place c m.history → m.running.Awaits [] place c)
    (fun progress => absurd progress inProgress_nil) (fun awaited turned => awaits_turn awaited turned) played

/-! ### Tasks that leave nothing behind -/

/-- A task that leaves nothing behind, except with certain results. -/
inductive Tidy : {β : Type} → (β → Prop) → Task σ κ α β → Prop
  | done {β : Type} {lax : β → Prop} {result : β} : Tidy lax (.done result)
  | look {β : Type} {lax : β → Prop} {next : σ → Task σ κ α β} (rest : ∀ s, Tidy lax (next s)) : Tidy lax (.look next)
  | change {β : Type} {lax : β → Prop} {s : σ} {next : Task σ κ α β} (rest : Tidy lax next) : Tidy lax (.change s next)
  | note {β : Type} {lax : β → Prop} {entry : Log.Entry} {next : Task σ κ α β} (rest : Tidy lax next) :
    Tidy lax (.note entry next)
  | call {β : Type} {lax : β → Prop} {c : κ} {next : α c → Task σ κ α β} (rest : ∀ answer, Tidy lax (next answer)) :
    Tidy lax (.call c next)
  | wait {β : Type} {lax : β → Prop} {free : σ → Bool} {next : Task σ κ α β} (rest : Tidy lax next) :
    Tidy lax (.wait free next)
  | settle {β γ : Type} {lax : β → Prop} {n : Nat} {tasks : Fin n → Task σ κ α γ} {next : List γ → Task σ κ α β}
    (parts : ∀ i, Tidy (fun _ => False) (tasks i)) (rest : ∀ results, Tidy lax (next results)) :
    Tidy lax (.settle n tasks next)
  /-- After the first failure the others go on, so the task has to end at once. -/
  | join {β γ ε : Type} {lax : β → Prop} {n : Nat} {tasks : Fin n → Task σ κ α (Except ε γ)}
    {next : Except ε (List γ) → Task σ κ α β} (parts : ∀ i, Tidy (fun _ => False) (tasks i))
    (fails : ∀ e, ∃ result, next (.error e) = .done result ∧ lax result)
    (rest : ∀ results, Tidy lax (next (.ok results))) : Tidy lax (.join n tasks next)

theorem Tidy.mono {lax laxer : β → Prop} {task : Task σ κ α β} (tidy : Tidy lax task)
    (implies : ∀ result, lax result → laxer result) : Tidy laxer task := by
  induction tidy with
  | done => exact .done
  | look _ ih => exact .look fun s => ih s implies
  | change _ ih => exact .change (ih implies)
  | note _ ih => exact .note (ih implies)
  | call _ ih => exact .call fun answer => ih answer implies
  | wait _ ih => exact .wait (ih implies)
  | settle parts _ _ ih => exact .settle parts fun results => ih results implies
  | join parts fails _ _ ih =>
    refine .join parts (fun e => ?_) fun results => ih results implies
    obtain ⟨result, ends, bad⟩ := fails e
    exact ⟨result, ends, implies result bad⟩

theorem Tidy.bind {lax : γ → Prop} {laxer : β → Prop} {task : Task σ κ α γ} {f : γ → Task σ κ α β} (tidy : Tidy lax task)
    (fails : ∀ result, lax result → ∃ last, f result = .done last ∧ laxer last)
    (rest : ∀ result, Tidy laxer (f result)) : Tidy laxer (task.bind f) := by
  induction tidy with
  | done => exact rest _
  | look _ ih => exact .look fun s => ih s fails rest
  | change _ ih => exact .change (ih fails rest)
  | note _ ih => exact .note (ih fails rest)
  | call _ ih => exact .call fun answer => ih answer fails rest
  | wait _ ih => exact .wait (ih fails rest)
  | settle parts _ _ ih => exact .settle parts fun results => ih results fails rest
  | join parts ends _ _ ih =>
    refine .join parts (fun e => ?_) fun results => ih results fails rest
    obtain ⟨result, same, bad⟩ := ends e
    rw [same]
    exact fails result bad

namespace Running

/-- What has ended with all that it started. -/
inductive Over : {β : Type} → Running σ κ α β → Prop
  | ended {β : Type} {result : β} : Over (.ended result)
  | beside {β γ : Type} {n : Nat} {parts : Fin n → Running σ κ α γ} {rest : Running σ κ α β}
    (each : ∀ i, Over (parts i)) (last : Over rest) : Over (.beside n parts rest)

theorem Over.not_turned {running : Running σ κ α β} {m : Moment σ κ α β} (past : Over running) :
    ¬ Turned outside s history here place running m := by
  intro turned
  induction turned with
  | beside _ ih =>
    cases past with
    | beside each _ => exact ih (each _)
  | after _ ih =>
    cases past with
    | beside _ last => exact ih last
  | _ => cases past

theorem Over.no_turn {running : Running σ κ α β} (past : Over running) :
    running.turn outside here place s history = none :=
  Option.eq_none_iff_forall_ne_some.2 fun _ went => past.not_turned (turned_of_turn went)

theorem Over.not_awaits {running : Running σ κ α β} (past : Over running) : ¬ running.Awaits here place c := by
  induction past generalizing here with
  | ended => exact id
  | beside each last ih lastIh =>
    rintro (⟨i, awaits⟩ | awaits)
    · exact ih i awaits
    · exact lastIh awaits

/-- What a task that leaves nothing behind looks like while it runs. -/
inductive Neat : {β : Type} → (β → Prop) → Running σ κ α β → Prop
  | ready {β : Type} {lax : β → Prop} {task : Task σ κ α β} (tidy : Tidy lax task) : Neat lax (.ready task)
  | called {β : Type} {lax : β → Prop} {c : κ} {next : α c → Task σ κ α β} (rest : ∀ answer, Tidy lax (next answer)) :
    Neat lax (.called c next)
  | waiting {β : Type} {lax : β → Prop} {free : σ → Bool} {next : Task σ κ α β} (rest : Tidy lax next) :
    Neat lax (.waiting free next)
  | settling {β γ : Type} {lax : β → Prop} {n : Nat} {parts : Fin n → Running σ κ α γ} {next : List γ → Task σ κ α β}
    (each : ∀ i, Neat (fun _ => False) (parts i)) (rest : ∀ results, Tidy lax (next results)) :
    Neat lax (.settling n parts next)
  | joining {β γ ε : Type} {lax : β → Prop} {n : Nat} {parts : Fin n → Running σ κ α (Except ε γ)} {first : Option ε}
    {next : Except ε (List γ) → Task σ κ α β} (each : ∀ i, Neat (fun _ => False) (parts i))
    (fails : ∀ e, ∃ result, next (.error e) = .done result ∧ lax result)
    (rest : ∀ results, Tidy lax (next (.ok results))) : Neat lax (.joining n parts first next)
  | beside {β γ : Type} {lax : β → Prop} {n : Nat} {parts : Fin n → Running σ κ α γ} {rest : Running σ κ α β}
    (past : ∀ i, Over (parts i)) (neat : Neat lax rest) : Neat lax (.beside n parts rest)
  | abandoned {β γ : Type} {lax : β → Prop} {n : Nat} {parts : Fin n → Running σ κ α γ} {result : β} (bad : lax result) :
    Neat lax (.beside n parts (.ended result))
  | ended {β : Type} {lax : β → Prop} {result : β} : Neat lax (.ended result)

theorem Neat.is_over {lax : β → Prop} {running : Running σ κ α β} {result : β} (neat : Neat lax running)
    (ended : running.result? = some result) : Over running ∨ lax result := by
  induction neat with
  | beside each neat ih => exact (ih ended).imp (.beside each) id
  | abandoned bad =>
    cases ended
    exact .inr bad
  | ended => exact .inl .ended
  | _ => cases ended

theorem Neat.over_of_results {n : Nat} {parts : Fin n → Running σ κ α γ} {results : List γ}
    (neat : ∀ i, Neat (fun _ => False) (parts i)) (all : results? parts = some results) (i : Fin n) : Over (parts i) := by
  obtain ⟨each, ended, _⟩ := results?_some all
  exact ((neat i).is_over (ended i)).resolve_right id

end Running

theorem forall_update {n : Nat} {P : Running σ κ α γ → Prop} {parts : Fin n → Running σ κ α γ} {i : Fin n}
    {part : Running σ κ α γ} (each : ∀ j, P (parts j)) (own : P part) (j : Fin n) : P (Function.update parts i part j) := by
  by_cases same : j = i
  · rw [same, Function.update_self]
    exact own
  · rw [Function.update_of_ne same]
    exact each j

theorem Tidy.advance {lax : β → Prop} {task : Task σ κ α β} (tidy : Tidy lax task) :
    ∀ s, (task.advance here s history).running.Neat lax := by
  induction tidy with
  | done => exact fun _ => .ended
  | look _ ih => exact fun s => ih s s
  | change _ ih => exact fun _ => ih _
  | note _ ih => exact ih
  | call rest => exact fun _ => .called rest
  | wait rest ih =>
    intro s
    rw [Task.advance]
    split
    · exact ih s
    · exact .waiting rest
  | settle parts rest => exact fun _ => .settling (fun i => .ready (parts i)) rest
  | join parts fails rest => exact fun _ => .joining (fun i => .ready (parts i)) fails rest

theorem Running.Neat.abandoned_of_failed {lax : β → Prop} {n : Nat} {parts : Fin n → Running σ κ α (Except ε γ)}
    {next : Except ε (List γ) → Task σ κ α β} (fails : ∀ e, ∃ result, next (.error e) = .done result ∧ lax result) (e : ε) :
    Neat lax (.beside n parts ((next (.error e)).advance place s history).running) := by
  obtain ⟨result, ends, bad⟩ := fails e
  rw [ends]
  exact .abandoned bad

theorem Running.Turned.neat {lax : β → Prop} {running : Running σ κ α β} {m : Moment σ κ α β}
    (turned : Turned outside s history here place running m) (neat : running.Neat lax) : m.running.Neat lax := by
  induction turned with
  | ready =>
    cases neat with
    | ready tidy => exact tidy.advance s
  | answered =>
    cases neat with
    | called rest => exact .ready (rest _)
  | freed =>
    cases neat with
    | waiting rest => exact rest.advance s
  | settled all =>
    cases neat with
    | settling each rest => exact .beside (Neat.over_of_results each all) ((rest _).advance s)
  | failed =>
    cases neat with
    | joining each fails rest => exact .abandoned_of_failed fails _
  | @joined _ _ _ _ _ _ _ results all =>
    cases neat with
    | joining each fails rest =>
      cases whole : results.mapM id with
      | error e => exact .abandoned_of_failed fails e
      | ok values => exact .beside (Neat.over_of_results each all) ((rest values).advance s)
  | settling _ ih =>
    cases neat with
    | settling each rest => exact .settling (forall_update each (ih (each _))) rest
  | joining _ ih =>
    cases neat with
    | joining each fails rest => exact .joining (forall_update each (ih (each _))) fails rest
  | beside turned ih =>
    cases neat with
    -- In what is over no task has a turn.
    | beside past => exact absurd turned (past _).not_turned
    | abandoned bad => exact .abandoned bad
  | after turned ih =>
    cases neat with
    | beside past neat => exact .beside past (ih neat)
    | abandoned => exact absurd turned Over.ended.not_turned

/-- Where a task that leaves nothing behind has ended, no call is in progress and none will be. -/
theorem Moment.nothing_left {lax : β → Prop} {task : Task σ κ α β} (tidy : Tidy lax task) {schedule : List Place}
    {m : Moment σ κ α β} {result : β} (played : (Moment.start s task).play outside schedule = some m)
    (ended : m.running.result? = some result) : (∀ place c, ¬ InProgress place c m.history) ∨ lax result := by
  have neat : m.running.Neat lax := play_induction (P := fun _ m => m.running.Neat lax) (.ready tidy)
    (fun neat turned => (Running.turned_of_turn turned).neat neat) played
  exact (neat.is_over ended).imp (fun past place c progress => past.not_awaits (awaits_of_inProgress played progress)) id

end RecordStore.Task
