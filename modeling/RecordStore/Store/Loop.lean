import RecordStore.Store.Running

/-!
An event loop for tasks that only ever pause. Places where a task can go on stand in a queue; the task at the first of them
goes on until it has to wait. A task that waits for its group hears of its end first and goes on later.
-/

namespace RecordStore.Task

abbrev Pausing (σ : Type) := Task σ Unit fun _ => Unit

namespace Pausing

variable {σ β γ : Type}

abbrev Paused (σ β : Type) := Running σ Unit (fun _ => Unit) β

def pause : Pausing σ Unit := perform ()

/-- How far a task gets without having to wait. -/
def proceed : {β : Type} → Pausing σ β → σ → σ × Paused σ β
  | _, done result, s => (s, .ended result)
  | _, look next, s => proceed (next s) s
  | _, change s next, _ => proceed next s
  | _, note _ next, s => proceed next s
  | _, call c next, s => (s, .called c next)
  | _, wait free next, s => if free s then proceed next s else (s, .waiting free next)
  | _, settle n tasks next, s => (s, .settling n (fun i => .ready (tasks i)) next)
  | _, join n tasks next, s => (s, .joining n (fun i => .ready (tasks i)) none next)

def put {n : Nat} (parts : Fin n → Paused σ γ) (i : Fin n) (part : Paused σ γ) : Fin n → Paused σ γ :=
  fun j => if j = i then part else parts j

/-- What becomes of the state and of all tasks when the one at a place goes on. -/
def goOn : {β : Type} → Paused σ β → Place → σ → Option (σ × Paused σ β)
  | _, .ready task, [], s => some (proceed task s)
  | _, .called _ next, [], s => some (proceed (next ()) s)
  | _, .waiting free next, [], s => if free s then some (proceed next s) else none
  | _, .settling n parts next, [], s =>
    (Running.results? parts).map fun results => (proceed (next results) s).map id (.beside n parts)
  | _, .settling n parts next, i :: place, s =>
    if inside : i < n then
      (goOn (parts ⟨i, inside⟩) place s).map (.map id fun part => .settling n (put parts ⟨i, inside⟩ part) next)
    else none
  | _, .joining n parts (some e) next, [], s => some ((proceed (next (.error e)) s).map id (.beside n parts))
  | _, .joining n parts none next, [], s =>
    (Running.results? parts).map fun results => (proceed (next (results.mapM id)) s).map id (.beside n parts)
  | _, .joining n parts first next, i :: place, s =>
    if inside : i < n then
      (goOn (parts ⟨i, inside⟩) place s).map
        (.map id fun part => .joining n (put parts ⟨i, inside⟩ part) (first.or part.failure?) next)
    else none
  | _, .beside n parts rest, i :: place, s =>
    if inside : i < n then
      (goOn (parts ⟨i, inside⟩) place s).map (.map id fun part => .beside n (put parts ⟨i, inside⟩ part) rest)
    else if i = n then (goOn rest place s).map (.map id (.beside n parts))
    else none
  | _, _, _, _ => none

def places : {β : Type} → Paused σ β → Place → σ → List Place
  | _, .ready _, here, _ => [here]
  | _, .called .., here, _ => [here]
  | _, .waiting free _, here, s => if free s then [here] else []
  | _, .settling n parts _, here, s =>
    (if (Running.results? parts).isSome then [here] else []) ++
      (List.finRange n).flatMap fun i => places (parts i) (here ++ [i.val]) s
  | _, .joining n parts first _, here, s =>
    (if first.isSome || (Running.results? parts).isSome then [here] else []) ++
      (List.finRange n).flatMap fun i => places (parts i) (here ++ [i.val]) s
  | _, .beside n parts rest, here, s =>
    ((List.finRange n).flatMap fun i => places (parts i) (here ++ [i.val]) s) ++ places rest (here ++ [n]) s
  | _, .ended _, _, _ => []

inductive Notice where
  | go (place : Place)
  | hear (place : Place)

namespace Notice

def place : Notice → Place
  | go place => place
  | hear place => place

end Notice

structure Loop (σ β : Type) where
  state : σ
  running : Paused σ β
  queue : List Notice

namespace Loop

def start (s : σ) (task : Pausing σ β) : Loop σ β := ⟨s, .ready task, [.go []]⟩

/-- What a turn at a place adds to the queue: first who was let go on by a change of the state, then the task itself, the
group that it started, or the task that waits for its group. -/
def added (place : Place) (fresh : List Place) : List Notice :=
  let (own, others) := fresh.partition fun p => place.isPrefixOf p || p.isPrefixOf place
  others.map .go ++ own.map fun p => if p.length < place.length then .hear p else .go p

/-- The loop after the first notice in its queue. One for a place where no task can go on comes to nothing. -/
def step (loop : Loop σ β) : Option (Loop σ β) :=
  match loop.queue with
  | [] => none
  | .hear place :: rest => some { loop with queue := rest ++ [.go place] }
  | .go place :: rest =>
    match goOn loop.running place loop.state with
    | none => some { loop with queue := rest }
    | some (state, running) =>
      let fresh := (places running [] state).filter fun p => !rest.any (·.place == p)
      some ⟨state, running, rest ++ added place fresh⟩

end Loop
end Pausing
end RecordStore.Task
