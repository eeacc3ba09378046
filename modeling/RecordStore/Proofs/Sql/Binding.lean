import RecordStore.Sql.Binding

/-!
# Runs of binding

How a run of several steps is taken apart into the runs of its steps, and what every successful run yields.
-/

namespace RecordStore.Sql.Binding

variable {α β : Type} {values after : ParameterList}

theorem runFrom_bind (build : Binding α) (f : α → Binding β) (values : ParameterList) :
    (build >>= f).runFrom values =
      match build.runFrom values with
      | (.ok a, after) => (f a).runFrom after
      | (.error e, after) => (.error e, after) := by
  unfold runFrom
  rw [ExceptT.run_bind, StateT.run_bind]
  rcases (ExceptT.run build).run values with ⟨result, after⟩
  cases result <;> rfl

theorem runFrom_bind_of_ok {build : Binding α} {a : α} (h : build.runFrom values = (.ok a, after)) (f : α → Binding β) :
    (build >>= f).runFrom values = (f a).runFrom after := by
  rw [runFrom_bind, h]

theorem bind_runFrom_ok {build : Binding α} {f : α → Binding β} {b : β}
    (h : (build >>= f).runFrom values = (.ok b, after)) :
    ∃ a middle, build.runFrom values = (.ok a, middle) ∧ (f a).runFrom middle = (.ok b, after) := by
  rw [runFrom_bind] at h
  rcases ran : build.runFrom values with ⟨result, middle⟩
  rw [ran] at h
  cases result with
  | error e => cases h
  | ok a => exact ⟨a, middle, rfl, h⟩

theorem pure_runFrom_ok {a b : α} (h : (pure a : Binding α).runFrom values = (.ok b, after)) :
    a = b ∧ values = after := by
  cases h
  exact ⟨rfl, rfl⟩

theorem outcome_runFrom_ok {result : Outcome α} {a : α} (h : (ofOutcome result).runFrom values = (.ok a, after)) :
    result = .ok a ∧ values = after := by
  cases result with
  | error e => cases h
  | ok b =>
    cases h
    exact ⟨rfl, rfl⟩

theorem adapter_runFrom_ok {result : Except AdapterError α} {a : α}
    (h : (liftM result : Binding α).runFrom values = (.ok a, after)) : result = .ok a ∧ values = after := by
  cases result with
  | error e => cases h
  | ok b =>
    cases h
    exact ⟨rfl, rfl⟩

theorem misuse_runFrom_ok {result : Except Misuse α} {a : α}
    (h : (liftM result : Binding α).runFrom values = (.ok a, after)) : result = .ok a ∧ values = after := by
  cases result with
  | error e => cases h
  | ok b =>
    cases h
    exact ⟨rfl, rfl⟩

theorem mapM_runs {f : α → Binding β} {as : List α} (each : ∀ a ∈ as, ∀ values, ∃ b after, (f a).runFrom values = (.ok b, after))
    (values : ParameterList) : ∃ bs after, (as.mapM f).runFrom values = (.ok bs, after) := by
  induction as generalizing values with
  | nil => exact ⟨[], values, rfl⟩
  | cons a rest ih =>
    obtain ⟨b, middle, first⟩ := each a List.mem_cons_self values
    obtain ⟨bs, after, more⟩ := ih (fun a member => each a (List.mem_cons_of_mem _ member)) middle
    refine ⟨b :: bs, after, ?_⟩
    rw [List.mapM_cons, runFrom_bind_of_ok first, runFrom_bind_of_ok more]
    rfl

/-! ### What is yielded -/

/-- Every successful run yields what fits. -/
def Yields (fits : α → Prop) (build : Binding α) : Prop :=
  ∀ values a after, build.runFrom values = (.ok a, after) → fits a

section Yields
variable {fits : α → Prop} {suits : β → Prop}

theorem yields_pure {a : α} (h : fits a) : Yields fits (pure a) := by
  intro values b after ran
  obtain ⟨rfl, _⟩ := pure_runFrom_ok ran
  exact h

theorem yields_bind {build : Binding α} {f : α → Binding β} (first : Yields fits build)
    (next : ∀ a, fits a → Yields suits (f a)) : Yields suits (build >>= f) := by
  intro values b after ran
  obtain ⟨a, middle, ranFirst, ranNext⟩ := bind_runFrom_ok ran
  exact next a (first values a middle ranFirst) middle b after ranNext

theorem yields_any (build : Binding α) : Yields (fun _ => True) build := fun _ _ _ _ => trivial

theorem yields_mapM {f : α → Binding β} {as : List α} (h : ∀ a ∈ as, Yields suits (f a)) :
    Yields (fun bs => ∀ b ∈ bs, suits b) (as.mapM f) := by
  induction as with
  | nil => exact yields_pure (by simp)
  | cons a rest ih =>
    rw [List.mapM_cons]
    refine yields_bind (h a List.mem_cons_self) fun b fit => ?_
    refine yields_bind (ih fun a ha => h a (List.mem_cons_of_mem _ ha)) fun bs fitting => ?_
    exact yields_pure (by simpa using ⟨fit, fitting⟩)

end Yields

/-! ### Lists that only grow -/

/-- A run keeps the values that are bound before it where they are, also when it fails. -/
def Extends (build : Binding α) : Prop := ∀ values, values <+: (build.runFrom values).2

theorem extends_pure (a : α) : Extends (pure a) := fun values => List.prefix_refl values

theorem extends_bind {build : Binding α} {f : α → Binding β} (first : Extends build) (next : ∀ a, Extends (f a)) :
    Extends (build >>= f) := by
  intro values
  have grown := first values
  rw [runFrom_bind]
  rcases ran : build.runFrom values with ⟨result, middle⟩
  rw [ran] at grown
  cases result with
  | error e => exact grown
  | ok a => exact grown.trans (next a middle)

theorem extends_outcome (result : Outcome α) : Extends (ofOutcome result) := by
  intro values
  cases result <;> exact List.prefix_refl values

theorem extends_adapter (result : Except AdapterError α) : Extends (liftM result) := extends_outcome (liftM result)

theorem extends_misuse (result : Except Misuse α) : Extends (liftM result) := extends_outcome (liftM result)

theorem extends_slot (v : Value) (cast : String) : Extends (Sql.bind v cast) :=
  fun values => List.prefix_append values [v]

theorem extends_mapM {f : α → Binding β} (h : ∀ a, Extends (f a)) (as : List α) : Extends (as.mapM f) := by
  induction as with
  | nil => exact extends_pure []
  | cons a rest ih =>
    rw [List.mapM_cons]
    exact extends_bind (h a) fun b => extends_bind ih fun bs => extends_pure _

theorem extends_bindEncoded (v : Value) : Extends (bindEncoded v) :=
  extends_bind (extends_misuse _) fun stored => extends_slot stored _

theorem extends_bindElement (v : Value) : Extends (bindElement v) :=
  extends_bind (extends_misuse _) fun stored => extends_slot stored _

end RecordStore.Sql.Binding
