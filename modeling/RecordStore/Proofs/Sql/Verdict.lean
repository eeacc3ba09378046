import RecordStore.Proofs.Sql.Binding

/-!
# Verdicts

A step that is refused with a schema error exactly when there is a certain fault, and otherwise comes to a result that fits.
Steps in a row are refused when one of them has its fault.
-/

namespace RecordStore

variable {α β ε : Type} {fault later other : Prop} {fits : α → Prop} {suits : β → Prop}

inductive Judged (fault : Prop) (fits : α → Prop) : Outcome α → Prop
  | accepted {a : α} (fine : ¬fault) (fit : fits a) : Judged fault fits (.ok a)
  | rejected {error : AdapterError} (faulty : fault) (schema : error.family = .schema) :
    Judged fault fits (.error (.ofError error))

namespace Judged

theorem bind {outcome : Outcome α} {f : α → Outcome β} (first : Judged fault fits outcome)
    (next : ∀ a, fits a → Judged later suits (f a)) : Judged (fault ∨ later) suits (outcome >>= f) := by
  cases first with
  | rejected faulty schema => exact .rejected (.inl faulty) schema
  | @accepted a fine fit =>
    have judged := next a fit
    change Judged _ _ (f a)
    generalize f a = outcome at judged ⊢
    cases judged with
    | rejected faulty schema => exact .rejected (.inr faulty) schema
    | accepted fineLater suit => exact .accepted (not_or.2 ⟨fine, fineLater⟩) suit

theorem of_iff {outcome : Outcome α} (judged : Judged fault fits outcome) (same : fault ↔ other) :
    Judged other fits outcome := by
  cases judged with
  | accepted fine fit => exact .accepted (fine ∘ same.2) fit
  | rejected faulty schema => exact .rejected (same.1 faulty) schema

theorem before {outcome : Outcome α} {f : α → Outcome β} (first : Judged False fits outcome)
    (next : ∀ a, fits a → Judged fault suits (f a)) : Judged fault suits (outcome >>= f) :=
  (first.bind next).of_iff (iff_of_eq (false_or fault))

theorem after {outcome : Outcome α} {f : α → Outcome β} (first : Judged fault fits outcome)
    (next : ∀ a, fits a → Judged False suits (f a)) : Judged fault suits (outcome >>= f) :=
  (first.bind next).of_iff (iff_of_eq (or_false fault))

theorem mono {outcome : Outcome α} {weaker : α → Prop} (judged : Judged fault fits outcome) (step : ∀ a, fits a → weaker a) :
    Judged fault weaker outcome := by
  cases judged with
  | accepted fine fit => exact .accepted fine (step _ fit)
  | rejected faulty schema => exact .rejected faulty schema

theorem map {outcome : Outcome α} {f : α → β} (judged : Judged fault fits outcome) (step : ∀ a, fits a → suits (f a)) :
    Judged fault suits (outcome.map f) := by
  cases judged with
  | accepted fine fit => exact .accepted fine (step _ fit)
  | rejected faulty schema => exact .rejected faulty schema

theorem rejected_iff {outcome : Outcome α} (judged : Judged fault fits outcome) :
    fault ↔ ∃ error, outcome = .error (.ofError error) ∧ error.family = .schema := by
  cases judged with
  | accepted fine _ => exact ⟨fun faulty => absurd faulty fine, nofun⟩
  | rejected faulty schema => exact ⟨fun _ => ⟨_, rfl, schema⟩, fun _ => faulty⟩

theorem accepts {outcome : Outcome α} (judged : Judged fault fits outcome) (fine : ¬fault) :
    ∃ a, outcome = .ok a ∧ fits a := by
  cases judged with
  | accepted _ fit => exact ⟨_, rfl, fit⟩
  | rejected faulty _ => exact absurd faulty fine

end Judged

theorem judged_pure {a : α} (fit : fits a) : Judged False fits (pure a) := .accepted id fit

theorem judged_misuse {result : Except Misuse α} {a : α} (h : result = .ok a) (fit : fits a) :
    Judged False fits (liftM result) := by
  rw [h]
  exact .accepted id fit

theorem judged_known {result : Except Misuse α} {a : α} {f : α → Outcome β} (h : result = .ok a)
    (next : Judged fault suits (f a)) : Judged fault suits ((liftM result : Outcome α) >>= f) := by
  rw [h]
  exact next

/-- What is refused is told as the error itself, as all of its details can be written. -/
theorem judged_refuse {error : AdapterError} (faulty : fault) (schema : error.family = .schema)
    (writable : error.details.all (·.2.isWritable)) : Judged fault fits (Outcome.refuse error) := by
  rw [Outcome.refuse, Failure.raising, if_pos writable]
  exact .rejected faulty schema

theorem judged_adapter_ok {result : Except AdapterError α} {a : α} (h : result = .ok a) (fine : ¬fault) (fit : fits a) :
    Judged fault fits (liftM result) := by
  rw [h]
  exact .accepted fine fit

theorem judged_adapter_error {result : Except AdapterError α} {error : AdapterError} (h : result = .error error)
    (faulty : fault) (schema : error.family = .schema) (writable : error.details.all (·.2.isWritable)) :
    Judged fault fits (liftM result) := by
  rw [h]
  exact judged_refuse faulty schema writable

theorem judged_mapM {fault : ε → Prop} {f : ε → Outcome β} {as : List ε}
    (each : ∀ a ∈ as, Judged (fault a) suits (f a)) :
    Judged (∃ a ∈ as, fault a) (fun bs => ∀ b ∈ bs, suits b) (as.mapM f) := by
  induction as with
  | nil => exact .accepted nofun nofun
  | cons a rest ih =>
    rw [List.mapM_cons]
    have others := ih fun b member => each b (List.mem_cons_of_mem _ member)
    refine ((each a List.mem_cons_self).bind fun b suit => others.after fun bs suiting => ?_).of_iff ?_
    · exact judged_pure (List.forall_mem_cons.2 ⟨suit, suiting⟩)
    · simp

namespace Sql.Binding

/-- Every run is judged alike, whatever has been bound before. -/
def Decides (fault : Prop) (fits : α → Prop) (build : Binding α) : Prop :=
  ∀ values, Judged fault fits (build.runFrom values).1

theorem decides_outcome {outcome : Outcome α} (judged : Judged fault fits outcome) :
    Decides fault fits (ofOutcome outcome) := fun _ => judged

theorem decides_pure {a : α} (fit : fits a) : Decides False fits (pure a) := fun _ => judged_pure fit

theorem decides_misuse {result : Except Misuse α} {a : α} (h : result = .ok a) (fit : fits a) :
    Decides False fits (liftM result) := fun _ => judged_misuse h fit

theorem decides_known {result : Except Misuse α} {a : α} {f : α → Binding β} (h : result = .ok a)
    (next : Decides fault suits (f a)) : Decides fault suits ((liftM result : Binding α) >>= f) := by
  rw [h]
  exact next

theorem decides_adapter {result : Except AdapterError α} (judged : Judged fault fits (liftM result)) :
    Decides fault fits (liftM result) := fun _ => judged

namespace Decides

theorem bind {build : Binding α} {f : α → Binding β} (first : Decides fault fits build)
    (next : ∀ a, fits a → Decides later suits (f a)) : Decides (fault ∨ later) suits (build >>= f) := by
  intro values
  rcases ran : build.runFrom values with ⟨outcome, middle⟩
  have judged := first values
  rw [ran] at judged
  have whole := judged.bind fun a fit => next a fit middle
  rw [runFrom_bind, ran]
  cases outcome <;> exact whole

theorem of_iff {build : Binding α} (decides : Decides fault fits build) (same : fault ↔ other) :
    Decides other fits build := fun values => (decides values).of_iff same

theorem before {build : Binding α} {f : α → Binding β} (first : Decides False fits build)
    (next : ∀ a, fits a → Decides fault suits (f a)) : Decides fault suits (build >>= f) :=
  (first.bind next).of_iff (iff_of_eq (false_or fault))

theorem after {build : Binding α} {f : α → Binding β} (first : Decides fault fits build)
    (next : ∀ a, fits a → Decides False suits (f a)) : Decides fault suits (build >>= f) :=
  (first.bind next).of_iff (iff_of_eq (or_false fault))

end Decides

theorem decides_mapM {fault : ε → Prop} {f : ε → Binding β} {as : List ε}
    (each : ∀ a ∈ as, Decides (fault a) suits (f a)) :
    Decides (∃ a ∈ as, fault a) (fun bs => ∀ b ∈ bs, suits b) (as.mapM f) := by
  induction as with
  | nil => exact (decides_pure nofun).of_iff (by simp)
  | cons a rest ih =>
    rw [List.mapM_cons]
    have others := ih fun b member => each b (List.mem_cons_of_mem _ member)
    refine ((each a List.mem_cons_self).bind fun b suit => others.after fun bs suiting => ?_).of_iff ?_
    · exact decides_pure (List.forall_mem_cons.2 ⟨suit, suiting⟩)
    · simp

end Sql.Binding

end RecordStore
