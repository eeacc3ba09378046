import RecordStore.Proofs.Error.Outcome
import RecordStore.Proofs.Sql.Binding

/-!
# Two runs side by side

Runs that agree in everything but the values that they bind. Such runs hand out the same slots, since the
number of a slot depends only on how many values were bound before it.
-/

namespace RecordStore.Sql.Binding

variable {α β σ : Type}

/-- When both succeed, from equally many values, both yield the same and have bound equally many values. -/
def Aligned (first second : Binding α) : Prop :=
  ∀ (v₁ v₂ : ParameterList) (a₁ a₂ : α) (w₁ w₂ : ParameterList), v₁.length = v₂.length →
    first.runFrom v₁ = (.ok a₁, w₁) → second.runFrom v₂ = (.ok a₂, w₂) → a₁ = a₂ ∧ w₁.length = w₂.length

theorem aligned_pure {a b : α} (h : a = b) : Aligned (pure a) (pure b) := by
  intro v₁ v₂ a₁ a₂ w₁ w₂ long ran₁ ran₂
  obtain ⟨rfl, rfl⟩ := pure_runFrom_ok ran₁
  obtain ⟨rfl, rfl⟩ := pure_runFrom_ok ran₂
  exact ⟨h, long⟩

theorem aligned_bind {b₁ b₂ : Binding α} {f₁ f₂ : α → Binding β} (first : Aligned b₁ b₂)
    (next : ∀ a, Aligned (f₁ a) (f₂ a)) : Aligned (b₁ >>= f₁) (b₂ >>= f₂) := by
  intro v₁ v₂ c₁ c₂ w₁ w₂ long ran₁ ran₂
  obtain ⟨a₁, m₁, first₁, next₁⟩ := bind_runFrom_ok ran₁
  obtain ⟨a₂, m₂, first₂, next₂⟩ := bind_runFrom_ok ran₂
  obtain ⟨rfl, middle⟩ := first v₁ v₂ a₁ a₂ m₁ m₂ long first₁ first₂
  exact next a₁ m₁ m₂ c₁ c₂ w₁ w₂ middle next₁ next₂

/-- Whatever the first one makes when it succeeds, the second one makes as well. -/
def Follows (build other : Binding α) : Prop :=
  ∀ values a after, build.runFrom values = (.ok a, after) → other.runFrom values = (.ok a, after)

theorem follows_refl (build : Binding α) : Follows build build := fun _ _ _ ran => ran

theorem follows_bind {b₁ b₂ : Binding α} {f₁ f₂ : α → Binding β} (first : Follows b₁ b₂)
    (next : ∀ a, Follows (f₁ a) (f₂ a)) : Follows (b₁ >>= f₁) (b₂ >>= f₂) := by
  intro values b after ran
  obtain ⟨a, middle, ranFirst, ranNext⟩ := bind_runFrom_ok ran
  rw [runFrom_bind_of_ok (first values a middle ranFirst)]
  exact next a middle b after ranNext

theorem aligned_follows {b₁ b₂ c₁ c₂ : Binding α} (first : Follows b₁ c₁) (second : Follows b₂ c₂)
    (aligned : Aligned c₁ c₂) : Aligned b₁ b₂ := by
  intro v₁ v₂ a₁ a₂ w₁ w₂ long ran₁ ran₂
  exact aligned v₁ v₂ a₁ a₂ w₁ w₂ long (first v₁ a₁ w₁ ran₁) (second v₂ a₂ w₂ ran₂)

/-! ### Steps that bind nothing

Their results may differ, so what follows has to be aligned for any two of them. -/

section Steps
variable {γ δ : Type}

theorem aligned_outcome {r₁ : Outcome γ} {r₂ : Outcome δ} {f₁ : γ → Binding β} {f₂ : δ → Binding β}
    (next : ∀ a₁ a₂, r₁ = .ok a₁ → r₂ = .ok a₂ → Aligned (f₁ a₁) (f₂ a₂)) :
    Aligned (ofOutcome r₁ >>= f₁) (ofOutcome r₂ >>= f₂) := by
  intro v₁ v₂ c₁ c₂ w₁ w₂ long ran₁ ran₂
  obtain ⟨a₁, m₁, first₁, next₁⟩ := bind_runFrom_ok ran₁
  obtain ⟨a₂, m₂, first₂, next₂⟩ := bind_runFrom_ok ran₂
  cases first₁
  cases first₂
  exact next a₁ a₂ rfl rfl v₁ v₂ c₁ c₂ w₁ w₂ long next₁ next₂

theorem aligned_misuse {r₁ : Except Misuse γ} {r₂ : Except Misuse δ} {f₁ : γ → Binding β} {f₂ : δ → Binding β}
    (next : ∀ a₁ a₂, r₁ = .ok a₁ → r₂ = .ok a₂ → Aligned (f₁ a₁) (f₂ a₂)) :
    Aligned ((liftM r₁ : Binding γ) >>= f₁) ((liftM r₂ : Binding δ) >>= f₂) :=
  aligned_outcome fun a₁ a₂ ok₁ ok₂ => next a₁ a₂ (misuse_ok ok₁) (misuse_ok ok₂)

theorem aligned_adapter {r₁ : Except AdapterError γ} {r₂ : Except AdapterError δ} {f₁ : γ → Binding β}
    {f₂ : δ → Binding β} (next : ∀ a₁ a₂, r₁ = .ok a₁ → r₂ = .ok a₂ → Aligned (f₁ a₁) (f₂ a₂)) :
    Aligned ((liftM r₁ : Binding γ) >>= f₁) ((liftM r₂ : Binding δ) >>= f₂) :=
  aligned_outcome fun a₁ a₂ ok₁ ok₂ => next a₁ a₂ (adapter_ok ok₁) (adapter_ok ok₂)

theorem aligned_same {r : Except AdapterError γ} {f₁ f₂ : γ → Binding β}
    (next : ∀ a, r = .ok a → Aligned (f₁ a) (f₂ a)) :
    Aligned ((liftM r : Binding γ) >>= f₁) ((liftM r : Binding γ) >>= f₂) := by
  refine aligned_adapter fun a₁ a₂ ok₁ ok₂ => ?_
  obtain rfl : a₁ = a₂ := Except.ok.inj (ok₁.symm.trans ok₂)
  exact next a₁ ok₁

theorem aligned_adapter_self (r : Except AdapterError γ) : Aligned (liftM r : Binding γ) (liftM r) := by
  intro v₁ v₂ a₁ a₂ w₁ w₂ long ran₁ ran₂
  obtain ⟨ok₁, rfl⟩ := adapter_runFrom_ok ran₁
  obtain ⟨ok₂, rfl⟩ := adapter_runFrom_ok ran₂
  exact ⟨Except.ok.inj (ok₁.symm.trans ok₂), long⟩

end Steps

/-! ### Binding -/

theorem aligned_slot (v w : Value) (cast : String) : Aligned (Sql.bind v cast) (Sql.bind w cast) := by
  intro v₁ v₂ a₁ a₂ w₁ w₂ long ran₁ ran₂
  cases ran₁
  cases ran₂
  exact ⟨by rw [long], by rw [List.length_append, List.length_append, long]; rfl⟩

theorem aligned_bindEncoded (v w : Value) : Aligned (bindEncoded v) (bindEncoded w) :=
  aligned_misuse fun stored others _ _ => aligned_slot stored others _

theorem aligned_bindElement {v w : Value} (same : elementCast v = elementCast w) :
    Aligned (bindElement v) (bindElement w) := by
  unfold bindElement
  rw [same]
  exact aligned_misuse fun stored others _ _ => aligned_slot stored others _

/-- An array is bound as one value, so it makes no difference to the slot whether the value is one. -/
theorem aligned_bindArrayOrValue (v w : Value) : Aligned (bindArrayOrValue v) (bindArrayOrValue w) := by
  unfold bindArrayOrValue
  cases v.sequence? with
  | none =>
    cases w.sequence? with
    | none => exact aligned_bindEncoded v w
    | some others => exact aligned_misuse fun stored items _ _ => aligned_slot stored (.list items) _
  | some items =>
    cases w.sequence? with
    | none => exact aligned_misuse fun items stored _ _ => aligned_slot (.list items) stored _
    | some others => exact aligned_misuse fun items others _ _ => aligned_slot (.list items) (.list others) _

/-! ### Going through lists -/

theorem aligned_mapM {f g : α → Binding β} {look : α → σ} (each : ∀ a b, look a = look b → Aligned (f a) (g b))
    {as bs : List α} (same : as.map look = bs.map look) : Aligned (as.mapM f) (bs.mapM g) := by
  induction as generalizing bs with
  | nil =>
    obtain rfl : bs = [] := List.map_eq_nil_iff.mp same.symm
    exact aligned_pure rfl
  | cons a rest ih =>
    cases bs with
    | nil => cases same
    | cons b more =>
      obtain ⟨head, tail⟩ := List.cons.inj same
      rw [List.mapM_cons, List.mapM_cons]
      refine aligned_bind (each a b head) fun c => ?_
      exact aligned_bind (ih tail) fun cs => aligned_pure rfl

theorem aligned_mapM_of_length {f : α → Binding β} (each : ∀ a b, Aligned (f a) (f b)) {as bs : List α}
    (long : as.length = bs.length) : Aligned (as.mapM f) (bs.mapM f) := by
  have same : as.map (fun _ => ()) = bs.map fun _ => () := by
    rw [List.map_const', List.map_const', long]
  exact aligned_mapM (fun a b _ => each a b) same

theorem aligned_foldlM {f g : β → α → Binding β} {look : α → σ}
    (each : ∀ s a b, look a = look b → Aligned (f s a) (g s b)) {as bs : List α}
    (same : as.map look = bs.map look) (start : β) : Aligned (as.foldlM f start) (bs.foldlM g start) := by
  induction as generalizing bs start with
  | nil =>
    obtain rfl : bs = [] := List.map_eq_nil_iff.mp same.symm
    exact aligned_pure rfl
  | cons a rest ih =>
    cases bs with
    | nil => cases same
    | cons b more =>
      obtain ⟨head, tail⟩ := List.cons.inj same
      rw [List.foldlM_cons, List.foldlM_cons]
      exact aligned_bind (each start a b head) fun next => ih tail next

end RecordStore.Sql.Binding
