import RecordStore.Error.Failure

/-!
# Taking results apart

What a result that is no failure says about the steps that led to it.
-/

namespace RecordStore

variable {ε α β : Type}

theorem bind_ok {x : Except ε α} {f : α → Except ε β} {b : β} (h : x >>= f = .ok b) :
    ∃ a, x = .ok a ∧ f a = .ok b := by
  cases x with
  | error e => cases h
  | ok a => exact ⟨a, rfl, h⟩

theorem map_ok {x : Except ε α} {f : α → β} {b : β} (h : x.map f = .ok b) : ∃ a, x = .ok a ∧ f a = b := by
  cases x with
  | error e => cases h
  | ok a => exact ⟨a, rfl, Except.ok.inj h⟩

theorem mapM_ok {f : α → Except ε β} {g : α → β} {as : List α} (h : ∀ a ∈ as, f a = .ok (g a)) :
    as.mapM f = .ok (as.map g) := by
  induction as with
  | nil => rfl
  | cons a rest ih =>
    rw [List.mapM_cons, h a List.mem_cons_self, ih fun a ha => h a (List.mem_cons_of_mem _ ha)]
    rfl

theorem length_mapM {f : α → Except ε β} {as : List α} {bs : List β} (made : as.mapM f = .ok bs) :
    bs.length = as.length := by
  induction as generalizing bs with
  | nil =>
    cases made
    rfl
  | cons a rest ih =>
    rw [List.mapM_cons] at made
    obtain ⟨b, _, made⟩ := bind_ok made
    obtain ⟨others, more, made⟩ := bind_ok made
    cases made
    rw [List.length_cons, List.length_cons, ih more]

theorem mapM_ok_iff {f : α → Except ε β} {as : List α} {bs : List β} :
    as.mapM f = .ok bs ↔ bs.length = as.length ∧ ∀ (i : Nat) a, as[i]? = some a → ∃ b, bs[i]? = some b ∧ f a = .ok b := by
  induction as generalizing bs with
  | nil =>
    constructor
    · rintro ⟨⟩
      simp
    · rintro ⟨none, -⟩
      rw [List.length_eq_zero_iff.1 none]
      rfl
  | cons a rest ih =>
    rw [List.mapM_cons]
    constructor
    · intro made
      obtain ⟨b, first, made⟩ := bind_ok made
      obtain ⟨others, more, made⟩ := bind_ok made
      cases made
      obtain ⟨length, each⟩ := ih.1 more
      refine ⟨by simp [length], fun i c found => ?_⟩
      cases i with
      | zero => exact ⟨b, rfl, Option.some.inj found ▸ first⟩
      | succ i => exact each i c found
    · rintro ⟨length, each⟩
      obtain ⟨b, place, first⟩ := each 0 a rfl
      cases bs with
      | nil => cases place
      | cons c others =>
        obtain rfl : c = b := Option.some.inj place
        have more : rest.mapM f = .ok others := ih.2 ⟨by simpa using length, fun i c found => each (i + 1) c found⟩
        rw [first, more]
        rfl

theorem mem_mapM {f : α → Except ε β} {as : List α} {bs : List β} (made : as.mapM f = .ok bs) {b : β} :
    b ∈ bs ↔ ∃ a ∈ as, f a = .ok b := by
  induction as generalizing bs with
  | nil =>
    cases made
    simp
  | cons a rest ih =>
    rw [List.mapM_cons] at made
    obtain ⟨first, here, made⟩ := bind_ok made
    obtain ⟨others, more, made⟩ := bind_ok made
    cases made
    have own : b = first ↔ f a = .ok b := by
      rw [here]
      exact ⟨fun same => same ▸ rfl, fun same => (Except.ok.inj same).symm⟩
    rw [List.mem_cons, ih more, own]
    simp

theorem mapM_total {f : α → Except ε β} {as : List α} (each : ∀ a ∈ as, ∃ b, f a = .ok b) : ∃ bs, as.mapM f = .ok bs := by
  induction as with
  | nil => exact ⟨[], rfl⟩
  | cons a rest ih =>
    obtain ⟨b, first⟩ := each a List.mem_cons_self
    obtain ⟨bs, more⟩ := ih fun a member => each a (List.mem_cons_of_mem _ member)
    refine ⟨b :: bs, ?_⟩
    rw [List.mapM_cons, first, more]
    rfl

/-- Where every element comes back from one conversion through another, so does the list. -/
theorem mapM_round {γ : Type} {f : α → Except ε β} {g : β → Except ε γ} {back : α → γ} {as : List α}
    (h : ∀ a ∈ as, ∃ b, f a = .ok b ∧ g b = .ok (back a)) :
    ∃ bs, as.mapM f = .ok bs ∧ bs.mapM g = .ok (as.map back) := by
  induction as with
  | nil => exact ⟨[], rfl, rfl⟩
  | cons a rest ih =>
    obtain ⟨b, made, restored⟩ := h a List.mem_cons_self
    obtain ⟨bs, others, more⟩ := ih fun a ha => h a (List.mem_cons_of_mem _ ha)
    refine ⟨b :: bs, ?_, ?_⟩
    · rw [List.mapM_cons, made, others]
      rfl
    · rw [List.mapM_cons, restored, more]
      rfl

theorem mapM_back_iff {f : α → Except ε β} {g : β → Except ε α} {as : List α} :
    (as.mapM f >>= fun bs => bs.mapM g) = .ok as ↔ ∀ a ∈ as, (f a >>= g) = .ok a := by
  induction as with
  | nil => exact ⟨fun _ => nofun, fun _ => rfl⟩
  | cons a rest ih =>
    rw [List.forall_mem_cons, ← ih]
    constructor
    · intro came
      obtain ⟨bs, made, back⟩ := bind_ok came
      rw [List.mapM_cons] at made
      obtain ⟨b, first, made⟩ := bind_ok made
      obtain ⟨others, more, made⟩ := bind_ok made
      cases made
      rw [List.mapM_cons] at back
      obtain ⟨own, restored, back⟩ := bind_ok back
      obtain ⟨later, restoreds, back⟩ := bind_ok back
      cases back
      rw [first, more]
      exact ⟨restored, restoreds⟩
    · rintro ⟨one, all⟩
      obtain ⟨b, first, restored⟩ := bind_ok one
      obtain ⟨others, more, restoreds⟩ := bind_ok all
      rw [List.mapM_cons, first, more]
      show (b :: others).mapM g = _
      rw [List.mapM_cons, restored, restoreds]
      rfl

theorem mapM_eq_map {f : α → Except ε β} {g : α → β} (h : ∀ a b, f a = .ok b → b = g a) {as : List α} {bs : List β}
    (made : as.mapM f = .ok bs) : bs = as.map g := by
  induction as generalizing bs with
  | nil =>
    cases made
    rfl
  | cons a rest ih =>
    rw [List.mapM_cons] at made
    obtain ⟨b, first, made⟩ := bind_ok made
    obtain ⟨others, more, made⟩ := bind_ok made
    cases made
    rw [List.map_cons, h a b first, ih more]

/-- What a list of results comes to: the failure at the first place that has one, or everything. -/
inductive Overall : List (Except ε α) → Except ε (List α) → Prop
  | failed {results : List (Except ε α)} {i : Nat} {e : ε} (here : results[i]? = some (.error e))
    (before : ∀ j < i, ∃ a, results[j]? = some (.ok a)) : Overall results (.error e)
  | fine {as : List α} : Overall (as.map .ok) (.ok as)

theorem Overall.unique {results : List (Except ε α)} {whole other : Except ε (List α)} (first : Overall results whole)
    (second : Overall results other) : whole = other := by
  cases first with
  | @failed _ i e here before =>
    cases second with
    | @failed _ j f there earlier =>
      rcases Nat.lt_trichotomy i j with less | rfl | more
      · obtain ⟨a, fine⟩ := earlier i less
        cases here.symm.trans fine
      · cases here.symm.trans there
        rfl
      · obtain ⟨a, fine⟩ := before j more
        cases there.symm.trans fine
    | fine =>
      rw [List.getElem?_map] at here
      obtain ⟨a, _, fine⟩ := Option.map_eq_some_iff.1 here
      cases fine
  | @fine as =>
    generalize same : as.map Except.ok = results at second
    cases second with
    | @failed _ i e here before =>
      rw [← same, List.getElem?_map] at here
      obtain ⟨a, _, fine⟩ := Option.map_eq_some_iff.1 here
      cases fine
    | fine => rw [(List.map_inj_right fun _ _ => Except.ok.inj).1 same]

theorem overall_mapM (f : α → Except ε β) (as : List α) : Overall (as.map f) (as.mapM f) := by
  induction as with
  | nil => exact @Overall.fine _ _ []
  | cons a rest ih =>
    rw [List.mapM_cons, List.map_cons]
    cases first : f a with
    | error e => exact .failed (i := 0) rfl fun j none => absurd none (Nat.not_lt_zero j)
    | ok b =>
      generalize rest.map f = results at ih
      generalize rest.mapM f = whole at ih
      cases ih with
      | @failed _ i e here before =>
        refine .failed (i := i + 1) here fun j earlier => ?_
        cases j with
        | zero => exact ⟨b, rfl⟩
        | succ j => exact before j (Nat.lt_of_succ_lt_succ earlier)
      | @fine bs => exact @Overall.fine _ _ (b :: bs)

theorem misuse_ok {x : Except Misuse α} {a : α} (h : (liftM x : Outcome α) = .ok a) : x = .ok a := by
  cases x with
  | error e => cases h
  | ok b =>
    cases h
    rfl

theorem adapter_ok {x : Except AdapterError α} {a : α} (h : (liftM x : Outcome α) = .ok a) : x = .ok a := by
  cases x with
  | error e => cases h
  | ok b =>
    cases h
    rfl

theorem pure_ok {a b : α} (h : (pure a : Except ε α) = .ok b) : a = b := Except.ok.inj h

end RecordStore
