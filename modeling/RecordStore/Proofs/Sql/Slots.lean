import RecordStore.Proofs.Error.Outcome
import RecordStore.Proofs.Sql.Binding

/-!
# The slots that binding hands out

What a successful run of binding appends to the list of values, and the slots that it hands out for them: they
are numbered from the list's length and have no cast.
-/

namespace RecordStore.Sql
open Binding

variable {values after : ParameterList}

/-- The slots for so many values, numbered from `next`. -/
def slotsFrom (next count : Nat) : List Slot := (List.range' next count).map (⟨·, ""⟩)

theorem length_slotsFrom (next count : Nat) : (slotsFrom next count).length = count := by
  simp [slotsFrom]

theorem slotsFrom_succ (next count : Nat) : slotsFrom next (count + 1) = ⟨next, ""⟩ :: slotsFrom (next + 1) count := by
  simp [slotsFrom, List.range'_succ]

theorem cast_slotsFrom {next count : Nat} {slot : Slot} (member : slot ∈ slotsFrom next count) : slot.cast = "" := by
  obtain ⟨n, _, rfl⟩ := List.mem_map.1 member
  rfl

theorem bind_slot {v : Value} {cast : String} {slot : Slot} (ran : (Sql.bind v cast).runFrom values = (.ok slot, after)) :
    slot = ⟨values.length + 1, cast⟩ ∧ after = values ++ [v] := by
  cases ran
  exact ⟨rfl, rfl⟩

theorem bindEncoded_slot {v : Value} {slot : Slot} (ran : (bindEncoded v).runFrom values = (.ok slot, after)) :
    ∃ stored, v.encoded = .ok stored ∧ slot = ⟨values.length + 1, ""⟩ ∧ after = values ++ [stored] := by
  obtain ⟨stored, middle, made, ran⟩ := bind_runFrom_ok ran
  obtain ⟨ok, rfl⟩ := misuse_runFrom_ok made
  obtain ⟨rfl, rfl⟩ := bind_slot ran
  exact ⟨stored, ok, rfl, rfl⟩

/-- Where every value is bound as it is or in a form that it has, a list of them gets slots in a row. -/
theorem mapM_slots {α : Type} {f : α → Binding Slot} (form : α → Except Misuse Value)
    (each : ∀ a values slot after, (f a).runFrom values = (.ok slot, after) →
      ∃ stored, form a = .ok stored ∧ slot = ⟨values.length + 1, ""⟩ ∧ after = values ++ [stored])
    {as : List α} {slots : List Slot} (ran : (as.mapM f).runFrom values = (.ok slots, after)) :
    ∃ stored, as.mapM form = .ok stored ∧ slots = slotsFrom (values.length + 1) as.length ∧
      after = values ++ stored := by
  induction as generalizing values slots with
  | nil =>
    obtain ⟨rfl, rfl⟩ := pure_runFrom_ok ran
    exact ⟨[], rfl, rfl, (List.append_nil values).symm⟩
  | cons a rest ih =>
    rw [List.mapM_cons] at ran
    obtain ⟨slot, middle, first, ran⟩ := bind_runFrom_ok ran
    obtain ⟨others, last, more, ran⟩ := bind_runFrom_ok ran
    obtain ⟨rfl, rfl⟩ := pure_runFrom_ok ran
    obtain ⟨v, made, rfl, rfl⟩ := each a values slot middle first
    obtain ⟨stored, madeRest, rfl, rfl⟩ := ih more
    refine ⟨v :: stored, ?_, ?_, by simp⟩
    · rw [List.mapM_cons, made, madeRest]
      rfl
    · rw [List.length_cons, slotsFrom_succ, List.length_append]
      rfl

theorem mapM_bindEncoded {vs : List Value} {slots : List Slot}
    (ran : (vs.mapM bindEncoded).runFrom values = (.ok slots, after)) :
    ∃ stored, vs.mapM Value.encoded = .ok stored ∧ slots = slotsFrom (values.length + 1) vs.length ∧
      after = values ++ stored :=
  mapM_slots Value.encoded (fun _ _ _ _ => bindEncoded_slot) ran

/-! ### Slots in fragments -/

theorem map_number_slotsFrom (next count : Nat) : (slotsFrom next count).map Slot.number = List.range' next count := by
  simp [slotsFrom, Function.comp_def]

theorem Slot.slots_fragment (slot : Slot) : slot.fragment.slots = [slot.number] := by
  unfold Slot.fragment
  split <;> rfl

namespace Fragment

theorem slots_append (a b : Fragment) : slots (a ++ b) = a.slots ++ b.slots := List.filterMap_append

theorem slots_text (s : String) (rest : Fragment) : slots (.text s :: rest) = rest.slots := rfl

theorem slots_join (separator : String) (fragments : List Fragment) :
    (join separator fragments).slots = fragments.flatMap slots := by
  induction fragments with
  | nil => rfl
  | cons f rest ih =>
    cases rest with
    | nil => simp [join]
    | cons g rest =>
      change slots (f ++ .text separator :: join separator (g :: rest)) = _
      rw [slots_append, slots_text, ih]
      rfl

theorem slots_ofSlots (slots : List Slot) : (ofSlots slots).slots = slots.map Slot.number := by
  rw [ofSlots, slots_join, List.flatMap_map]
  induction slots with
  | nil => rfl
  | cons slot rest ih => rw [List.flatMap_cons, ih, slot.slots_fragment, List.map_cons, List.singleton_append]

theorem slots_ofIdentifiers (names : List Identifier) : (ofIdentifiers names).slots = [] := by
  rw [ofIdentifiers, slots_join, List.flatMap_map, List.flatMap_eq_nil_iff]
  exact fun name _ => rfl

end Fragment

end RecordStore.Sql
