import RecordStore.Settings.Mapping

/-!
# Mappings that are written over

Setting a key changes what is under that key and nothing else, and of a mapping that is written over another one every
entry counts before those of the other.
-/

namespace RecordStore.Mapping
variable {κ α : Type} [DecidableEq κ]

/-- The keys in their order. -/
def keys (mapping : Mapping κ α) : List (Key κ) := mapping.entries.map (·.1)

theorem mem_keys_set {mapping : Mapping κ α} {key other : Key κ} {value : α} :
    other ∈ (mapping.set key value).keys ↔ other = key ∨ other ∈ mapping.keys := by
  rw [keys, set, keys_setIn]
  split
  · rename_i known
    exact ⟨.inr, fun either => either.elim (fun same => same ▸ known) id⟩
  · rw [List.mem_append, List.mem_singleton, or_comm]
    rfl

theorem mem_keys_update {base changes : Mapping κ α} {key : Key κ} :
    key ∈ (base.update changes).keys ↔ key ∈ base.keys ∨ key ∈ changes.keys := by
  obtain ⟨entries, distinct⟩ := changes
  unfold update
  dsimp only [keys]
  clear distinct
  induction entries generalizing base with
  | nil => simp
  | cons entry rest ih =>
    rw [List.foldl_cons, ih, List.map_cons, List.mem_cons, ← or_assoc]
    exact or_congr_left (mem_keys_set.trans or_comm)

/-- Whether all keys are texts. -/
def Named (mapping : Mapping κ α) : Prop := ∀ key ∈ mapping.keys, key.name?.isSome

theorem named_set_name {mapping : Mapping κ α} {name : Text} {value : α} :
    (mapping.set (.name name) value).Named ↔ mapping.Named := by
  refine ⟨fun named key known => named key (mem_keys_set.2 (.inr known)), fun named key known => ?_⟩
  rcases mem_keys_set.1 known with rfl | old
  · rfl
  · exact named key old

theorem named_update {base changes : Mapping κ α} : (base.update changes).Named ↔ base.Named ∧ changes.Named := by
  simp only [Named, mem_keys_update, or_imp, forall_and]

end RecordStore.Mapping
