import RecordStore.Text.Basic

/-!
Mappings as configuration files and callers give them: from keys that are texts or something else to
objects of any kind. No two entries have the same key; a key that is set again keeps its place.
-/

namespace RecordStore

inductive Key (κ : Type) where
  | name (s : Text)
  | other (k : κ)
  deriving DecidableEq

namespace Key
variable {κ : Type}

def name? : Key κ → Option Text
  | name s => some s
  | other _ => none

end Key

structure Mapping (κ α : Type) where
  entries : List (Key κ × α)
  distinct : (entries.map (·.1)).Nodup

namespace Mapping
variable {κ α : Type} [DecidableEq κ]

instance : Inhabited (Mapping κ α) := ⟨[], .nil⟩

def empty : Mapping κ α := ⟨[], .nil⟩

def isEmpty (mapping : Mapping κ α) : Bool := mapping.entries.isEmpty

def lookupIn (key : Key κ) : List (Key κ × α) → Option α
  | [] => none
  | (k, v) :: rest => if k = key then some v else lookupIn key rest

def get? (mapping : Mapping κ α) (key : Key κ) : Option α := lookupIn key mapping.entries

def setIn (key : Key κ) (value : α) : List (Key κ × α) → List (Key κ × α)
  | [] => [(key, value)]
  | (k, v) :: rest => if k = key then (k, value) :: rest else (k, v) :: setIn key value rest

theorem keys_setIn (key : Key κ) (value : α) (entries : List (Key κ × α)) :
    (setIn key value entries).map (·.1) =
      if key ∈ entries.map (·.1) then entries.map (·.1) else entries.map (·.1) ++ [key] := by
  induction entries with
  | nil => simp [setIn]
  | cons entry rest ih =>
    obtain ⟨k, v⟩ := entry
    by_cases same : k = key
    · simp [setIn, same]
    · rw [setIn, if_neg same, List.map_cons, ih]
      by_cases later : key ∈ rest.map (·.1)
      · simp [later]
      · simp [later, Ne.symm same]

theorem distinct_setIn {key : Key κ} {value : α} {entries : List (Key κ × α)} (distinct : (entries.map (·.1)).Nodup) :
    ((setIn key value entries).map (·.1)).Nodup := by
  rw [keys_setIn]
  split
  · exact distinct
  · rename_i fresh
    refine List.nodup_append.2 ⟨distinct, by simp, fun k known other last => ?_⟩
    rintro rfl
    exact fresh (List.mem_singleton.1 last ▸ known)

def set (mapping : Mapping κ α) (key : Key κ) (value : α) : Mapping κ α :=
  ⟨setIn key value mapping.entries, distinct_setIn mapping.distinct⟩

/-- The first mapping with the entries of the second one written over it. -/
def update (base changes : Mapping κ α) : Mapping κ α :=
  changes.entries.foldl (fun done (k, v) => done.set k v) base

end Mapping
end RecordStore
