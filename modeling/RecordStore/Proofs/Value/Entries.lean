import Mathlib.Data.List.Induction
import RecordStore.Proofs.Value.Access

/-!
# Maps made of entries

Entries under texts that are written one after the other make a map in which every text stands where it came first, with
the value that came with it last.
-/

namespace RecordStore.Value

section Put
variable {key name : Text} {v : Value} {entries : List (Value × Value)}

theorem lookup_put_other (apart : name ≠ key) (v : Value) (entries : List (Value × Value)) :
    lookup name (put (text key) v entries) = lookup name entries := by
  induction entries with
  | nil => simp [put, lookup, isText, apart.symm]
  | cons entry rest ih =>
    obtain ⟨k, other⟩ := entry
    rw [put]
    by_cases same : (text key).equals k = true
    · rw [← isText_eq_equals] at same
      have others : k.isText name = false := by
        cases k with
        | text s =>
          have own : s = key := by simpa [isText] using same
          simpa [isText, own] using apart.symm
        | _ => rfl
      rw [if_pos ((isText_eq_equals key k).symm.trans same)]
      simp [lookup, others]
    · rw [if_neg same]
      simp [lookup, ih]

end Put

/-! ### Maps in any order -/

theorem isText_iff {k : Value} {name : Text} : k.isText name ↔ k = text name := by
  cases k <;> simp [isText]

/-- Keys of which no two are equal, as those of a map are. -/
def DistinctKeys (entries : List (Value × Value)) : Prop :=
  entries.Pairwise fun first second => first.1.equals second.1 = false

theorem lookup_eq_none_of_apart {name : Text} {entries : List (Value × Value)}
    (apart : ∀ entry ∈ entries, (text name).equals entry.1 = false) : lookup name entries = none := by
  induction entries with
  | nil => rfl
  | cons entry rest ih =>
    obtain ⟨first, others⟩ := List.forall_mem_cons.1 apart
    rw [lookup, isText_eq_equals, first]
    exact ih others

theorem lookup_eq_some_iff {entries : List (Value × Value)} (distinct : DistinctKeys entries) {name : Text} {v : Value} :
    lookup name entries = some v ↔ (text name, v) ∈ entries := by
  induction entries with
  | nil => simp [lookup]
  | cons entry rest ih =>
    obtain ⟨k, w⟩ := entry
    obtain ⟨apart, others⟩ := List.pairwise_cons.1 distinct
    rw [lookup, List.mem_cons, Prod.mk.injEq]
    by_cases own : k.isText name
    · obtain rfl := isText_iff.1 own
      have absent : (text name, v) ∉ rest := fun member => by
        rw [← ih others, lookup_eq_none_of_apart apart] at member
        cases member
      rw [if_pos own, Option.some.injEq]
      exact ⟨fun same => .inl ⟨rfl, same.symm⟩, fun either => either.elim (·.2.symm) fun later => absurd later absent⟩
    · have other : text name ≠ k := fun same => own (isText_iff.2 same.symm)
      rw [if_neg own, ih others]
      exact ⟨.inr, fun either => either.elim (fun same => absurd same.1 other) id⟩

/-- What a map holds under a text does not depend on the order of its entries. -/
theorem lookup_perm {first second : List (Value × Value)} (same : first.Perm second) (distinct : DistinctKeys first)
    (also : DistinctKeys second) (name : Text) : lookup name first = lookup name second := by
  refine Option.ext fun v => ?_
  rw [lookup_eq_some_iff distinct, lookup_eq_some_iff also, same.mem_iff]

/-! ### Entries written one after the other -/

/-- Entries with texts for keys. -/
abbrev NamedEntries := List (Text × Value)

namespace NamedEntries

/-- The map that named entries make. -/
def merged (entries : NamedEntries) : List (Value × Value) := entriesOf (entries.map fun e => (text e.1, e.2))

theorem merged_concat (entries : NamedEntries) (e : Text × Value) :
    merged (entries ++ [e]) = put (text e.1) e.2 entries.merged := by
  rw [merged, List.map_append, entriesOf, List.foldl_append]
  rfl

end NamedEntries

end RecordStore.Value
