import RecordStore.Proofs.Error.Outcome
import RecordStore.Proofs.Text.Points
import RecordStore.Value.Access

/-!
# Looking into values

What a value holds when looking into it succeeds.
-/

namespace RecordStore.Value

/-- The entries of a map; what is no map has none. -/
def ownEntries (v : Value) : List (Value × Value) := v.entries?.getD []

/-- The value under a text key; what is missing is null. -/
def fieldValue (record : Value) (name : Text) : Value := (lookup name record.ownEntries).getD .null

/-- How many values are met when a value is gone through. -/
def elementCount (v : Value) : Nat := (v.elements?.getD []).length

theorem string_inj {s t : String} (same : text s = text t) : s = t := Text.whole.inj (text.inj same)

@[simp] theorem string?_text (s : String) : (text s).string? = some s := rfl

theorem string?_eq_some_iff {v : Value} {s : String} : v.string? = some s ↔ v = text s := by
  constructor
  · intro found
    obtain ⟨t, isText, whole⟩ := Option.bind_eq_some_iff.1 found
    cases v with
    | text u =>
      cases isText
      cases t with
      | whole r => rw [Option.some.inj whole]
      | torn r => cases whole
    | _ => cases isText
  · rintro rfl
    rfl

theorem entries_ok {v : Value} {entries : List (Value × Value)} (h : v.entries = .ok entries) :
    v = .map entries := by
  cases v with
  | map own =>
    cases h
    rfl
  | _ => cases h

theorem elements_ok {v : Value} {items : List Value} (h : v.elements = .ok items) : v.elements? = some items := by
  unfold elements at h
  cases found : v.elements? with
  | some own =>
    rw [found] at h
    rw [Except.ok.inj h]
  | none =>
    rw [found] at h
    cases h

theorem elementCount_of_ok {v : Value} {items : List Value} (h : v.elements = .ok items) :
    v.elementCount = items.length := by
  rw [elementCount, elements_ok h, Option.getD_some]

theorem holds_elements {v : Value} {items : List Value} (h : v.elements? = some items) : v.holds = !items.isEmpty := by
  cases v with
  | text s =>
    cases h
    rw [holds, List.isEmpty_map, Text.isEmpty_letters]
  | bytes form data =>
    cases h
    simp [holds]
  | list own =>
    cases h
    rfl
  | tuple own =>
    cases h
    rfl
  | map entries =>
    cases h
    simp [holds]
  | _ => cases h

theorem isNull_of_elements {v : Value} {items : List Value} (h : v.elements? = some items) : v.isNull = false := by
  cases v with
  | null => cases h
  | _ => rfl

theorem elements_empty {v : Value} (empty : ¬v.holds) : v.elements?.getD [] = [] := by
  cases found : v.elements? with
  | none => rfl
  | some items => simpa [holds_elements found] using empty

theorem ownEntries_empty {v : Value} (empty : ¬v.holds) : v.ownEntries = [] := by
  cases v with
  | map entries =>
    change entries = []
    simpa [holds] using empty
  | _ => rfl

theorem field?_ok {record : Value} {name : Text} {found : Option Value} (h : record.field? name = .ok found) :
    found = lookup name record.ownEntries := by
  obtain ⟨entries, map, rfl⟩ := map_ok h
  rw [entries_ok map]
  rfl

theorem shownText_ok {v : Value} {shown : Text} (h : v.shownText = .ok shown) : v.shown = shown := by
  unfold shownText at h
  split at h
  · exact Except.ok.inj h
  · cases h

theorem writable_of_shownText {v : Value} {shown : Text} (h : v.shownText = .ok shown) : v.isWritable := by
  unfold shownText at h
  split at h
  · assumption
  · cases h

theorem shownText_of_writable {v : Value} (writable : v.isWritable) : v.shownText = .ok v.shown := if_pos writable

theorem entriesWritable_iff {entries : List (Value × Value)} :
    entriesWritable entries ↔ ∀ entry ∈ entries, entry.1.isWritable ∧ entry.2.isWritable := by
  induction entries with
  | nil => simp [entriesWritable]
  | cons entry rest ih =>
    rw [entriesWritable, Bool.and_eq_true, Bool.and_eq_true, ih, List.forall_mem_cons]

theorem writable_map {entries : List (Value × Value)} :
    (map entries).isWritable ↔ ∀ entry ∈ entries, entry.1.isWritable ∧ entry.2.isWritable := by
  rw [isWritable, entriesWritable_iff]

theorem isText_eq_equals (key : Text) (k : Value) : k.isText key = (text key).equals k := by
  cases k with
  | text s =>
    show (s == key) = (text key).equals (text s)
    rw [equals, Bool.beq_comm]
  | _ => rw [equals] <;> first | rfl | nofun

theorem lookup_mem {key : Text} {v : Value} {entries : List (Value × Value)} (h : lookup key entries = some v) :
    ∃ k, (k, v) ∈ entries := by
  induction entries with
  | nil => cases h
  | cons entry rest ih =>
    rw [lookup] at h
    split at h
    · cases h
      exact ⟨_, List.mem_cons_self⟩
    · obtain ⟨k, member⟩ := ih h
      exact ⟨k, List.mem_cons_of_mem _ member⟩

theorem lookup_putText (key : Text) (v : Value) (entries : List (Value × Value)) :
    lookup key (putText key v entries) = some v := by
  unfold putText
  induction entries with
  | nil => simp [put, lookup, isText]
  | cons entry rest ih =>
    obtain ⟨k, other⟩ := entry
    by_cases same : (text key).equals k = true
    · have own : k.isText key = true := (isText_eq_equals key k).trans same
      rw [put, if_pos same]
      simp [lookup, own]
    · have apart : k.isText key = false := by simpa [isText_eq_equals] using same
      rw [put, if_neg same]
      simpa [lookup, apart] using ih

end RecordStore.Value
