import RecordStore.Json.Writer
import RecordStore.Proofs.Number.Numeral
import RecordStore.Proofs.Text.Points
import RecordStore.Value.Equality

/-!
# What JSON text keeps of a value

Writing turns tuples into lists and keys into their text, and in every text the two halves of a surrogate pair that stand
behind each other become the character that they make; keys that then are the same keep the first place and the last value.
`normal` is what is left. A value that is made of what JSON has, and in which no such halves are left, is its own normal form.
-/

namespace RecordStore.Json

/-- The text that stands for a key; keys that cannot be written have none. -/
def keyName (key : Value) : Text :=
  match keyText key with
  | .ok s => s
  | .error _ => ""

theorem keyName_of_keyText {key : Value} {s : Text} (h : keyText key = .ok s) : keyName key = s := by
  rw [keyName, h]

mutual

/-- What a value becomes by being written and read. -/
def normal : Value → Value
  | .text s => .text s.joined
  | .list items => .list (normalItems items)
  | .tuple items => .list (normalItems items)
  | .map entries => .map (Value.entriesOf (normalEntries entries))
  | v => v

def normalItems : List Value → List Value
  | [] => []
  | v :: rest => normal v :: normalItems rest

def normalEntries : List (Value × Value) → List (Value × Value)
  | [] => []
  | (k, v) :: rest => (.text (keyName k).joined, normal v) :: normalEntries rest

end

mutual

/-- How many lists and maps stand inside each other. -/
def depth : Value → Nat
  | .list items => itemDepth items + 1
  | .tuple items => itemDepth items + 1
  | .map entries => entryDepth entries + 1
  | _ => 0

def itemDepth : List Value → Nat
  | [] => 0
  | v :: rest => max (depth v) (itemDepth rest)

def entryDepth : List (Value × Value) → Nat
  | [] => 0
  | (_, v) :: rest => max (depth v) (entryDepth rest)

end

mutual

/-- Whether a value is made of what JSON has, with distinct texts as keys. -/
def isNative : Value → Bool
  | .bytes .. => false
  | .list items => areItemsNative items
  | .tuple _ => false
  | .map entries => areEntriesNative entries
  | _ => true

def areItemsNative : List Value → Bool
  | [] => true
  | v :: rest => isNative v && areItemsNative rest

def areEntriesNative : List (Value × Value) → Bool
  | [] => true
  | (.text key, v) :: rest => (Value.lookup key rest).isNone && isNative v && areEntriesNative rest
  | _ => false

end

mutual

/-- Whether a value is made of what JSON has, with distinct texts as keys, no number above the digit limit and no two
halves of a surrogate pair behind each other. -/
def isPlain : Value → Bool
  | .null => true
  | .bool _ => true
  | .int n => (Nat.toDigits 10 n.natAbs).length ≤ digitLimit
  | .float _ => true
  | .text s => s.isJoined
  | .bytes .. => false
  | .list items => areItemsPlain items
  | .tuple _ => false
  | .map entries => areEntriesPlain entries

def areItemsPlain : List Value → Bool
  | [] => true
  | v :: rest => isPlain v && areItemsPlain rest

def areEntriesPlain : List (Value × Value) → Bool
  | [] => true
  | (.text key, v) :: rest => key.isJoined && (Value.lookup key rest).isNone && isPlain v && areEntriesPlain rest
  | _ => false

end

/-! ### Plain values are normal -/

theorem put_absent {key : Text} {value : Value} {entries : List (Value × Value)}
    (texts : ∀ e ∈ entries, ∃ s, e.1 = .text s ∧ s ≠ key) :
    Value.put (.text key) value entries = entries ++ [(.text key, value)] := by
  induction entries with
  | nil => rfl
  | cons e rest ih =>
    obtain ⟨k, v⟩ := e
    obtain ⟨s, same, other⟩ := texts (k, v) List.mem_cons_self
    dsimp only at same
    subst same
    have differ : (Value.text key).equals (.text s) = false := by
      simpa [Value.equals] using fun e => other e.symm
    rw [Value.put, differ, if_neg (by simp), ih fun e he => texts e (List.mem_cons_of_mem _ he)]
    rfl

theorem lookup_none_iff {key : Text} {entries : List (Value × Value)} :
    Value.lookup key entries = none ↔ ∀ e ∈ entries, e.1.isText key = false := by
  induction entries with
  | nil => simp [Value.lookup]
  | cons e rest ih =>
    obtain ⟨k, v⟩ := e
    by_cases same : k.isText key = true
    · simp [Value.lookup, same]
    · simp [Value.lookup, same, ih]

theorem foldl_put_plain {entries done : List (Value × Value)} (plain : areEntriesPlain entries = true)
    (texts : ∀ e ∈ done, ∃ s, e.1 = .text s ∧ Value.lookup s entries = none) :
    entries.foldl (fun done (k, v) => Value.put k v done) done = done ++ entries := by
  induction entries generalizing done with
  | nil => simp
  | cons e rest ih =>
    obtain ⟨k, v⟩ := e
    cases k with
    | text key =>
      simp only [areEntriesPlain, Bool.and_eq_true, Option.isNone_iff_eq_none] at plain
      obtain ⟨⟨⟨_, fresh⟩, _⟩, plain⟩ := plain
      have apart : ∀ e ∈ done, ∃ s, e.1 = .text s ∧ s ≠ key := by
        intro e he
        obtain ⟨s, same, absent⟩ := texts e he
        refine ⟨s, same, ?_⟩
        rintro rfl
        simp [Value.lookup, Value.isText] at absent
      rw [List.foldl_cons]
      dsimp only
      rw [put_absent apart, ih plain, List.append_assoc]
      · rfl
      · intro e he
        rcases List.mem_append.1 he with old | new
        · obtain ⟨s, same, absent⟩ := texts e old
          exact ⟨s, same, lookup_none_iff.2 fun e he => lookup_none_iff.1 absent e (List.mem_cons_of_mem _ he)⟩
        · rw [List.mem_singleton.1 new]
          exact ⟨key, rfl, fresh⟩
    | _ => simp [areEntriesPlain] at plain

theorem entriesOf_plain {entries : List (Value × Value)} (plain : areEntriesPlain entries = true) :
    Value.entriesOf entries = entries :=
  (foldl_put_plain plain (by simp)).trans (List.nil_append entries)

mutual

theorem normal_of_plain : ∀ {v : Value}, isPlain v = true → normal v = v
  | .null, _ => rfl
  | .bool _, _ => rfl
  | .int _, _ => rfl
  | .float _, _ => rfl
  | .text s, h => congrArg Value.text ((Text.isJoined_iff s).1 h)
  | .list items, h => congrArg Value.list (normalItems_of_plain h)
  | .map entries, h => by
    rw [isPlain] at h
    rw [normal, normalEntries_of_plain h, entriesOf_plain h]

theorem normalItems_of_plain : ∀ {items : List Value}, areItemsPlain items = true → normalItems items = items
  | [], _ => rfl
  | v :: rest, h => by
    simp only [areItemsPlain, Bool.and_eq_true] at h
    rw [normalItems, normal_of_plain h.1, normalItems_of_plain h.2]

theorem normalEntries_of_plain :
    ∀ {entries : List (Value × Value)}, areEntriesPlain entries = true → normalEntries entries = entries
  | [], _ => rfl
  | (.text key, v) :: rest, h => by
    simp only [areEntriesPlain, Bool.and_eq_true] at h
    have named : (keyName (.text key)).joined = key := (Text.isJoined_iff key).1 h.1.1.1
    rw [normalEntries, named, normal_of_plain h.1.2, normalEntries_of_plain h.2]

end

end RecordStore.Json
