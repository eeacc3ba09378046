import RecordStore.Proofs.Error.Outcome
import RecordStore.Proofs.Json.Normal
import RecordStore.Proofs.Value.Entries

/-!
# Values that have a JSON text

A value can be written when it holds no bytes, no number above the digit limit and no keys but texts, numbers, Booleans
and null, and nests no deeper than it may. What writing keeps of the value is plain and nests no deeper.
-/

namespace RecordStore.Json

/-! ### What can be written -/

/-- Whether a whole number has no more digits than may be written. -/
def isShort (n : Int) : Bool := (Nat.toDigits 10 n.natAbs).length ≤ digitLimit

def hasKeyText : Value → Bool
  | .text _ => true
  | .null => true
  | .bool _ => true
  | .int n => isShort n
  | .float _ => true
  | _ => false

mutual

/-- Whether a value has a JSON text. -/
def hasText : Value → Bool
  | .int n => isShort n
  | .bytes .. => false
  | .list items => itemsHaveText items
  | .tuple items => itemsHaveText items
  | .map entries => entriesHaveText entries
  | _ => true

def itemsHaveText : List Value → Bool
  | [] => true
  | v :: rest => hasText v && itemsHaveText rest

def entriesHaveText : List (Value × Value) → Bool
  | [] => true
  | (k, v) :: rest => hasKeyText k && hasText v && entriesHaveText rest

end

section Parts
variable {ε α β γ δ : Type} {x : Except ε α} {y : Except ε β} {z : Except ε γ}

theorem isOk_map (f : α → δ) : (x.map f).isOk = x.isOk := by
  cases x <;> rfl

theorem isOk_bind_pure (f : α → δ) : (x >>= fun a => pure (f a)).isOk = x.isOk := by
  cases x <;> rfl

theorem isOk_both (f : α → β → δ) : (x >>= fun a => y >>= fun b => pure (f a b)).isOk = (x.isOk && y.isOk) := by
  cases x <;> cases y <;> rfl

theorem isOk_three (f : α → β → γ → δ) :
    (x >>= fun a => y >>= fun b => z >>= fun c => pure (f a b c)).isOk = (x.isOk && y.isOk && z.isOk) := by
  cases x <;> cases y <;> cases z <;> rfl

end Parts

theorem isShort_iff {n : Int} : isShort n = true ↔ n.natAbs < Nat.pow 10 digitLimit := by
  rw [isShort, decide_eq_true_eq, Nat.length_toDigits_le_iff (by decide) (by decide), Nat.pow_eq]

theorem intChars_of_isShort {n : Int} (short : isShort n = true) : intChars n = .ok (Literal.ofInt n) :=
  if_pos (isShort_iff.1 short)

theorem intChars_isOk (n : Int) : (intChars n).isOk = isShort n := by
  by_cases short : isShort n = true
  · rw [intChars_of_isShort short, short]
    rfl
  · rw [intChars, if_neg (mt isShort_iff.2 short), Bool.eq_false_iff.2 short]
    rfl

theorem keyText_isOk (key : Value) : (keyText key).isOk = hasKeyText key := by
  cases key with
  | bool b => cases b <;> rfl
  | int n => rw [keyText, isOk_map, intChars_isOk, hasKeyText]
  | _ => rfl

section Nesting
variable {nesting : Option Nat}

theorem all_zero_le : nesting.all (0 ≤ ·) = true := by
  cases nesting with
  | none => rfl
  | some limit => exact decide_eq_true (Nat.zero_le limit)

theorem all_max_le (a b : Nat) : nesting.all (max a b ≤ ·) = (nesting.all (a ≤ ·) && nesting.all (b ≤ ·)) := by
  cases nesting with
  | none => rfl
  | some limit =>
    simp only [Option.all_some]
    rw [← Bool.decide_and, decide_eq_decide]
    exact Nat.max_le

/-- What is written inside a list or a map can be one less deep. -/
theorem isOk_inside {f : Option Nat → Except Misuse (List Char)} {good : Bool} {d : Nat}
    (ok : ∀ limit, (f limit).isOk = (good && limit.all (d ≤ ·))) :
    (inside nesting >>= f).isOk = (good && nesting.all (d + 1 ≤ ·)) := by
  cases nesting with
  | none => exact ok none
  | some limit =>
    cases limit with
    | zero => rw [Option.all_some, decide_eq_false (Nat.not_succ_le_zero d), Bool.and_false]; rfl
    | succ limit =>
      refine (ok (some limit)).trans ?_
      rw [Option.all_some, Option.all_some, decide_eq_decide.2 Nat.succ_le_succ_iff]

end Nesting

mutual

/-- A value is written exactly if it has a text and is no deeper than one may nest. -/
theorem write_isOk : ∀ (v : Value) (nesting : Option Nat),
    (write nesting v).isOk = (hasText v && nesting.all (depth v ≤ ·))
  | .null, _ => all_zero_le.symm
  | .bool true, _ => all_zero_le.symm
  | .bool false, _ => all_zero_le.symm
  | .int n, nesting => by
    rw [write, intChars_isOk, hasText, depth, all_zero_le, Bool.and_true]
    all_goals nofun
  | .float _, _ => all_zero_le.symm
  | .text _, _ => all_zero_le.symm
  | .bytes .., _ => rfl
  | .list items, _ => isOk_inside fun limit => (isOk_bind_pure _).trans (writeItems_isOk items limit)
  | .tuple items, _ => isOk_inside fun limit => (isOk_bind_pure _).trans (writeItems_isOk items limit)
  | .map entries, _ => isOk_inside fun limit => (isOk_bind_pure _).trans (writeEntries_isOk entries limit)

theorem writeItems_isOk : ∀ (items : List Value) (nesting : Option Nat),
    (writeItems nesting items).isOk = (itemsHaveText items && nesting.all (itemDepth items ≤ ·))
  | [], _ => all_zero_le.symm
  | v :: rest, nesting => by
    rw [writeItems, isOk_both, write_isOk v, writeMoreItems_isOk rest, itemsHaveText, itemDepth, all_max_le]
    ac_rfl

theorem writeMoreItems_isOk : ∀ (items : List Value) (nesting : Option Nat),
    (writeMoreItems nesting items).isOk = (itemsHaveText items && nesting.all (itemDepth items ≤ ·))
  | [], _ => all_zero_le.symm
  | v :: rest, nesting => by
    rw [writeMoreItems, isOk_both, write_isOk v, writeMoreItems_isOk rest, itemsHaveText, itemDepth, all_max_le]
    ac_rfl

theorem writeEntries_isOk : ∀ (entries : List (Value × Value)) (nesting : Option Nat),
    (writeEntries nesting entries).isOk = (entriesHaveText entries && nesting.all (entryDepth entries ≤ ·))
  | [], _ => all_zero_le.symm
  | (k, v) :: rest, nesting => by
    rw [writeEntries, isOk_three, keyText_isOk, write_isOk v, writeMoreEntries_isOk rest, entriesHaveText, entryDepth,
      all_max_le]
    ac_rfl

theorem writeMoreEntries_isOk : ∀ (entries : List (Value × Value)) (nesting : Option Nat),
    (writeMoreEntries nesting entries).isOk = (entriesHaveText entries && nesting.all (entryDepth entries ≤ ·))
  | [], _ => all_zero_le.symm
  | (k, v) :: rest, nesting => by
    rw [writeMoreEntries, isOk_three, keyText_isOk, write_isOk v, writeMoreEntries_isOk rest, entriesHaveText, entryDepth,
      all_max_le]
    ac_rfl

end

theorem write_of_hasText {nesting : Option Nat} {v : Value} (h : hasText v = true)
    (fits : nesting.all (depth v ≤ ·) = true) : ∃ cs, write nesting v = .ok cs := by
  have ok := write_isOk v nesting
  rw [h, fits] at ok
  cases written : write nesting v with
  | error e =>
    rw [written] at ok
    cases ok
  | ok cs => exact ⟨cs, rfl⟩

theorem hasText_of_write {nesting : Option Nat} {v : Value} {cs : List Char} (h : write nesting v = .ok cs) :
    hasText v = true ∧ nesting.all (depth v ≤ ·) = true := by
  rw [← Bool.and_eq_true, ← write_isOk, h]
  rfl

/-! ### Plain values -/

mutual

theorem hasText_of_plain : ∀ {v : Value}, isPlain v = true → hasText v = true
  | .null, _ => rfl
  | .bool _, _ => rfl
  | .int _, h => h
  | .float _, _ => rfl
  | .text _, _ => rfl
  | .list _, h => itemsHaveText_of_plain h
  | .map _, h => entriesHaveText_of_plain h

theorem itemsHaveText_of_plain : ∀ {items : List Value}, areItemsPlain items = true → itemsHaveText items = true
  | [], _ => rfl
  | v :: rest, h => by
    rw [areItemsPlain, Bool.and_eq_true] at h
    rw [itemsHaveText, hasText_of_plain h.1, itemsHaveText_of_plain h.2]
    rfl

theorem entriesHaveText_of_plain : ∀ {entries : List (Value × Value)}, areEntriesPlain entries = true →
    entriesHaveText entries = true
  | [], _ => rfl
  | (.text key, v) :: rest, h => by
    rw [areEntriesPlain, Bool.and_eq_true, Bool.and_eq_true] at h
    rw [entriesHaveText, hasText_of_plain h.1.2, entriesHaveText_of_plain h.2]
    rfl

end

theorem write_of_plain {nesting : Option Nat} {v : Value} (h : isPlain v = true) (fits : nesting.all (depth v ≤ ·) = true) :
    ∃ cs, write nesting v = .ok cs :=
  write_of_hasText (hasText_of_plain h) fits

/-! ### Normal forms are plain -/

theorem areEntriesPlain_put {key : Text} {v : Value} {done : List (Value × Value)} (name : key.isJoined = true)
    (plain : areEntriesPlain done = true) (value : isPlain v = true) :
    areEntriesPlain (Value.put (.text key) v done) = true := by
  induction done with
  | nil => simp [Value.put, areEntriesPlain, Value.lookup, name, value]
  | cons e rest ih =>
    obtain ⟨k, w⟩ := e
    cases k with
    | text s =>
      simp only [areEntriesPlain, Bool.and_eq_true] at plain
      obtain ⟨⟨⟨whole, fresh⟩, old⟩, others⟩ := plain
      rw [Value.put, Value.equals]
      by_cases same : key = s
      · subst same
        simp [areEntriesPlain, name, fresh, value, others]
      · rw [if_neg (by simpa using same)]
        simp only [areEntriesPlain, Bool.and_eq_true]
        exact ⟨⟨⟨whole, by rwa [Value.lookup_put_other (Ne.symm same)]⟩, old⟩, ih others⟩
    | _ => simp [areEntriesPlain] at plain

theorem areEntriesPlain_merged {entries : Value.NamedEntries}
    (plain : ∀ e ∈ entries, e.1.isJoined = true ∧ isPlain e.2 = true) :
    areEntriesPlain entries.merged = true := by
  induction entries using List.reverseRecOn with
  | nil => rfl
  | append_singleton entries e ih =>
    rw [Value.NamedEntries.merged_concat]
    obtain ⟨name, value⟩ := plain e (by simp)
    exact areEntriesPlain_put name (ih fun d member => plain d (List.mem_append_left _ member)) value

/-- The entries of a map under the texts of their keys, with the values in normal form. -/
def namedEntries (entries : List (Value × Value)) : Value.NamedEntries := 
  entries.map fun e => ((keyName e.1).joined, normal e.2)

theorem normalEntries_eq (entries : List (Value × Value)) :
    normalEntries entries = (namedEntries entries).map fun e => (.text e.1, e.2) := by
  induction entries with
  | nil => rfl
  | cons e rest ih =>
    obtain ⟨k, v⟩ := e
    rw [normalEntries, ih]
    rfl

theorem normal_map (entries : List (Value × Value)) : normal (.map entries) = .map (namedEntries entries).merged := by
  rw [normal, normalEntries_eq]
  rfl

mutual

/-- What writing keeps of a value that can be written is plain. -/
theorem isPlain_normal : ∀ {v : Value}, hasText v = true → isPlain (normal v) = true
  | .null, _ => rfl
  | .bool _, _ => rfl
  | .int _, h => h
  | .float _, _ => rfl
  | .text s, _ => Text.isJoined_joined s
  | .list _, h => areItemsPlain_normal h
  | .tuple _, h => areItemsPlain_normal h
  | .map entries, h => by
    rw [normal_map]
    exact areEntriesPlain_merged (eachPlain_normal h)

theorem areItemsPlain_normal : ∀ {items : List Value}, itemsHaveText items = true →
    areItemsPlain (normalItems items) = true
  | [], _ => rfl
  | v :: rest, h => by
    rw [itemsHaveText, Bool.and_eq_true] at h
    rw [normalItems, areItemsPlain, isPlain_normal h.1, areItemsPlain_normal h.2]
    rfl

theorem eachPlain_normal : ∀ {entries : List (Value × Value)}, entriesHaveText entries = true →
    ∀ e ∈ namedEntries entries, e.1.isJoined = true ∧ isPlain e.2 = true
  | [], _ => nofun
  | (k, v) :: rest, h => by
    rw [entriesHaveText, Bool.and_eq_true, Bool.and_eq_true] at h
    intro e member
    rcases List.mem_cons.1 member with rfl | later
    · exact ⟨Text.isJoined_joined _, isPlain_normal h.1.2⟩
    · exact eachPlain_normal h.2 e later

end

/-! ### Normal forms are no deeper -/

theorem entryDepth_put (key : Text) (v : Value) (done : List (Value × Value)) :
    entryDepth (Value.put (.text key) v done) ≤ max (entryDepth done) (depth v) := by
  induction done with
  | nil => simp [Value.put, entryDepth]
  | cons e rest ih =>
    obtain ⟨k, w⟩ := e
    rw [Value.put]
    split
    · simp only [entryDepth]
      omega
    · simp only [entryDepth]
      omega

theorem entryDepth_merged {bound : Nat} {entries : Value.NamedEntries} (within : ∀ e ∈ entries, depth e.2 ≤ bound) :
    entryDepth entries.merged ≤ bound := by
  induction entries using List.reverseRecOn with
  | nil => exact Nat.zero_le bound
  | append_singleton entries e ih =>
    have before := ih fun d member => within d (List.mem_append_left _ member)
    have last := within e (by simp)
    have put := entryDepth_put e.1 e.2 (Value.NamedEntries.merged entries)
    rw [Value.NamedEntries.merged_concat]
    omega

mutual

theorem depth_normal : ∀ v : Value, depth (normal v) ≤ depth v
  | .null => Nat.le_refl _
  | .bool _ => Nat.le_refl _
  | .int _ => Nat.le_refl _
  | .float _ => Nat.le_refl _
  | .text _ => Nat.le_refl _
  | .bytes .. => Nat.le_refl _
  | .list items => Nat.succ_le_succ (itemDepth_normal items)
  | .tuple items => Nat.succ_le_succ (itemDepth_normal items)
  | .map entries => by
    rw [normal_map]
    exact Nat.succ_le_succ (entryDepth_merged (eachDepth_normal entries))

theorem itemDepth_normal : ∀ items : List Value, itemDepth (normalItems items) ≤ itemDepth items
  | [] => Nat.le_refl _
  | v :: rest => by
    have first := depth_normal v
    have others := itemDepth_normal rest
    rw [normalItems, itemDepth, itemDepth]
    omega

theorem eachDepth_normal : ∀ entries : List (Value × Value),
    ∀ e ∈ namedEntries entries, depth e.2 ≤ entryDepth entries
  | [] => nofun
  | (k, v) :: rest => by
    intro e member
    rw [entryDepth]
    rcases List.mem_cons.1 member with rfl | later
    · exact Nat.le_trans (depth_normal v) (Nat.le_max_left ..)
    · exact Nat.le_trans (eachDepth_normal rest e later) (Nat.le_max_right ..)

end

end RecordStore.Json
