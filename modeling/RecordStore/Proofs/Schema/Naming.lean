import RecordStore.Proofs.Error.Outcome
import RecordStore.Proofs.Value.Access
import RecordStore.Schema.RecordType

/-!
# Which names are accepted

A name is a text of at most 63 characters that is a word of ASCII letters, digits and underscores, no digit first, or such a
word with one line end behind it. Every other value is refused by an error that tells the value, where the value can be
written. A record type can be made of the values that are names, as long as its key is none of its fields.
-/

namespace RecordStore

/-! ### Words -/

def IsLetter (c : Char) : Prop := 'a' ≤ c ∧ c ≤ 'z' ∨ 'A' ≤ c ∧ c ≤ 'Z'

def IsNumeral (c : Char) : Prop := '0' ≤ c ∧ c ≤ '9'

theorem isAlpha_iff (c : Char) : c.isAlpha = true ↔ IsLetter c := by
  have ranges : c.isAlpha = (decide ('A' ≤ c ∧ c ≤ 'Z') || decide ('a' ≤ c) && decide (c ≤ 'z')) := rfl
  rw [ranges, Bool.or_eq_true, Bool.and_eq_true, decide_eq_true_iff, decide_eq_true_iff, decide_eq_true_iff]
  exact or_comm

theorem isDigit_iff (c : Char) : c.isDigit = true ↔ IsNumeral c := by
  have range : c.isDigit = (decide ('0' ≤ c) && decide (c ≤ '9')) := rfl
  rw [range, Bool.and_eq_true, decide_eq_true_iff, decide_eq_true_iff]
  exact Iff.rfl

theorem isIdentifierStart_iff (c : Char) : isIdentifierStart c = true ↔ IsLetter c ∨ c = '_' := by
  simp [isIdentifierStart, isAlpha_iff]

theorem isIdentifierChar_iff (c : Char) : isIdentifierChar c = true ↔ IsLetter c ∨ IsNumeral c ∨ c = '_' := by
  simp [isIdentifierChar, Char.isAlphanum, isAlpha_iff, isDigit_iff, or_assoc]

/-- Letters, digits and underscores, beginning with no digit. -/
structure IsWord (cs : List Char) : Prop where
  starts : ∃ c, cs.head? = some c ∧ (IsLetter c ∨ c = '_')
  chars : ∀ c ∈ cs, IsLetter c ∨ IsNumeral c ∨ c = '_'

theorem isWord_cons {c : Char} {rest : List Char} :
    IsWord (c :: rest) ↔ isIdentifierStart c = true ∧ rest.all isIdentifierChar = true := by
  rw [isIdentifierStart_iff, List.all_eq_true]
  constructor
  · rintro ⟨⟨d, first, starts⟩, chars⟩
    obtain rfl : c = d := Option.some.inj first
    exact ⟨starts, fun d member => (isIdentifierChar_iff d).2 (chars d (List.mem_cons_of_mem _ member))⟩
  · rintro ⟨starts, chars⟩
    refine ⟨⟨c, rfl, starts⟩, List.forall_mem_cons.2 ⟨?_, fun d member => (isIdentifierChar_iff d).1 (chars d member)⟩⟩
    exact starts.imp_right .inr

theorem IsWord.ne_lineEnd {cs : List Char} (word : IsWord cs) : '\n' ∉ cs := fun member =>
  absurd ((isIdentifierChar_iff '\n').2 (word.chars _ member)) (by decide)

theorem isIdentifierText_iff {cs : List Char} : isIdentifierText cs = true ↔ IsWord (withoutLineEnd cs) := by
  unfold isIdentifierText
  cases withoutLineEnd cs with
  | nil => exact ⟨nofun, fun word => by obtain ⟨c, first, -⟩ := word.starts; cases first⟩
  | cons c rest => rw [isWord_cons, Bool.and_eq_true]

/-! ### Names -/

/-- The texts that may be names: words of at most 63 characters, in which a line end behind the word counts. -/
def IsNameText (s : String) : Prop :=
  s.length ≤ 63 ∧ (IsWord s.toList ∨ ∃ cs, s.toList = cs ++ ['\n'] ∧ IsWord cs)

theorem isWord_withoutLineEnd {cs : List Char} :
    IsWord (withoutLineEnd cs) ↔ IsWord cs ∨ ∃ ds, cs = ds ++ ['\n'] ∧ IsWord ds := by
  unfold withoutLineEnd
  split
  · rename_i last
    obtain ⟨ds, rfl⟩ := List.getLast?_eq_some_iff.1 last
    rw [List.dropLast_concat]
    constructor
    · exact fun word => .inr ⟨ds, rfl, word⟩
    · rintro (word | ⟨es, same, word⟩)
      · exact absurd (by simp) word.ne_lineEnd
      · obtain rfl := List.append_cancel_right same
        exact word
  · rename_i other
    constructor
    · exact .inl
    · rintro (word | ⟨ds, rfl, -⟩)
      · exact word
      · exact absurd (List.getLast?_concat ..) other

theorem isIdentifier_iff (s : String) : isIdentifier s = true ↔ IsNameText s := by
  rw [isIdentifier, Bool.and_eq_true, decide_eq_true_iff, isIdentifierText_iff, isWord_withoutLineEnd]
  rfl

/-- The values that may be names. -/
def Value.IsName (v : Value) : Prop := ∃ s : String, v = .text s ∧ IsNameText s

/-- The values that are words, with nothing behind them. -/
def Value.IsWordName (v : Value) : Prop := ∃ s : String, v = .text s ∧ s.length ≤ 63 ∧ IsWord s.toList

theorem Value.IsWordName.isName {v : Value} (word : v.IsWordName) : v.IsName := by
  obtain ⟨s, rfl, short, word⟩ := word
  exact ⟨s, rfl, short, .inl word⟩

namespace Identifier

theorem isName (name : Identifier) : IsNameText name.text := (isIdentifier_iff _).1 name.valid

theorem eq_of_text {name other : Identifier} (same : name.text = other.text) : name = other := by
  cases name
  cases other
  cases same
  rfl

theorem names_text (name : Identifier) : Value.IsName (.text name.text) := ⟨_, rfl, name.isName⟩

theorem ofValue_text (name : Identifier) : ofValue (.text name.text) = .ok name := by
  simp [ofValue, ofText?, name.valid]

theorem ofValue_ok {v : Value} {name : Identifier} (made : ofValue v = .ok name) : v = .text name.text := by
  unfold ofValue ofText? at made
  split at made
  · split at made
    · rename_i found
      split at found
      · cases found
        cases made
        rfl
      · cases found
    · cases made
  · cases made

theorem ofValue_eq_ok_iff {v : Value} {name : Identifier} : ofValue v = .ok name ↔ v = .text name.text :=
  ⟨ofValue_ok, fun text => text ▸ ofValue_text name⟩

theorem ofValue_of_names {v : Value} (named : v.IsName) : ∃ name, ofValue v = .ok name := by
  obtain ⟨s, rfl, accepted⟩ := named
  exact ⟨⟨s, (isIdentifier_iff s).2 accepted⟩, ofValue_eq_ok_iff.2 rfl⟩

theorem ofValue_refuses {v : Value} (other : ¬v.IsName) : ofValue v = .error (.invalidIdentifier v) := by
  unfold ofValue
  split
  · rename_i s
    have refused : ¬isIdentifier s = true := fun valid => other ⟨s, rfl, (isIdentifier_iff s).1 valid⟩
    simp [ofText?, refused]
  · rfl

end Identifier

/-! ### What checking names ends with -/

/-- What is raised for a value that is no name: an error about the schema that tells the value, unless the value cannot be
written. -/
def nameRefusal (v : Value) : Failure :=
  if v.isWritable then .ofError (.invalidIdentifier v) else .ofMisuse (.malformed .writtenDigits)

theorem raising_invalidIdentifier (v : Value) : Failure.raising (.invalidIdentifier v) = nameRefusal v := by
  simp [Failure.raising, nameRefusal, AdapterError.invalidIdentifier, AdapterError.schema]

section Checking
variable {v : Value}

theorem nameRefusal_tells_iff : nameRefusal v = .ofError (.invalidIdentifier v) ↔ v.isWritable = true := by
  unfold nameRefusal
  split
  · rename_i writable
    exact iff_of_true rfl writable
  · rename_i unwritable
    exact iff_of_false nofun unwritable

theorem checked_of_names (named : v.IsName) :
    ∃ name : Identifier, (liftM (Identifier.ofValue v) : Outcome Identifier) = .ok name ∧ v = .text name.text := by
  obtain ⟨name, made⟩ := Identifier.ofValue_of_names named
  exact ⟨name, by rw [made]; rfl, Identifier.ofValue_ok made⟩

theorem checked_refuses (other : ¬v.IsName) :
    (liftM (Identifier.ofValue v) : Outcome Identifier) = .error (nameRefusal v) := by
  rw [Identifier.ofValue_refuses other]
  exact congrArg Except.error (raising_invalidIdentifier v)

/-- Words are accepted as names and every other value is refused by an error about the schema. -/
def WordsAlone (v : Value) : Prop :=
  (v.IsWordName → ∃ name : Identifier, (liftM (Identifier.ofValue v) : Outcome Identifier) = .ok name) ∧
    (¬v.IsWordName → (liftM (Identifier.ofValue v) : Outcome Identifier) = .error (.ofError (.invalidIdentifier v)))

theorem wordsAlone_iff : WordsAlone v ↔ v.IsWordName ∨ ¬v.IsName ∧ v.isWritable = true := by
  by_cases word : v.IsWordName
  · obtain ⟨name, checked, -⟩ := checked_of_names word.isName
    exact iff_of_true ⟨fun _ => ⟨name, checked⟩, fun other => absurd word other⟩ (.inl word)
  · by_cases named : v.IsName
    · -- A line end behind the word: accepted, and no error.
      obtain ⟨name, checked, -⟩ := checked_of_names named
      refine iff_of_false (fun alone => ?_) (fun either => either.elim word fun other => other.1 named)
      have refused := alone.2 word
      rw [checked] at refused
      cases refused
    · rw [WordsAlone, checked_refuses named, Except.error.injEq, nameRefusal_tells_iff]
      simp [word, named]

end Checking

namespace RecordType

/-- The values that name the parts of a record type, in the order in which they are checked. -/
def nameValues (name key : Value) (definitions : List (Value × Field)) : List Value :=
  name :: key :: definitions.map (·.1)

section Definitions
variable {definitions : List (Value × Field)}

theorem identifiers_ok {fields : List (Identifier × Field)} (made : identifiers definitions = .ok fields) :
    definitions = fields.map fun entry => (.text entry.1.text, entry.2) := by
  induction definitions generalizing fields with
  | nil =>
    cases made
    rfl
  | cons entry rest ih =>
    obtain ⟨identifier, named, made⟩ := bind_ok made
    obtain ⟨others, more, made⟩ := bind_ok made
    obtain rfl := pure_ok made
    rw [List.map_cons, ← ih more, ← Identifier.ofValue_ok named]

theorem identifiers_total (named : ∀ v ∈ definitions.map (·.1), v.IsName) : ∃ fields, identifiers definitions = .ok fields := by
  induction definitions with
  | nil => exact ⟨[], rfl⟩
  | cons entry rest ih =>
    obtain ⟨identifier, first⟩ := Identifier.ofValue_of_names (named entry.1 List.mem_cons_self)
    obtain ⟨others, more⟩ := ih fun v member => named v (List.mem_cons_of_mem _ member)
    exact ⟨(identifier, entry.2) :: others, by rw [identifiers, first, more]; rfl⟩

theorem identifiers_refuses {before after : List Value} {v : Value} (split : definitions.map (·.1) = before ++ v :: after)
    (fine : ∀ w ∈ before, w.IsName) (other : ¬v.IsName) : identifiers definitions = .error (.invalidIdentifier v) := by
  induction definitions generalizing before with
  | nil => simp at split
  | cons entry rest ih =>
    cases before with
    | nil =>
      obtain ⟨rfl, -⟩ := List.cons.inj split
      rw [identifiers, Identifier.ofValue_refuses other]
      rfl
    | cons w before =>
      obtain ⟨rfl, later⟩ := List.cons.inj split
      obtain ⟨identifier, first⟩ := Identifier.ofValue_of_names (fine _ List.mem_cons_self)
      rw [identifiers, first, ih later fun w member => fine w (List.mem_cons_of_mem _ member)]
      rfl

end Definitions

theorem mem_names_foldl (definitions done : List (Identifier × Field)) (name : String) :
    name ∈ (definitions.foldl (fun done (name, field) => putField name field done) done).map (·.1.text) ↔
      name ∈ done.map (·.1.text) ∨ name ∈ definitions.map (·.1.text) := by
  induction definitions generalizing done with
  | nil => simp
  | cons entry rest ih =>
    refine (ih (putField entry.1 entry.2 done)).trans ?_
    rw [names_putField, List.map_cons, List.mem_cons, ← or_assoc]
    refine or_congr_left ?_
    split
    · rename_i known
      exact ⟨.inl, fun either => either.elim id fun same => same ▸ known⟩
    · rw [List.mem_append, List.mem_singleton]

theorem mem_names_merged (definitions : List (Identifier × Field)) (name : String) :
    name ∈ (merged definitions).map (·.1.text) ↔ name ∈ definitions.map (·.1.text) := by
  rw [merged, mem_names_foldl]
  simp

variable {name key : Value} {definitions : List (Value × Field)}

/-- The names of a record type are the values that it was made of. -/
structure MadeOf (name key : Value) (definitions : List (Value × Field)) (type : RecordType) : Prop where
  table : name = .text type.name.text
  key : key = .text type.key.text
  fields : ∀ v, v ∈ definitions.map (·.1) ↔ ∃ entry ∈ type.fields, v = .text entry.1.text

theorem ofValues_ok {type : RecordType} (made : ofValues name key definitions = .ok type) : MadeOf name key definitions type := by
  obtain ⟨table, tabled, made⟩ := bind_ok made
  obtain ⟨keyName, keyed, made⟩ := bind_ok made
  obtain ⟨fields, fielded, made⟩ := bind_ok made
  split at made
  · cases made
  · obtain rfl := pure_ok made
    refine ⟨Identifier.ofValue_ok (adapter_ok tabled), Identifier.ofValue_ok (adapter_ok keyed), fun v => ?_⟩
    obtain rfl := identifiers_ok (adapter_ok fielded)
    rw [List.map_map, List.mem_map]
    constructor
    · rintro ⟨entry, member, rfl⟩
      obtain ⟨kept, among, same⟩ := List.mem_map.1 ((mem_names_merged fields _).2 (List.mem_map_of_mem member))
      exact ⟨kept, among, by rw [same]; rfl⟩
    · rintro ⟨kept, among, rfl⟩
      obtain ⟨entry, member, same⟩ := List.mem_map.1 ((mem_names_merged fields _).1 (List.mem_map_of_mem among))
      exact ⟨entry, member, by rw [← same]; rfl⟩

/-- A record type can be made exactly of values that are names and of which the key is none of the fields. -/
theorem ofValues_ok_iff : (∃ type, ofValues name key definitions = .ok type) ↔
    (∀ v ∈ nameValues name key definitions, v.IsName) ∧ key ∉ definitions.map (·.1) := by
  constructor
  · rintro ⟨type, made⟩
    have of := ofValues_ok made
    refine ⟨?_, fun member => ?_⟩
    · intro v member
      rcases List.mem_cons.1 member with rfl | member
      · rw [of.table]
        exact type.name.names_text
      · rcases List.mem_cons.1 member with rfl | member
        · rw [of.key]
          exact type.key.names_text
        · obtain ⟨entry, -, rfl⟩ := (of.fields v).1 member
          exact entry.1.names_text
    · obtain ⟨entry, among, same⟩ := (of.fields key).1 member
      have text : type.key.text = entry.1.text :=
        Value.string_inj (of.key.symm.trans same)
      exact type.key_not_field (text ▸ List.mem_map_of_mem among)
  · rintro ⟨named, apart⟩
    obtain ⟨table, tabled⟩ := Identifier.ofValue_of_names (named name List.mem_cons_self)
    obtain ⟨keyName, keyed⟩ := Identifier.ofValue_of_names (named key (List.mem_cons_of_mem _ List.mem_cons_self))
    obtain ⟨fields, fielded⟩ := @identifiers_total definitions fun v member =>
      named v (List.mem_cons_of_mem _ (List.mem_cons_of_mem _ member))
    have free : keyName.text ∉ (merged fields).map (·.1.text) := by
      rw [mem_names_merged]
      intro member
      obtain ⟨entry, among, same⟩ := List.mem_map.1 member
      refine apart (Identifier.ofValue_ok keyed ▸ ?_)
      rw [identifiers_ok fielded, List.map_map]
      exact List.mem_map.2 ⟨entry, among, by simp [same]⟩
    refine ⟨⟨table, keyName, merged fields, nodup_merged fields, free⟩, ?_⟩
    rw [ofValues, tabled, keyed, fielded]
    change (if h : _ then _ else _) = _
    rw [dif_neg free]
    rfl

/-- The first value that is no name is refused, whatever comes behind it. -/
theorem ofValues_refuses {before after : List Value} {v : Value}
    (split : nameValues name key definitions = before ++ v :: after) (fine : ∀ w ∈ before, w.IsName) (other : ¬v.IsName) :
    ofValues name key definitions = .error (nameRefusal v) := by
  have known {w : Value} (named : w.IsName) : ∃ name : Identifier, (liftM (Identifier.ofValue w) : Outcome Identifier) = .ok name :=
    (checked_of_names named).imp fun _ => And.left
  unfold ofValues
  cases before with
  | nil =>
    obtain ⟨rfl, -⟩ := List.cons.inj split
    rw [checked_refuses other]
    rfl
  | cons first before =>
    obtain ⟨rfl, later⟩ : name = first ∧ key :: definitions.map (·.1) = before ++ v :: after := List.cons.inj split
    obtain ⟨table, tabled⟩ := known (fine _ List.mem_cons_self)
    rw [tabled]
    cases before with
    | nil =>
      obtain ⟨rfl, -⟩ := List.cons.inj later
      rw [checked_refuses other]
      rfl
    | cons second before =>
      obtain ⟨rfl, last⟩ : key = second ∧ definitions.map (·.1) = before ++ v :: after := List.cons.inj later
      obtain ⟨keyName, keyed⟩ := known (fine _ (List.mem_cons_of_mem _ List.mem_cons_self))
      have fielded := identifiers_refuses last (fun w member => fine w (by simp [member])) other
      rw [keyed, fielded]
      exact congrArg Except.error (raising_invalidIdentifier v)

end RecordType

end RecordStore
