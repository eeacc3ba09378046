import RecordStore.Proofs.Query.Safety
import RecordStore.Proofs.Query.SearchShape
import RecordStore.Proofs.Sql.Verdict

/-!
# The language of filters

A filter in the containers that its operators are documented with is refused with a schema error exactly when one of its nodes
is `FaultyNode`: it has an operator that there is none of, a column that is not declared, or a range that is no pair. Whatever
is compiled names declared columns only.
-/

namespace RecordStore

/-! ### Declared columns -/

namespace RecordType

def columns (type : RecordType) : List Identifier := type.key :: type.fieldNames

def Declares (type : RecordType) (name : Value) : Prop := ∃ column ∈ type.columns, name = .text column.text

variable {type : RecordType} {name : Value}

theorem isSome_field?_iff {s : String} : (type.field? s).isSome ↔ ∃ column ∈ type.columns, column.text = s := by
  unfold field? declared? columns fieldNames
  by_cases key : s = type.key.text
  · simp [key]
  · rw [if_neg key, Option.isSome_map, List.find?_isSome]
    simp [Ne.symm key]

theorem field_of_declares (h : type.Declares name) : ∃ field, type.field name = .ok field := by
  obtain ⟨column, member, rfl⟩ := h
  obtain ⟨field, found⟩ := Option.isSome_iff_exists.1 (isSome_field?_iff.2 ⟨column, member, rfl⟩)
  refine ⟨field, ?_⟩
  unfold RecordType.field
  rw [Value.string?_text, Option.bind_some, found]

theorem ofValue_of_declares (h : type.Declares name) : ∃ column ∈ type.columns, Identifier.ofValue name = .ok column := by
  obtain ⟨column, member, rfl⟩ := h
  exact ⟨column, member, Identifier.ofValue_text column⟩

theorem declares_of_field {field : Field} (h : type.field name = .ok field) : type.Declares name := by
  unfold RecordType.field at h
  cases found : name.string?.bind type.field? with
  | none =>
    rw [found] at h
    cases h
  | some own =>
    obtain ⟨s, text, declared⟩ := Option.bind_eq_some_iff.1 found
    obtain ⟨column, member, same⟩ := isSome_field?_iff.1 (Option.isSome_iff_exists.2 ⟨own, declared⟩)
    exact ⟨column, member, same ▸ Value.string?_eq_some_iff.1 text⟩

end RecordType

namespace Sql

/-- Lexemes in which all names are those of certain tables and columns. -/
def NamesOnly (known : List Identifier) (ls : List Lexeme) : Prop :=
  ∀ cs, .name cs ∈ ls → ∃ name ∈ known, name.text.toList = cs

section NamesOnly
variable {known : List Identifier} {ls ms : List Lexeme}

@[simp] theorem namesOnly_nil : NamesOnly known [] := nofun

@[simp] theorem namesOnly_word (w : List Char) : NamesOnly known (.word w :: ls) ↔ NamesOnly known ls := by simp [NamesOnly]

@[simp] theorem namesOnly_mark (c : Char) : NamesOnly known (.mark c :: ls) ↔ NamesOnly known ls := by simp [NamesOnly]

@[simp] theorem namesOnly_name (column : Identifier) :
    NamesOnly known (nameLexeme column :: ls) ↔
      (∃ name ∈ known, name.text.toList = column.text.toList) ∧ NamesOnly known ls := by
  simp [NamesOnly, nameLexeme]

@[simp] theorem namesOnly_append : NamesOnly known (ls ++ ms) ↔ NamesOnly known ls ∧ NamesOnly known ms := by
  simp only [NamesOnly, List.mem_append]
  exact ⟨fun h => ⟨fun cs inside => h cs (.inl inside), fun cs inside => h cs (.inr inside)⟩,
    fun h cs inside => inside.elim (h.1 cs) (h.2 cs)⟩

theorem namesOnly_mono {more : List Identifier} (fewer : known ⊆ more) (named : NamesOnly known ls) : NamesOnly more ls := by
  intro cs member
  obtain ⟨name, among, same⟩ := named cs member
  exact ⟨name, fewer among, same⟩

theorem namesOnly_separated {parts : List (List Lexeme)} (each : ∀ ls ∈ parts, NamesOnly known ls) :
    NamesOnly known (separated parts) := by
  intro cs member
  rcases mem_separated member with comma | ⟨ls, among, inside⟩
  · cases comma
  · exact each ls among cs inside

theorem namesOnly_slots {slots : List Slot} (safe : ∀ slot ∈ slots, slot.cast ∈ castTexts) :
    NamesOnly known (slotLexemes slots) := by
  have int : Slot.castLexemes "::int" = [.mark ':', .mark ':', .word "int".toList] := by decide +kernel
  have bytes : Slot.castLexemes "::bytea" = [.mark ':', .mark ':', .word "bytea".toList] := by decide +kernel
  rw [slotLexemes_eq]
  refine namesOnly_separated fun ls member => ?_
  obtain ⟨slot, inside, rfl⟩ := List.mem_map.1 member
  have cast := safe slot inside
  simp only [castTexts, List.mem_cons, List.not_mem_nil, or_false] at cast
  rcases cast with none | int' | bytes'
  · simp [Slot.lexemes, none, show Slot.castLexemes "" = [] from rfl]
  · simp [Slot.lexemes, int', int]
  · simp [Slot.lexemes, bytes', bytes]

theorem namesOnly_operand {operand : Operand} (member : operand.column ∈ known) : NamesOnly known operand.lexemes := by
  unfold Operand.lexemes lengthLexemes
  split <;> simpa using ⟨_, member, rfl⟩

end NamesOnly

theorem namesOnly_test {known : List Identifier} {t : Test} (safe : t.Safe) (opening : NamesOnly known t.opening) :
    NamesOnly known t.lexemes := by
  have closing : NamesOnly known t.closing := by cases t <;> simp [Test.closing]
  rw [Test.lexemes, namesOnly_append, namesOnly_append]
  exact ⟨opening, namesOnly_slots safe, closing⟩

end Sql

namespace Query
open Sql Binding

/-! ### Columns -/

variable {type : RecordType} {name value : Value}

theorem ofValue_error {error : AdapterError} (h : Identifier.ofValue name = .error error) :
    error = .invalidIdentifier name := by
  by_cases named : name.IsName
  · obtain ⟨column, made⟩ := Identifier.ofValue_of_names named
    cases made.symm.trans h
  · exact (Except.error.inj ((Identifier.ofValue_refuses named).symm.trans h)).symm

theorem field_error {error : AdapterError} (h : type.field name = .error error) :
    error = .unknownField name type.name.text := by
  unfold RecordType.field at h
  split at h
  · cases h
  · exact (Except.error.inj h).symm

theorem judged_field (writable : name.isWritable) :
    Judged (¬type.Declares name) (fun _ => type.Declares name) (liftM (type.field name)) := by
  cases found : type.field name with
  | ok field =>
    have declares := RecordType.declares_of_field found
    exact .accepted (not_not_intro declares) declares
  | error error =>
    obtain rfl := field_error found
    refine judged_adapter_error rfl (fun declares => ?_) rfl (by simp [AdapterError.unknownField, AdapterError.schema,
      writable, Value.isWritable])
    obtain ⟨field, own⟩ := RecordType.field_of_declares declares
    cases found.symm.trans own

theorem judged_column (writable : name.isWritable) :
    Judged (¬type.Declares name) (fun found => found.1 ∈ type.columns) (liftM (type.column name)) := by
  unfold RecordType.column
  by_cases declares : type.Declares name
  · obtain ⟨column, member, known⟩ := RecordType.ofValue_of_declares declares
    obtain ⟨field, found⟩ := RecordType.field_of_declares declares
    rw [known, found]
    exact .accepted (not_not_intro declares) member
  · cases known : Identifier.ofValue name with
    | error error =>
      obtain rfl := ofValue_error known
      exact judged_adapter_error rfl declares rfl (by simp [AdapterError.invalidIdentifier, AdapterError.schema, writable])
    | ok column =>
      cases found : type.field name with
      | ok field => exact absurd (RecordType.declares_of_field found) declares
      | error error =>
        obtain rfl := field_error found
        exact judged_adapter_error rfl declares rfl (by simp [AdapterError.unknownField, AdapterError.schema, writable,
          Value.isWritable])

/-! ### Bound values -/

/-- A value that, if it is a map, has a JSON text. -/
def Storable (v : Value) : Prop := ∀ entries, v = .map entries → ∃ s, Json.text (some Json.depthLimit) v = .ok s

/-- A value that can be bound, whole and item by item. -/
def Bindable (v : Value) : Prop := Storable v ∧ ∀ items, v.sequence? = some items → ∀ item ∈ items, Storable item

theorem decides_encoded {v : Value} (storable : Storable v) :
    Decides False (fun _ => True) (liftM v.encoded : Binding Value) := by
  cases v with
  | map entries =>
    obtain ⟨s, written⟩ := storable entries rfl
    exact decides_misuse (a := .text s) (by rw [Value.encoded, Value.encodedWithin, written]; rfl) trivial
  | _ => exact decides_misuse rfl trivial

theorem decides_slot (v : Value) {cast : String} (safe : cast ∈ castTexts) :
    Decides False (fun slot => slot.cast ∈ castTexts) (Sql.bind v cast) := fun _ => .accepted id safe

theorem decides_bindEncoded {v : Value} (storable : Storable v) :
    Decides False (fun slot => slot.cast ∈ castTexts) (bindEncoded v) :=
  (decides_encoded storable).before fun stored _ => decides_slot stored (by simp [castTexts])

theorem decides_bindElement {v : Value} (storable : Storable v) :
    Decides False (fun slot => slot.cast ∈ castTexts) (bindElement v) :=
  (decides_encoded storable).before fun stored _ => decides_slot stored (elementCast_safe v)

theorem decides_slots {bind : Value → Binding Slot} {items : List Value}
    (each : ∀ item ∈ items, Decides False (fun slot => slot.cast ∈ castTexts) (bind item)) :
    Decides False (fun slots => ∀ slot ∈ slots, slot.cast ∈ castTexts) (items.mapM bind) :=
  (decides_mapM each).of_iff (by simp)

/-! ### Tests -/

def NamesDeclared (type : RecordType) (t : Test) : Prop := NamesOnly type.columns t.lexemes

theorem decides_matchTest (writable : name.isWritable) (bindable : Bindable value) :
    Decides (¬type.Declares name) (NamesDeclared type) (matchTest type name value) := by
  refine (decides_adapter (judged_column writable)).after fun (column, field) member => ?_
  have known : ∃ name ∈ type.columns, name.text.toList = column.text.toList := ⟨column, member, rfl⟩
  dsimp only
  cases field.isArray with
  | true =>
    rw [if_pos rfl]
    have items : ∀ item ∈ value.sequence?.getD [value], Storable item := by
      cases sequence : value.sequence? with
      | none => simpa using bindable.1
      | some items => exact bindable.2 items sequence
    split
    · exact decides_pure (by simp [NamesDeclared, Test.lexemes, Test.opening, Test.closing, Test.slots, slotLexemes])
    · refine (decides_slots fun item member => decides_bindElement (items item member)).before fun slots safe => ?_
      exact decides_pure (namesOnly_test safe (by simpa [Test.opening] using known))
  | false =>
    rw [if_neg (by simp)]
    split
    · exact decides_pure (by simp [NamesDeclared, Test.lexemes, Test.opening, Test.closing, Test.slots, slotLexemes])
    · rename_i sequence
      refine (decides_slots fun item member => decides_bindEncoded (bindable.2 _ sequence item member)).before
        fun slots safe => ?_
      exact decides_pure (namesOnly_test safe (by simpa [Test.opening] using known))
    · refine (decides_bindEncoded bindable.1).before fun slot safe => ?_
      exact decides_pure (namesOnly_test (by simpa [Test.Safe, Test.slots] using safe) (by simpa [Test.opening] using known))

/-- A list or a tuple of two. -/
def IsPair (v : Value) : Prop := ∃ lower upper, v.sequence? = some [lower, upper]

theorem judged_rangeEnds {bounds : Value} (writable : name.isWritable) (bindable : Bindable bounds) :
    Judged (¬IsPair bounds) (fun ends => Storable ends.1 ∧ Storable ends.2) (rangeEnds name bounds) := by
  unfold rangeEnds
  split
  · rename_i lower upper pair
    exact .accepted (not_not_intro ⟨lower, upper, pair⟩)
      ⟨bindable.2 _ pair lower (by simp), bindable.2 _ pair upper (by simp)⟩
  · rename_i noPair
    have shown : Judged False (fun _ => True) (liftM name.shownText : Outcome Text) :=
      judged_misuse (Value.shownText_of_writable writable) trivial
    refine shown.before fun shown _ => judged_refuse (fun pair => ?_) rfl rfl
    obtain ⟨lower, upper, pair⟩ := pair
    exact noPair lower upper pair

theorem decides_rangeEnd {bound : Value} (storable : Storable bound) {test : Slot → Test}
    (slots : ∀ slot, (test slot).slots = [slot]) (opening : ∀ slot, NamesOnly type.columns (test slot).opening) :
    Decides False (fun tests => ∀ t ∈ tests, NamesDeclared type t) (rangeEnd bound test) := by
  unfold rangeEnd
  split
  · exact decides_pure nofun
  · refine (decides_bindEncoded storable).before fun slot safe => decides_pure ?_
    have named : NamesDeclared type (test slot) :=
      namesOnly_test (by simpa [Test.Safe, slots] using safe) (opening slot)
    simpa using named

theorem decides_rangeTests {bounds : Value} (writable : name.isWritable) (bindable : Bindable bounds) :
    Decides (¬IsPair bounds ∨ ¬type.Declares name) (fun tests => ∀ t ∈ tests, NamesDeclared type t)
      (rangeTests type name bounds) := by
  rw [rangeTests_eq]
  refine (decides_outcome (judged_rangeEnds writable bindable)).bind fun (lower, upper) storable => ?_
  refine (decides_adapter (judged_column writable)).after fun (column, field) member => ?_
  have operand : NamesOnly type.columns (Operand.lexemes ⟨column, field.isArray⟩) := namesOnly_operand member
  refine (decides_rangeEnd storable.1 (fun _ => rfl) fun slot => by simpa [Test.opening] using operand).before
    fun least named => ?_
  refine (decides_rangeEnd storable.2 (fun _ => rfl) fun slot => by simpa [Test.opening] using operand).before
    fun most more => ?_
  exact decides_pure fun t inside => (List.mem_append.1 inside).elim (named t) (more t)

theorem liftM_bind {α β : Type} (result : Except AdapterError α) (f : α → Except AdapterError β) :
    (liftM (result >>= f) : Outcome β) = (liftM result >>= fun a => liftM (f a)) := by
  cases result <;> rfl

theorem decides_existsTest (writable : name.isWritable) :
    Decides (¬type.Declares name) (NamesDeclared type) (liftM (existsTest type name value)) := by
  refine decides_adapter ?_
  rw [existsTest, liftM_bind]
  refine (judged_column writable).after fun (column, field) member => ?_
  have known : ∃ name ∈ type.columns, name.text.toList = column.text.toList := ⟨column, member, rfl⟩
  refine judged_adapter_ok rfl id ?_
  cases field.isArray <;> cases value.holds <;>
    exact namesOnly_test (by simp [Test.Safe, Test.slots]) (by simpa [Test.opening, lengthLexemes] using known)

theorem decides_containsTest (writable : name.isWritable) (valueWritable : value.isWritable) :
    Decides (¬type.Declares name) (NamesDeclared type) (containsTest type name value) := by
  refine (decides_adapter (judged_field writable)).after fun field declares => ?_
  obtain ⟨column, member, identified⟩ := RecordType.ofValue_of_declares declares
  have known : ∃ name ∈ type.columns, name.text.toList = column.text.toList := ⟨column, member, rfl⟩
  have identifier : Judged False (· = column) (liftM (Identifier.ofValue name)) := judged_adapter_ok identified id rfl
  have shown : Decides False (fun _ => True) (liftM value.shownText : Binding Text) :=
    decides_misuse (Value.shownText_of_writable valueWritable) trivial
  refine (decides_adapter identifier).before fun _ same => shown.before fun shown _ => ?_
  subst same
  refine (decides_slot _ (by simp [castTexts])).before fun pattern safe => decides_pure ?_
  cases field.isArray <;>
    exact namesOnly_test (by simpa [Test.Safe, Test.slots] using safe) (by simpa [Test.opening] using known)

/-! ### Documented and faulty filters -/

def Operator.testsColumns : Operator → Bool
  | .fits | .within | .present | .contains => true
  | .every | .either | .negation => false

mutual

/-- A node of a filter: every operator has the container that it is documented with. -/
inductive Documented : List (Value × Value) → Prop
  | node {entries : List (Value × Value)} (each : ∀ key v, (key, v) ∈ entries →
      ∀ operator, Operator.ofValue? key = some operator → Contains operator v) : Documented entries

inductive Contains : Operator → Value → Prop
  | nothing {operator : Operator} : Contains operator .null
  | leaves {operator : Operator} {leaves : List (Value × Value)} (tests : operator.testsColumns)
    (bindable : ∀ leaf ∈ leaves, Bindable leaf.2) : Contains operator (.map leaves)
  | filter {operator : Operator} {entries : List (Value × Value)} (joins : operator.testsColumns = false)
    (inner : Documented entries) : Contains operator (.map entries)
  | filters {operator : Operator} {v : Value} {items : List Value} (joins : operator = .every ∨ operator = .either)
    (sequence : v.sequence? = some items) (maps : ∀ item ∈ items, ∃ entries, item = .map entries)
    (inner : ∀ entries, .map entries ∈ items → Documented entries) : Contains operator v

end

/-- What is wrong with a column and the value that an operator gives it. -/
def LeafFault (type : RecordType) (operator : Operator) (name value : Value) : Prop :=
  ¬type.Declares name ∨ operator = .within ∧ ¬IsPair value

mutual

/-- A node of a filter with something wrong in it, at any depth. Nothing under an entry that is null counts. -/
inductive FaultyNode (type : RecordType) : List (Value × Value) → Prop
  | entry {entries : List (Value × Value)} {key v : Value} (member : (key, v) ∈ entries)
    (faulty : FaultyEntry type key v) : FaultyNode type entries

inductive FaultyEntry (type : RecordType) : Value → Value → Prop
  | operator {key v : Value} (unknown : Operator.ofValue? key = none) : FaultyEntry type key v
  | leaf {key name value : Value} {operator : Operator} {leaves : List (Value × Value)}
    (known : Operator.ofValue? key = some operator) (tests : operator.testsColumns) (member : (name, value) ∈ leaves)
    (fault : LeafFault type operator name value) : FaultyEntry type key (.map leaves)
  | filter {key : Value} {operator : Operator} {entries : List (Value × Value)}
    (known : Operator.ofValue? key = some operator) (joins : operator.testsColumns = false)
    (inner : FaultyNode type entries) : FaultyEntry type key (.map entries)
  | filters {key v : Value} {operator : Operator} {items : List Value} {entries : List (Value × Value)}
    (known : Operator.ofValue? key = some operator) (joins : operator = .every ∨ operator = .either)
    (sequence : v.sequence? = some items) (member : .map entries ∈ items) (inner : FaultyNode type entries) :
    FaultyEntry type key v

end

theorem documented_cons {key v : Value} {rest : List (Value × Value)} (h : Documented ((key, v) :: rest)) :
    (∀ operator, Operator.ofValue? key = some operator → Contains operator v) ∧ Documented rest := by
  obtain ⟨each⟩ := h
  exact ⟨each key v List.mem_cons_self, .node fun k w member => each k w (List.mem_cons_of_mem _ member)⟩

theorem documented_single {key v : Value} (contains : ∀ operator, Operator.ofValue? key = some operator → Contains operator v) :
    Documented [(key, v)] := by
  refine .node fun own w member => ?_
  obtain ⟨rfl, rfl⟩ := Prod.mk.inj (List.mem_singleton.1 member)
  exact contains

theorem not_faultyNode_nil : ¬FaultyNode type [] := by
  rintro ⟨member, -⟩
  cases member

theorem faultyNode_cons {key v : Value} {rest : List (Value × Value)} :
    FaultyNode type ((key, v) :: rest) ↔ FaultyEntry type key v ∨ FaultyNode type rest := by
  constructor
  · rintro ⟨member, faulty⟩
    rcases List.mem_cons.1 member with same | later
    · cases same
      exact .inl faulty
    · exact .inr (.entry later faulty)
  · rintro (faulty | ⟨member, faulty⟩)
    · exact .entry List.mem_cons_self faulty
    · exact .entry (List.mem_cons_of_mem _ member) faulty

/-- Filters under "and" or "or": one of them, or several. -/
def ContainsFilters (v : Value) : Prop :=
  (∃ entries, v = .map entries ∧ Documented entries) ∨
    ∃ items, v.sequence? = some items ∧ (∀ item ∈ items, ∃ entries, item = .map entries) ∧
      ∀ entries, .map entries ∈ items → Documented entries

def FaultyFilters (type : RecordType) (v : Value) : Prop :=
  (∃ entries, v = .map entries ∧ FaultyNode type entries) ∨
    ∃ items entries, v.sequence? = some items ∧ .map entries ∈ items ∧ FaultyNode type entries

section Sequence
variable {v : Value} {items : List Value} (sequence : v.sequence? = some items)
include sequence

theorem ContainsFilters.several (contains : ContainsFilters v) :
    (∀ item ∈ items, ∃ entries, item = .map entries) ∧ ∀ entries, .map entries ∈ items → Documented entries := by
  obtain ⟨entries, rfl, -⟩ | ⟨own, same, several⟩ := contains
  · cases sequence
  · cases sequence.symm.trans same
    exact several

theorem faultyFilters_several : FaultyFilters type v ↔ ∃ entries, .map entries ∈ items ∧ FaultyNode type entries := by
  constructor
  · rintro (⟨entries, rfl, -⟩ | ⟨own, entries, same, faulty⟩)
    · cases sequence
    · cases sequence.symm.trans same
      exact ⟨entries, faulty⟩
  · rintro ⟨entries, faulty⟩
    exact .inr ⟨items, entries, sequence, faulty⟩

end Sequence

section Entries
variable {key v : Value} {operator : Operator} {entries leaves : List (Value × Value)}

theorem not_faultyEntry_null (known : Operator.ofValue? key = some operator) : ¬FaultyEntry type key .null := by
  intro faulty
  generalize null : Value.null = v at faulty
  cases faulty with
  | operator unknown => cases known.symm.trans unknown
  | leaf => cases null
  | filter => cases null
  | filters _ _ sequence => subst null; cases sequence

theorem faultyEntry_leaves (known : Operator.ofValue? key = some operator) (tests : operator.testsColumns) :
    FaultyEntry type key (.map leaves) ↔ ∃ leaf ∈ leaves, LeafFault type operator leaf.1 leaf.2 := by
  constructor
  · intro faulty
    cases faulty with
    | operator unknown => cases known.symm.trans unknown
    | leaf own _ member fault =>
      cases known.symm.trans own
      exact ⟨_, member, fault⟩
    | filter own joins =>
      cases known.symm.trans own
      cases tests.symm.trans joins
    | filters _ _ sequence => cases sequence
  · rintro ⟨⟨name, value⟩, member, fault⟩
    exact .leaf known tests member fault

theorem faultyEntry_filter (known : Operator.ofValue? key = some operator) (joins : operator.testsColumns = false) :
    FaultyEntry type key (.map entries) ↔ FaultyNode type entries := by
  constructor
  · intro faulty
    cases faulty with
    | operator unknown => cases known.symm.trans unknown
    | leaf own tests =>
      cases known.symm.trans own
      cases tests.symm.trans joins
    | filter _ _ inner => exact inner
    | filters _ _ sequence => cases sequence
  · exact .filter known joins

theorem faultyEntry_filters (known : Operator.ofValue? key = some operator) (joins : operator = .every ∨ operator = .either) :
    FaultyEntry type key v ↔ FaultyFilters type v := by
  have noTests : operator.testsColumns = false := by rcases joins with rfl | rfl <;> rfl
  constructor
  · intro faulty
    cases faulty with
    | operator unknown => cases known.symm.trans unknown
    | leaf own tests =>
      cases known.symm.trans own
      cases tests.symm.trans noTests
    | filter _ _ inner => exact .inl ⟨_, rfl, inner⟩
    | filters _ _ sequence member inner => exact .inr ⟨_, _, sequence, member, inner⟩
  · rintro (⟨entries, rfl, inner⟩ | ⟨items, entries, sequence, member, inner⟩)
    · exact .filter known noTests inner
    · exact .filters known joins sequence member inner

end Entries

/-! ### Conditions name declared columns -/

def AreNamed (type : RecordType) (cs : List Condition) : Prop := ∀ c ∈ cs, NamesOnly type.columns c.lexemes

theorem areNamed_nil : AreNamed type [] := nofun

theorem areNamed_append {cs ds : List Condition} (first : AreNamed type cs) (second : AreNamed type ds) :
    AreNamed type (cs ++ ds) := fun c member => (List.mem_append.1 member).elim (first c) (second c)

theorem AreNamed.joinLexemes {cs : List Condition} (named : AreNamed type cs) (connective : Connective) :
    NamesOnly type.columns (connective.joinLexemes (Condition.lexemesEach cs)) := by
  have word : ∀ {ls : List Lexeme}, NamesOnly type.columns ls → NamesOnly type.columns (connective.lexeme :: ls) := by
    intro ls h
    cases connective <;> exact (namesOnly_word _).2 h
  cases cs with
  | nil => exact namesOnly_nil
  | cons c rest =>
    rw [Condition.lexemesEach_eq, List.map_cons, Connective.joinLexemes, namesOnly_append]
    refine ⟨named c List.mem_cons_self, fun name member => ?_⟩
    obtain ⟨ls, inside, here⟩ := List.mem_flatMap.1 member
    obtain ⟨d, later, rfl⟩ := List.mem_map.1 inside
    exact word (named d (List.mem_cons_of_mem _ later)) name here

theorem AreNamed.joined? {cs : List Condition} (named : AreNamed type cs) (connective : Connective) :
    AreNamed type (Condition.joined? connective cs) := by
  unfold Condition.joined?
  split
  · exact areNamed_nil
  · intro c member
    rw [List.mem_singleton.1 member, Condition.lexemes]
    simpa using named.joinLexemes connective

theorem AreNamed.conjunction? {cs : List Condition} (named : AreNamed type cs) :
    AreNamed type (Condition.conjunction? cs).toList := by
  unfold Condition.conjunction?
  split
  · exact areNamed_nil
  · exact named
  · intro c member
    rw [Option.toList_some, List.mem_singleton] at member
    rw [member, Condition.lexemes]
    simpa using named.joinLexemes .all

theorem AreNamed.negated {cs : List Condition} (named : AreNamed type cs) :
    AreNamed type ((Condition.conjunction? cs).map .negated).toList := by
  intro c member
  obtain ⟨d, own, rfl⟩ := Option.map_eq_some_iff.1 (Option.mem_toList.1 member)
  rw [Condition.lexemes]
  simpa [notLexeme] using named.conjunction? d (Option.mem_toList.2 own)

/-! ### Compiling filters -/

theorem decides_eachEntry {rule : Value → Value → Binding (List Test)} {fault : Value → Value → Prop}
    {leaves : List (Value × Value)} (each : ∀ leaf ∈ leaves, Decides (fault leaf.1 leaf.2)
      (fun tests => ∀ t ∈ tests, NamesDeclared type t) (rule leaf.1 leaf.2)) :
    Decides (∃ leaf ∈ leaves, fault leaf.1 leaf.2) (AreNamed type) (eachEntry rule (.map leaves)) := by
  refine decides_known rfl ?_
  refine (decides_mapM each).after fun tests named => decides_pure fun c member => ?_
  obtain ⟨t, inside, rfl⟩ := List.mem_map.1 member
  obtain ⟨ts, row, here⟩ := List.mem_flatten.1 inside
  exact named ts row t here

theorem decides_single {fault : Prop} {build : Binding Test} (decides : Decides fault (NamesDeclared type) build) :
    Decides fault (fun tests => ∀ t ∈ tests, NamesDeclared type t) (do pure [← build]) :=
  decides.after fun _ named => decides_pure (by simpa using named)

theorem decides_columnConditions {operator : Operator} {compile : Value → Binding (List Condition)}
    (h : columnConditions type operator = some compile) {leaves : List (Value × Value)}
    (bindable : ∀ leaf ∈ leaves, Bindable leaf.2) (writable : ∀ leaf ∈ leaves, leaf.1.isWritable ∧ leaf.2.isWritable) :
    Decides (∃ leaf ∈ leaves, LeafFault type operator leaf.1 leaf.2) (AreNamed type) (compile (.map leaves)) := by
  obtain ⟨rule, column, rfl⟩ := columnConditions_rule h
  refine @decides_eachEntry _ rule (LeafFault type operator) leaves fun leaf member => ?_
  have binds := bindable leaf member
  have written := writable leaf member
  cases column with
  | fits => exact (decides_single (decides_matchTest written.1 binds)).of_iff (by simp [LeafFault])
  | within => exact (decides_rangeTests written.1 binds).of_iff (by simp [LeafFault, or_comm])
  | present => exact (decides_single (decides_existsTest written.1)).of_iff (by simp [LeafFault])
  | contains => exact (decides_single (decides_containsTest written.1 written.2)).of_iff (by simp [LeafFault])

theorem decides_operator {key : Value} (writable : key.isWritable) :
    Decides (Operator.ofValue? key = none) (fun operator => Operator.ofValue? key = some operator)
      (liftM (Operator.ofValue key)) := by
  unfold Operator.ofValue
  cases found : Operator.ofValue? key with
  | some operator => exact decides_adapter (judged_adapter_ok rfl nofun rfl)
  | none =>
    refine decides_adapter (judged_adapter_error rfl rfl rfl ?_)
    simp [AdapterError.invalidOption, AdapterError.schema, writable, Value.isWritable]

section Operators
variable {key v : Value} {operator : Operator}

theorem decides_joined (connective : Connective) {build : Binding (List Condition)} {fault : Prop}
    (decides : Decides fault (AreNamed type) build) :
    Decides fault (AreNamed type) (do return Condition.joined? connective (← build)) :=
  decides.after fun _ named => decides_pure (named.joined? connective)

theorem decides_operatorConditions (known : Operator.ofValue? key = some operator) (contains : Contains operator v)
    (writable : v.isWritable) (filters : ContainsFilters v → Decides (FaultyFilters type v) (AreNamed type) (children type v))
    (inner : ∀ entries, v = .map entries → Documented entries →
      Decides (FaultyNode type entries) (AreNamed type) (conditions type v)) :
    Decides (FaultyEntry type key v) (AreNamed type) (operatorConditions type operator v) := by
  have joins : operator = .every ∨ operator = .either → ContainsFilters v → v.isNull = false →
      Decides (FaultyEntry type key v) (AreNamed type) (operatorConditions type operator v) := by
    intro joins several some
    refine Decides.of_iff ?_ (faultyEntry_filters known joins).symm
    unfold operatorConditions
    rw [some]
    rcases joins with rfl | rfl
    · exact decides_joined .all (filters several)
    · exact decides_joined .any (filters several)
  cases contains with
  | nothing => exact (decides_pure areNamed_nil).of_iff (iff_of_false id (not_faultyEntry_null known))
  | @leaves _ leaves tests bindable =>
    have written := Value.writable_map.1 writable
    refine Decides.of_iff ?_ (faultyEntry_leaves known tests).symm
    have columns := @decides_columnConditions type operator
    unfold operatorConditions
    cases operator with
    | every => cases tests
    | either => cases tests
    | negation => cases tests
    | _ => exact columns rfl bindable written
  | @filter _ entries noTests documented =>
    cases operator with
    | every => exact joins (.inl rfl) (.inl ⟨entries, rfl, documented⟩) rfl
    | either => exact joins (.inr rfl) (.inl ⟨entries, rfl, documented⟩) rfl
    | negation =>
      refine Decides.of_iff ?_ (faultyEntry_filter known noTests).symm
      exact (inner entries rfl documented).after fun cs named => decides_pure named.negated
    | _ => cases noTests
  | @filters _ _ items own sequence maps documented =>
    have some : v.isNull = false := by cases v <;> first | rfl | cases sequence
    exact joins own (.inr ⟨items, sequence, maps, documented⟩) some

end Operators

/-- Compiling a documented filter fails with a schema error if something is wrong in it, and else names declared columns. -/
theorem decides_conditions (type : RecordType) :
    (∀ v entries, v = .map entries → Documented entries → v.isWritable →
      Decides (FaultyNode type entries) (AreNamed type) (conditions type v)) ∧
    (∀ entries, Documented entries → Value.entriesWritable entries →
      Decides (FaultyNode type entries) (AreNamed type) (entryConditions type entries)) ∧
    (∀ v, ContainsFilters v → v.isWritable → Decides (FaultyFilters type v) (AreNamed type) (children type v)) ∧
    (∀ items, (∀ item ∈ items, ∃ entries, item = .map entries) → (∀ entries, .map entries ∈ items → Documented entries) →
      Value.allWritable items →
      Decides (∃ entries, .map entries ∈ items ∧ FaultyNode type entries) (AreNamed type) (childConditions type items)) := by
  apply conditions.mutual_induct
  case case1 =>
    intro entries ih own same documented writable
    cases same
    rw [conditions]
    exact ih documented (by simpa [Value.isWritable] using writable)
  case case2 =>
    intro v noMap _ entries same
    exact (noMap entries same).elim
  case case3 =>
    intro v noMap _ entries same
    exact (noMap entries same).elim
  case case4 =>
    intro entries ih several writable
    obtain ⟨own, same, documented⟩ | ⟨items, sequence, _⟩ := several
    · cases same
      rw [children]
      have inner := ih documented (by simpa [Value.isWritable] using writable)
      refine Decides.of_iff (inner.after fun cs named => decides_pure named.conjunction?) ?_
      simp [FaultyFilters, Value.sequence?]
    · cases sequence
  case case5 =>
    intro items ih contains writable
    obtain ⟨maps, documented⟩ := contains.several rfl
    rw [children]
    exact (ih maps documented (by simpa [Value.isWritable] using writable)).of_iff (faultyFilters_several rfl).symm
  case case6 =>
    intro items ih contains writable
    obtain ⟨maps, documented⟩ := contains.several rfl
    rw [children]
    exact (ih maps documented (by simpa [Value.isWritable] using writable)).of_iff (faultyFilters_several rfl).symm
  case case7 =>
    intro v noMap noList noTuple several
    obtain ⟨entries, same, _⟩ | ⟨items, sequence, _⟩ := several
    · exact (noMap entries same).elim
    · cases v with
      | list own => exact (noList own rfl).elim
      | tuple own => exact (noTuple own rfl).elim
      | _ => cases sequence
  case case8 =>
    intro _ _ _
    rw [childConditions]
    exact (decides_pure areNamed_nil).of_iff (by simp)
  case case9 =>
    intro v rest ih ihRest maps documented writable
    obtain ⟨entries, rfl⟩ := maps v List.mem_cons_self
    rw [Value.allWritable, Bool.and_eq_true] at writable
    have first := ih entries rfl (documented entries List.mem_cons_self) writable.1
    have others := ihRest (fun item member => maps item (List.mem_cons_of_mem _ member))
      (fun own member => documented own (List.mem_cons_of_mem _ member)) writable.2
    rw [childConditions]
    refine Decides.of_iff (first.bind fun cs named => others.after fun more alike => ?_) ?_
    · exact decides_pure (areNamed_append named.conjunction? alike)
    · simp [or_and_right, exists_or]
  case case10 =>
    intro _ _
    rw [entryConditions]
    exact (decides_pure areNamed_nil).of_iff (iff_of_false id not_faultyNode_nil)
  case case11 =>
    intro key v rest ihRest ihChildren ihInner documented writable
    rw [Value.entriesWritable, Bool.and_eq_true, Bool.and_eq_true] at writable
    obtain ⟨⟨keyWritable, vWritable⟩, restWritable⟩ := writable
    obtain ⟨contains, documented⟩ := documented_cons documented
    rw [entryConditions_cons]
    have same : Operator.ofValue? key = none ∨ FaultyEntry type key v ∨ FaultyNode type rest ↔
        FaultyNode type ((key, v) :: rest) := by
      rw [faultyNode_cons, or_iff_right_iff_imp]
      exact fun unknown => .inl (.operator unknown)
    refine Decides.of_iff ((decides_operator keyWritable).bind fun operator known => ?_) same
    have first := decides_operatorConditions known (contains operator known) vWritable
      (fun several => ihChildren several vWritable)
      (fun entries same documented => ihInner entries same documented vWritable)
    refine first.bind fun cs named => (ihRest documented restWritable).after fun more alike => ?_
    exact decides_pure (areNamed_append named alike)

end Query
end RecordStore
