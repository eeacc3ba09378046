import RecordStore.Adapter.Find
import RecordStore.Proofs.Query.Language
import RecordStore.Proofs.Query.SearchLexemes
import RecordStore.Proofs.Query.SearchText

/-!
# The language of searches

Options in the containers that they are documented with are refused with a schema error exactly when they are
`FaultyOptions`. Both statements of every other search name the table and declared columns only.
-/

namespace RecordStore.Query
open Sql Binding

variable {type : RecordType}

/-! ### Options -/

/-- A map, or nothing in its place. -/
def IsMapping (v : Value) : Prop := v = .null ∨ ∃ entries, v = .map entries

/-- A whole number that is not negative, or nothing in its place. -/
def IsCount (v : Value) : Prop := v = .null ∨ ∃ n : Nat, v = .int n

def directions : List Value :=
  [.bool true, .int 1, .text "asc", .text "ASC", .bool false, .int 0, .int (-1), .text "desc", .text "DESC"]

/-- Options in the containers that they are documented with, the projected names being such as a map can have for keys. -/
structure DocumentedOptions (options : Value) : Prop where
  writable : options.isWritable
  filter : Documented (operatorEntries options)
  fields : IsMapping (options.fieldValue "fields")
  stable : ∀ entry ∈ (options.fieldValue "fields").ownEntries, entry.1.isStable
  sort : IsMapping (options.fieldValue "sort")

inductive FaultyOptions (type : RecordType) (options : Value) : Prop
  | filter (inner : FaultyNode type (operatorEntries options))
  | projected {entry : Value × Value} (member : entry ∈ (options.fieldValue "fields").ownEntries)
    (undeclared : ¬type.Declares entry.1)
  | sorted {entry : Value × Value} (member : entry ∈ (options.fieldValue "sort").ownEntries)
    (fault : ¬type.Declares entry.1 ∨ entry.2 ∉ directions)
  | limit (noCount : ¬IsCount (options.fieldValue "limit"))
  | offset (noCount : ¬IsCount (options.fieldValue "offset"))

theorem faultyOptions_iff {options : Value} :
    FaultyOptions type options ↔ FaultyNode type (operatorEntries options) ∨
      (∃ entry ∈ (options.fieldValue "fields").ownEntries, ¬type.Declares entry.1) ∨
      (∃ entry ∈ (options.fieldValue "sort").ownEntries, ¬type.Declares entry.1 ∨ entry.2 ∉ directions) ∨
      ¬IsCount (options.fieldValue "limit") ∨ ¬IsCount (options.fieldValue "offset") := by
  constructor
  · rintro (inner | ⟨member, undeclared⟩ | ⟨member, fault⟩ | noCount | noCount)
    · exact .inl inner
    · exact .inr (.inl ⟨_, member, undeclared⟩)
    · exact .inr (.inr (.inl ⟨_, member, fault⟩))
    · exact .inr (.inr (.inr (.inl noCount)))
    · exact .inr (.inr (.inr (.inr noCount)))
  · rintro (inner | ⟨_, member, undeclared⟩ | ⟨_, member, fault⟩ | noCount | noCount)
    · exact .filter inner
    · exact .projected member undeclared
    · exact .sorted member fault
    · exact .limit noCount
    · exact .offset noCount

section Reading
variable {entries : List (Value × Value)}

theorem writable_fieldValue {name : String} (writable : (Value.map entries).isWritable) :
    ((Value.map entries).fieldValue name).isWritable := by
  unfold Value.fieldValue
  cases found : Value.lookup name (Value.map entries).ownEntries with
  | none => rfl
  | some v =>
    obtain ⟨key, member⟩ := Value.lookup_mem found
    exact (Value.writable_map.1 writable _ member).2

theorem writable_operatorEntries (writable : (Value.map entries).isWritable) :
    Value.entriesWritable (operatorEntries (.map entries)) := by
  refine Value.entriesWritable_iff.2 fun entry member => ?_
  obtain ⟨operator, _, made⟩ := List.mem_filterMap.1 member
  obtain ⟨v, found, rfl⟩ := Option.map_eq_some_iff.1 made
  obtain ⟨key, inside⟩ := Value.lookup_mem found
  exact ⟨rfl, (Value.writable_map.1 writable _ inside).2⟩

theorem filterEntries_map : filterEntries (.map entries) = .ok (operatorEntries (.map entries)) := by
  unfold filterEntries
  rw [mapM_ok (g := fun operator => (Value.lookup operator.name entries).map fun v => (.text operator.name, v))]
  · exact congrArg Except.ok List.filterMap_map
  · intro operator _
    cases found : Value.lookup operator.name entries with
    | none => simp [Value.mentions, found]; rfl
    | some v => simp [Value.mentions, found]; rfl

end Reading

/-! ### Projection, order and page -/

/-- Identifiers with the texts of declared columns. -/
def AreColumns (type : RecordType) (names : List Identifier) : Prop :=
  ∀ name ∈ names, ∃ column ∈ type.columns, column.text = name.text

theorem areColumns_wanted {names : List Value} (declared : ∀ name ∈ names, type.Declares name) :
    AreColumns type (wantedColumns type names) := by
  intro column member
  obtain ⟨name, inside, known⟩ := List.mem_filterMap.1 member
  obtain ⟨own, among, rfl⟩ := declared name (List.mem_filter.1 inside).1
  refine ⟨own, among, ?_⟩
  rw [Value.string?_text, Option.bind_some, Identifier.ofText?, dif_pos own.valid] at known
  cases known
  rfl

theorem areColumns_others (names : List Value) : AreColumns type (otherColumns type names) := fun column member =>
  ⟨column, List.mem_cons_of_mem _ (List.mem_filter.1 member).1, rfl⟩

theorem AreColumns.namesOnly {names : List Identifier} (columns : AreColumns type names) :
    NamesOnly type.columns (Projection.columns names).lexemes := by
  refine namesOnly_separated fun ls member => ?_
  obtain ⟨name, inside, rfl⟩ := List.mem_map.1 member
  obtain ⟨column, among, same⟩ := columns name inside
  exact (namesOnly_name name).2 ⟨⟨column, among, congrArg String.toList same⟩, namesOnly_nil⟩

theorem judged_knownFields {names : List Value} (stable : ∀ name ∈ names, name.isStable)
    (writable : ∀ name ∈ names, name.isWritable) :
    Judged (∃ name ∈ names, ¬type.Declares name) (fun _ => ∀ name ∈ names, type.Declares name)
      (forIn names PUnit.unit fun name _ => do
        discard (knownField type name)
        pure (.yield .unit) : Outcome PUnit) := by
  induction names with
  | nil => exact .accepted nofun nofun
  | cons name rest ih =>
    have others := ih (fun other member => stable other (List.mem_cons_of_mem _ member))
      fun other member => writable other (List.mem_cons_of_mem _ member)
    have known : Judged (¬type.Declares name) (fun _ => type.Declares name) (discard (knownField type name)) := by
      rw [knownField, if_pos (stable name List.mem_cons_self)]
      exact (judged_field (writable name List.mem_cons_self)).map fun _ declares => declares
    have first : Judged (¬type.Declares name) (fun step => step = .yield .unit ∧ type.Declares name)
        (do discard (knownField type name); pure (ForInStep.yield PUnit.unit)) :=
      known.after fun _ declares => judged_pure ⟨rfl, declares⟩
    rw [List.forIn_cons]
    have same : (¬type.Declares name ∨ ∃ name ∈ rest, ¬type.Declares name) ↔ ∃ own ∈ name :: rest, ¬type.Declares own := by
      simp
    refine Judged.of_iff (first.bind fun step yielded => ?_) same
    obtain ⟨rfl, declares⟩ := yielded
    exact others.mono fun _ declared => List.forall_mem_cons.2 ⟨declares, declared⟩

theorem judged_projection {fields : Value} (mapping : IsMapping fields)
    (stable : ∀ entry ∈ fields.ownEntries, entry.1.isStable) (writable : fields.isWritable) :
    Judged (∃ entry ∈ fields.ownEntries, ¬type.Declares entry.1) (fun projection => NamesOnly type.columns projection.lexemes)
      (projection type fields) := by
  unfold projection
  cases holds : fields.holds with
  | false =>
    have none : fields.ownEntries = [] := Value.ownEntries_empty (by simp [holds])
    rw [none]
    exact .accepted nofun (by simp [Projection.lexemes])
  | true =>
    obtain rfl | ⟨entries, rfl⟩ := mapping
    · cases holds
    have keys : ∀ {P : Value → Prop}, (∀ entry ∈ entries, P entry.1) → ∀ name ∈ entries.map (·.1), P name := by
      intro P each name member
      obtain ⟨entry, inside, rfl⟩ := List.mem_map.1 member
      exact each entry inside
    have written : ∀ name ∈ entries.map (·.1), name.isWritable :=
      keys fun entry member => (Value.writable_map.1 writable entry member).1
    rw [if_neg (by simp)]
    refine judged_known rfl ?_
    refine Judged.of_iff ((judged_knownFields (keys stable) written).after fun _ declared => ?_)
      (by simp [Value.ownEntries, Value.entries?])
    refine judged_known rfl (judged_pure ?_)
    refine AreColumns.namesOnly (List.forall_mem_cons.2 ⟨⟨_, List.mem_cons_self, rfl⟩, ?_⟩)
    split
    · exact areColumns_wanted declared
    · exact areColumns_others _

theorem isSome_direction_iff {v : Value} : (Direction.ofValue? v).isSome ↔ v ∈ directions := by
  constructor
  · intro some
    unfold Direction.ofValue? at some
    split at some
    case h_10 => cases some
    all_goals simp [directions]
  · simp only [directions, List.mem_cons, List.not_mem_nil, or_false]
    rintro (rfl | rfl | rfl | rfl | rfl | rfl | rfl | rfl | rfl) <;> rfl

theorem judged_direction {name v : Value} (writable : name.isWritable) (valueWritable : v.isWritable) :
    Judged (v ∉ directions) (fun _ => True) (Direction.ofValue name v) := by
  unfold Direction.ofValue
  cases found : Direction.ofValue? v with
  | some direction =>
    have accepted := isSome_direction_iff.1 (Option.isSome_of_eq_some found)
    exact .accepted (not_not_intro accepted) trivial
  | none =>
    have refused : v ∉ directions := fun member => by
      rw [← isSome_direction_iff, found] at member
      cases member
    have shown : Judged False (fun _ => True) (liftM name.shownText : Outcome Text) :=
      judged_misuse (Value.shownText_of_writable writable) trivial
    have literal : Judged False (fun _ => True) (liftM v.literalText : Outcome String) :=
      judged_misuse (if_pos valueWritable) trivial
    exact shown.before fun shown _ => literal.before fun literal _ => judged_refuse refused rfl rfl

theorem judged_sortKey {name v : Value} (writable : name.isWritable) (valueWritable : v.isWritable) :
    Judged (¬type.Declares name ∨ v ∉ directions) (fun key => NamesOnly type.columns key.lexemes) (sortKey type name v) := by
  refine (judged_column writable).bind fun (column, field) member => ?_
  refine (judged_direction writable valueWritable).after fun direction _ => judged_pure ?_
  rw [SortKey.lexemes, namesOnly_append]
  exact ⟨namesOnly_operand member, by simp⟩

theorem judged_order {sort : Value} (mapping : IsMapping sort) (writable : sort.isWritable) :
    Judged (∃ entry ∈ sort.ownEntries, ¬type.Declares entry.1 ∨ entry.2 ∉ directions)
      (fun keys => NamesOnly type.columns (orderLexemes keys)) (order type sort) := by
  unfold order
  cases holds : sort.holds with
  | false =>
    have none : sort.ownEntries = [] := Value.ownEntries_empty (by simp [holds])
    rw [none]
    exact .accepted nofun namesOnly_nil
  | true =>
    obtain rfl | ⟨entries, rfl⟩ := mapping
    · cases holds
    rw [if_neg (by simp)]
    refine judged_known rfl ?_
    have each : ∀ entry ∈ entries, Judged (¬type.Declares entry.1 ∨ entry.2 ∉ directions)
        (fun key => NamesOnly type.columns key.lexemes) (sortKey type entry.1 entry.2) := fun entry member =>
      have written := Value.writable_map.1 writable entry member
      judged_sortKey written.1 written.2
    refine (judged_mapM each).mono fun keys named => ?_
    unfold orderLexemes
    split
    · exact namesOnly_nil
    · rw [namesOnly_word, namesOnly_word]
      refine namesOnly_separated fun ls member => ?_
      obtain ⟨key, inside, rfl⟩ := List.mem_map.1 member
      exact named key inside

section Paging
variable {entries : List (Value × Value)}

theorem judged_count {option : String} (writable : (Value.map entries).isWritable) :
    Judged (¬IsCount ((Value.map entries).fieldValue option)) (fun n : Nat => (Value.int n).isWritable)
      (Page.count (.map entries) option) := by
  have written : ((Value.map entries).fieldValue option).isWritable := writable_fieldValue writable
  refine judged_known (a := Value.lookup option entries) rfl ?_
  change ((Value.lookup option entries).getD .null).isWritable at written
  change Judged (¬IsCount ((Value.lookup option entries).getD .null)) _ _
  generalize Value.lookup option entries = found at written ⊢
  split
  · exact .accepted (not_not_intro (.inl rfl)) rfl
  · exact .accepted (not_not_intro (.inl rfl)) rfl
  · exact .accepted (not_not_intro (.inr ⟨_, rfl⟩)) written
  · rename_i v noNull noCount
    refine .rejected (fun count => ?_) rfl
    obtain null | ⟨n, int⟩ := count
    · exact noNull null
    · exact noCount n int

theorem judged_page (writable : (Value.map entries).isWritable) :
    Judged (¬IsCount ((Value.map entries).fieldValue "limit") ∨ ¬IsCount ((Value.map entries).fieldValue "offset"))
      (fun _ => True) (Page.ofOptions (.map entries)) := by
  have written : ∀ {n : Nat}, (Value.int n).isWritable →
      Judged False (fun _ => True) (discard (liftM (Value.int n).shownText : Outcome Text)) := by
    intro n writable
    rw [Value.shownText_of_writable writable]
    exact judged_pure trivial
  refine (judged_count writable).bind fun limit first => (judged_count writable).after fun offset second => ?_
  exact (written first).before fun _ _ => (written second).before fun _ _ => judged_pure trivial

theorem namesOnly_page (known : List Identifier) (page : Page) : NamesOnly known page.lexemes := by
  have counted : ∀ word n, NamesOnly known (countLexemes word n) := by
    intro word n
    unfold countLexemes
    split <;> simp
  exact namesOnly_append.2 ⟨counted _ _, counted _ _⟩

end Paging

/-! ### Searches -/

/-- Keys that can be gone through and bound, or none at all. -/
def BindableKeys (keys : Value) : Prop := keys = .null ∨ ∃ items, keys.elements? = some items ∧ ∀ item ∈ items, Storable item

theorem decides_keys {keys : Value} (bindable : BindableKeys keys) :
    Decides False (fun slots => ∀ own, slots = some own → ∀ slot ∈ own, slot.cast ∈ castTexts)
      ((if keys.isNull then none else some keys).mapM bindKeys) := by
  obtain rfl | ⟨items, found, storable⟩ := bindable
  · exact decides_pure nofun
  · have elements : keys.elements = .ok items := by rw [Value.elements, found]
    rw [Value.isNull_of_elements found, if_neg (by simp), Option.mapM_some, map_eq_pure_bind]
    have bound := decides_known elements (decides_slots fun item member => decides_bindEncoded (storable item member))
    refine bound.after fun slots safe => decides_pure fun own same => ?_
    cases same
    exact safe

/-- What a search names: its table and declared columns. -/
structure IsNamed (type : RecordType) (search : Search) : Prop where
  select : NamesOnly (type.name :: type.columns) search.selectLexemes
  count : NamesOnly (type.name :: type.columns) search.countLexemes

theorem isNamed_search {search : Search} (table : search.table = type.name) (conditions : AreNamed type search.conditions)
    (projection : NamesOnly type.columns search.projection.lexemes)
    (order : NamesOnly type.columns (orderLexemes search.order)) : IsNamed type search := by
  have fewer : type.columns ⊆ type.name :: type.columns := List.subset_cons_self _ _
  have filtered : NamesOnly (type.name :: type.columns) search.whereLexemes := by
    unfold Search.whereLexemes
    split
    · exact namesOnly_nil
    · exact (namesOnly_word _).2 (namesOnly_mono fewer (conditions.joinLexemes .all))
  have source : NamesOnly (type.name :: type.columns) search.sourceLexemes := by
    rw [Search.sourceLexemes, namesOnly_word, namesOnly_name, table]
    exact ⟨⟨_, List.mem_cons_self, rfl⟩, filtered⟩
  constructor
  · have columns := namesOnly_mono fewer projection
    have keys := namesOnly_mono fewer order
    simpa [Search.selectLexemes] using ⟨columns, source, keys, namesOnly_page _ _⟩
  · simpa [Search.countLexemes] using source

theorem decides_search {keys : Value} {options : List (Value × Value)} (bindable : BindableKeys keys)
    (documented : DocumentedOptions (.map options)) :
    Decides (FaultyOptions type (.map options)) (IsNamed type)
      (search type (if keys.isNull then none else some keys) (.map options)) := by
  have whole : (if (Value.map options).holds then Value.map options else .map []) = .map options := by
    cases options <;> rfl
  have writable := documented.writable
  unfold search
  dsimp only
  rw [whole, filterEntries_map]
  refine (decides_keys bindable).before fun slots safe => ?_
  have own : Decides False (· = operatorEntries (.map options)) (ofOutcome (.ok (operatorEntries (.map options)))) :=
    decides_pure rfl
  refine own.before fun entries same => ?_
  subst same
  have filter := (decides_conditions type).2.1 _ documented.filter (writable_operatorEntries writable)
  have projected := @judged_projection type _ documented.fields documented.stable (writable_fieldValue writable)
  have ordered := @judged_order type _ documented.sort (writable_fieldValue writable)
  refine Decides.of_iff ?_ faultyOptions_iff.symm
  refine filter.bind fun filter named => ?_
  refine decides_known rfl ?_
  refine (decides_outcome projected).bind fun projection columns => ?_
  refine decides_known rfl ?_
  refine (decides_outcome ordered).bind fun order keys => ?_
  refine (decides_outcome (judged_page writable)).after fun page _ => decides_pure ?_
  refine isNamed_search rfl ?_ columns keys
  cases slots with
  | none => exact named
  | some own =>
    refine List.forall_mem_cons.2 ⟨?_, named⟩
    exact namesOnly_test (safe own rfl) (by simpa [Test.opening] using ⟨type.key, List.mem_cons_self, rfl⟩)

/-- A search with documented options is refused with a schema error exactly when something is wrong in its options. Both
statements of any other search name the table and its declared columns only. -/
theorem search_language (type : RecordType) (keys : Value) (options : List (Value × Value)) (bindable : BindableKeys keys)
    (documented : DocumentedOptions (.map options)) :
    (FaultyOptions type (.map options) ↔ ∃ error, Adapter.findStatements type keys (.map options) = .error (.ofError error) ∧
      error.family = .schema) ∧
    (¬FaultyOptions type (.map options) → ∃ statements select count,
      Adapter.findStatements type keys (.map options) = .ok statements ∧
      lexemes? statements.select.toList = some select ∧ lexemes? statements.count.toList = some count ∧
      NamesOnly (type.name :: type.columns) select ∧ NamesOnly (type.name :: type.columns) count) := by
  have judged : Judged (FaultyOptions type (.map options)) (IsNamed type) _ := decides_search bindable documented []
  unfold Adapter.findStatements
  rcases ran : (search type (if keys.isNull then none else some keys) (.map options)).runFrom [] with ⟨outcome, params⟩
  rw [ran] at judged
  dsimp only at judged ⊢
  have refused : Judged (FaultyOptions type (.map options)) (fun _ => True)
      (outcome.map fun search => (⟨search.selectSql, search.countSql, params⟩ : Adapter.FindStatements)) :=
    judged.map fun _ _ => trivial
  refine ⟨refused.rejected_iff, fun fine => ?_⟩
  obtain ⟨search, rfl, named⟩ := judged.accepts fine
  have readable := (counted_search ran).readable
  exact ⟨_, _, _, rfl, search.lexemes?_select readable, search.lexemes?_count readable, named.select, named.count⟩

/-- Articles with the name of no label among several, the longest list of labels first. -/
def unlabelledOptions (column : String) : List (Value × Value) :=
  [(.text "not", .map [(.text "or", .list [.map [(.text "match", .map [(.text column, .list [.text "a", .text "b"])])],
      .map [(.text "range", .null)]])]),
    (.text "sort", .map [(.text "labels", .int (-1))]), (.text "limit", .int 5)]

theorem documented_unlabelledOptions (column : String) : DocumentedOptions (.map (unlabelledOptions column)) := by
  have empty : Documented [(.text "range", .null)] := documented_single fun _ _ => .nothing
  have storable : ∀ s, Storable (.text s) := fun s entries same => by cases same
  have leaf : Documented [(.text "match", .map [(.text column, .list [.text "a", .text "b"])])] := by
    refine documented_single fun operator known => ?_
    cases known
    refine .leaves rfl fun leaf inside => ?_
    rw [List.mem_singleton.1 inside]
    refine ⟨fun entries same => (by cases same), fun items sequence item among => ?_⟩
    cases sequence
    simp only [List.mem_cons, List.not_mem_nil, or_false] at among
    rcases among with rfl | rfl <;> exact storable _
  have either : Documented [(.text "or", .list [.map [(.text "match", .map [(.text column, .list [.text "a", .text "b"])])],
      .map [(.text "range", .null)]])] := by
    refine documented_single fun operator known => ?_
    cases known
    refine .filters (.inr rfl) rfl (by simp) fun entries among => ?_
    simp only [List.mem_cons, List.not_mem_nil, or_false, Value.map.injEq] at among
    rcases among with rfl | rfl
    · exact leaf
    · exact empty
  have negation : Documented (operatorEntries (.map (unlabelledOptions column))) := by
    refine documented_single fun operator known => ?_
    cases known
    exact .filter rfl either
  exact ⟨rfl, negation, .inl rfl, nofun, .inr ⟨_, rfl⟩⟩

theorem unlabelled_language :
    FaultyOptions articleSample (.map (unlabelledOptions "label")) ∧
      ∃ statements select count,
        Adapter.findStatements articleSample (.list [.text "x"]) (.map (unlabelledOptions "heading")) = .ok statements ∧
          lexemes? statements.select.toList = some select ∧ lexemes? statements.count.toList = some count ∧
          NamesOnly (articleSample.name :: articleSample.columns) select ∧
          NamesOnly (articleSample.name :: articleSample.columns) count := by
  have bindable : BindableKeys (.list [.text "x"]) :=
    .inr ⟨_, rfl, fun item member entries same => by cases (List.mem_singleton.1 member).symm.trans same⟩
  have wrong := search_language articleSample _ _ bindable (documented_unlabelledOptions "label")
  have right := search_language articleSample _ _ bindable (documented_unlabelledOptions "heading")
  refine ⟨wrong.1.2 ⟨_, rfl, rfl⟩, right.2 fun faulty => ?_⟩
  obtain ⟨_, failed, _⟩ := right.1.1 faulty
  cases failed

end RecordStore.Query
