import RecordStore.Proofs.Query.Inlined
import RecordStore.Proofs.Query.Safety
import RecordStore.Proofs.Sql.Clean
import RecordStore.Query.Find

/-!
# The texts of a search

Both statements of a search have the same conditions, whose slots are numbered by one list of values from left to
right. What the statements have besides them are words, names and counts.
-/

namespace RecordStore.Query
open Sql Binding Fragment

variable {type : RecordType} {values after : ParameterList}

/-! ### Conditions -/

theorem slots_joinFragments (word : String) (cs : List Condition) :
    (Condition.joinFragments word cs).slots = cs.flatMap fun c => c.fragment.slots := by
  rw [joinFragments_eq, slots_join, List.flatMap_map]

theorem slots_oneOf (column : Identifier) (slots : List Slot) :
    (Test.oneOf column slots).fragment.slots = slots.map Slot.number := by
  rw [Test.fragment, slots_append, slots_append, slots_ofSlots]
  exact List.append_nil _

/-- Conditions whose slots number the values that a run appended, in their order. -/
structure Counted (values after : ParameterList) (cs : List Condition) : Prop where
  grown : values <+: after
  slots : (cs.flatMap fun c => c.fragment.slots) = List.range' (values.length + 1) (after.length - values.length)
  readable : ∀ c ∈ cs, c.Readable

theorem counted_entries {entries : List (Value × Value)} {cs : List Condition}
    (ran : (entryConditions type entries).runFrom values = (.ok cs, after)) : Counted values after cs := by
  obtain ⟨parts, _, rfl, fit⟩ := (writes_conditions type).2.1 entries values cs after ran
  refine ⟨List.prefix_append _ _, ?_, (yields_readable type).2.1 entries values cs _ ran⟩
  rw [List.length_append, Nat.add_sub_cancel_left, ← Inlined.slots_numberedEach, ← fit, List.flatMap_map]

theorem counted_keys {vs : List Value} {slots : List Slot} (column : Identifier)
    (ran : (vs.mapM bindEncoded).runFrom values = (.ok slots, after)) :
    Counted values after [.test (.oneOf column slots)] := by
  obtain ⟨stored, made, rfl, rfl⟩ := mapM_bindEncoded ran
  have count : stored.length = vs.length := length_mapM made
  refine ⟨List.prefix_append _ _, ?_, ?_⟩
  · rw [List.flatMap_singleton, Condition.fragment, slots_oneOf, map_number_slotsFrom, List.length_append,
      Nat.add_sub_cancel_left, count]
  · intro c member
    rw [List.mem_singleton.1 member]
    exact safe_slotsFrom _ _

theorem counted_append {middle : ParameterList} {cs ds : List Condition} (first : Counted values middle cs)
    (second : Counted middle after ds) : Counted values after (cs ++ ds) := by
  refine ⟨first.grown.trans second.grown, ?_, ?_⟩
  · have more := first.grown.length_le
    have most := second.grown.length_le
    have next : middle.length + 1 = values.length + 1 + (middle.length - values.length) := by omega
    have count : middle.length - values.length + (after.length - middle.length) = after.length - values.length := by
      omega
    rw [List.flatMap_append, first.slots, second.slots, next, List.range'_append_1, count]
  · exact fun c member => (List.mem_append.1 member).elim (first.readable c) (second.readable c)

def bindKeys (keys : Value) : Binding (List Slot) := do
  (← (liftM keys.elements : Binding (List Value))).mapM bindEncoded

theorem bindKeys_ok {keys : Value} {slots : Option (List Slot)}
    (ran : ((some keys).mapM bindKeys).runFrom values = (.ok slots, after)) :
    ∃ items own, keys.elements = .ok items ∧ slots = some own ∧ (items.mapM bindEncoded).runFrom values = (.ok own, after) := by
  rw [Option.mapM_some, map_eq_pure_bind] at ran
  obtain ⟨own, _, keyed, last⟩ := bind_runFrom_ok ran
  obtain ⟨rfl, rfl⟩ := pure_runFrom_ok last
  obtain ⟨items, _, listed, each⟩ := bind_runFrom_ok keyed
  obtain ⟨found, rfl⟩ := misuse_runFrom_ok listed
  exact ⟨items, own, found, rfl, each⟩

/-- What the parts of a search come from. Its keys are bound and then its filter is compiled; nothing else of it binds
anything. -/
structure SearchParts (type : RecordType) (keys : Option Value) (options : Value) (values after : ParameterList)
    (search : Search) : Prop where
  table : search.table = type.name
  keyColumn : search.keyColumn = type.key
  bound : ∃ middle entries, (keys.mapM bindKeys).runFrom values = (.ok search.keys, middle) ∧
    filterEntries options = .ok entries ∧ (entryConditions type entries).runFrom middle = (.ok search.filter, after)
  projection : ∃ fields, optionValue options "fields" = .ok fields ∧ Query.projection type fields = .ok search.projection
  order : ∃ sort, optionValue options "sort" = .ok sort ∧ Query.order type sort = .ok search.order
  page : Page.ofOptions options = .ok search.page

theorem search_parts {keys : Option Value} {options : Value} {search : Search}
    (ran : (Query.search type keys options).runFrom values = (.ok search, after)) :
    SearchParts type keys (if options.holds then options else .map []) values after search := by
  unfold Query.search at ran
  dsimp only at ran
  obtain ⟨slots, middle, bound, ran⟩ := bind_runFrom_ok ran
  obtain ⟨entries, _, asked, ran⟩ := bind_runFrom_ok ran
  obtain ⟨found, rfl⟩ := outcome_runFrom_ok asked
  obtain ⟨filter, _, compiled, ran⟩ := bind_runFrom_ok ran
  obtain ⟨fields, _, asked, ran⟩ := bind_runFrom_ok ran
  obtain ⟨named, rfl⟩ := misuse_runFrom_ok asked
  obtain ⟨columns, _, asked, ran⟩ := bind_runFrom_ok ran
  obtain ⟨projected, rfl⟩ := outcome_runFrom_ok asked
  obtain ⟨sort, _, asked, ran⟩ := bind_runFrom_ok ran
  obtain ⟨sorted, rfl⟩ := misuse_runFrom_ok asked
  obtain ⟨order, _, asked, ran⟩ := bind_runFrom_ok ran
  obtain ⟨ordered, rfl⟩ := outcome_runFrom_ok asked
  obtain ⟨page, _, asked, ran⟩ := bind_runFrom_ok ran
  obtain ⟨paged, rfl⟩ := outcome_runFrom_ok asked
  obtain ⟨rfl, rfl⟩ := pure_runFrom_ok ran
  exact ⟨rfl, rfl, ⟨middle, entries, bound, found, compiled⟩, ⟨fields, named, projected⟩, ⟨sort, sorted, ordered⟩, paged⟩

/-- The conditions of a search number the values that it binds. -/
theorem counted_search {keys : Option Value} {options : Value} {search : Search}
    (ran : (Query.search type keys options).runFrom values = (.ok search, after)) :
    Counted values after search.conditions := by
  obtain ⟨middle, entries, bound, _, compiled⟩ := (search_parts ran).bound
  have filtered := counted_entries compiled
  unfold Search.conditions
  cases keys with
  | none =>
    obtain ⟨none, rfl⟩ := pure_runFrom_ok bound
    rw [← none]
    exact filtered
  | some keys =>
    obtain ⟨items, own, _, same, each⟩ := bindKeys_ok bound
    rw [same]
    exact counted_append (counted_keys search.keyColumn each) filtered

/-! ### Words around the conditions -/

theorem wording_number {s : String} (h : Wording s) (ends : s.toList.getLast? ≠ some ':') (n : Nat) :
    Wording (s ++ toString n) := by
  have digits : (toString n).toList = Nat.toDigits 10 n := by
    rw [show toString n = Nat.repr n from rfl, Nat.repr, String.toList_ofList]
  have avoids : ∀ {c : Char}, c.isDigit = false → ∀ d ∈ Nat.toDigits 10 n, d ≠ c := by
    rintro c noDigit d member rfl
    rw [isDigit_of_mem_toDigits member] at noDigit
    cases noDigit
  obtain ⟨c, rest, whole⟩ := List.exists_cons_of_ne_nil h.nonempty
  have starts := h.starts
  rw [whole] at starts
  refine ⟨⟨by simp [String.toList_append, whole], ?_, ?_⟩, ?_, ?_, ?_⟩
  · rw [String.toList_append, whole]
    exact starts
  · intro d member
    rw [String.toList_append, digits] at member
    exact (List.mem_append.1 member).elim (h.plain d) (avoids rfl d)
  · intro d member
    rw [String.toList_append, digits] at member
    exact (List.mem_append.1 member).elim (h.calm d) fun inside => ⟨avoids rfl d inside, avoids rfl d inside⟩
  · rw [String.toList_append, digits]
    exact colonsApart_behind h.apart (colonsApart_of_none (avoids rfl)) ends
  · rw [String.toList_append, digits]
    exact h.quotes.append (quotesNames_of_plain (avoids rfl))

theorem wording_intercalate {separator : String} (between : Wording separator) {texts : List String}
    (nonempty : texts ≠ []) (worded : ∀ s ∈ texts, Wording s) : Wording (separator.intercalate texts) := by
  induction texts with
  | nil => exact absurd rfl nonempty
  | cons s rest ih =>
    cases rest with
    | nil =>
      rw [String.intercalate_singleton]
      exact worded s List.mem_cons_self
    | cons t rest =>
      have others := ih (by simp) fun u member => worded u (List.mem_cons_of_mem _ member)
      rw [String.intercalate_cons_cons]
      exact wording_append (wording_append (worded s List.mem_cons_self) between) others

theorem worded_clause {text : String} (h : text ≠ "" → Wording text) : (Search.clause text).Worded := by
  unfold Search.clause
  split
  · exact worded_nil
  · rename_i some
    have wording := h fun none => some (by rw [none]; rfl)
    exact worded_text (wording_append (wording_closed (by decide +kernel)) wording)

theorem wording_order {keys : List SortKey} (some : orderText keys ≠ "") : Wording (orderText keys) := by
  unfold orderText at some ⊢
  split at some
  · exact absurd rfl some
  · rename_i nonempty
    rw [if_neg nonempty]
    refine wording_append (wording_closed (by decide +kernel)) (wording_intercalate (wording_closed (by decide +kernel)) ?_ ?_)
    · simpa using nonempty
    · intro s member
      obtain ⟨key, _, rfl⟩ := List.mem_map.1 member
      unfold SortKey.text
      cases key.direction <;>
        exact wording_ends (wording_ends (wording_operand key.operand) (by decide +kernel)) (by decide +kernel)

theorem wording_page {page : Page} (some : page.text ≠ "") : Wording page.text := by
  refine wording_intercalate (wording_closed (by decide +kernel)) ?_ ?_
  · intro none
    exact some (by rw [Page.text, none]; rfl)
  · intro s member
    unfold Page.parts at member
    rcases List.mem_append.1 member with limit | offset
    · split at limit
      · cases limit
      · rw [List.mem_singleton.1 limit]
        exact wording_number (wording_closed (by decide +kernel)) (by decide) _
    · split at offset
      · cases offset
      · rw [List.mem_singleton.1 offset]
        exact wording_number (wording_closed (by decide +kernel)) (by decide) _

theorem worded_projection (projection : Projection) : projection.fragment.Worded := by
  cases projection with
  | everything => exact worded_text (wording_closed (by decide +kernel))
  | columns names => exact worded_identifiers names

theorem slots_clause (text : String) : (Search.clause text).slots = [] := by
  unfold Search.clause
  split <;> rfl

theorem slots_projection (projection : Projection) : projection.fragment.slots = [] := by
  cases projection with
  | everything => rfl
  | columns names => exact slots_ofIdentifiers names

namespace Search

theorem slots_source (search : Search) :
    search.source.slots = search.conditions.flatMap fun c => c.fragment.slots := by
  rw [source, slots_text, whereClause, Condition.whereFragment?]
  cases none : search.conditions with
  | nil => rfl
  | cons c rest =>
    change slots (.text " where " :: Condition.joinFragments _ (c :: rest)) = _
    rw [slots_text, slots_joinFragments]

theorem worded_source {search : Search} (readable : ∀ c ∈ search.conditions, c.Readable) :
    search.source.Worded := by
  refine worded_cons (wording_append (wording_closed (by decide +kernel)) (wording_quoted search.table)) ?_
  rw [whereClause, Condition.whereFragment?]
  split
  · rename_i fragment found
    split at found
    · cases found
    · cases found
      exact worded_cons (wording_closed (by decide +kernel))
        (Condition.worded_joinFragments .all (Condition.allReadable_iff.2 readable))
  · exact worded_nil

theorem slots_select (search : Search) :
    search.selectFragment.slots = search.conditions.flatMap fun c => c.fragment.slots := by
  rw [selectFragment, slots_append, slots_append, slots_append, slots_text, slots_projection, slots_clause, slots_clause,
    slots_source, List.nil_append, List.append_nil, List.append_nil]

theorem worded_select {search : Search} (readable : ∀ c ∈ search.conditions, c.Readable) :
    search.selectFragment.Worded := by
  have words : Worded (.text "select " :: search.projection.fragment) :=
    worded_cons (wording_closed (by decide +kernel)) (worded_projection search.projection)
  have order := worded_clause fun some => @wording_order search.order some
  have page := worded_clause fun some => @wording_page search.page some
  exact worded_append (worded_append (worded_append words (worded_source readable)) order) page

theorem slots_count (search : Search) :
    search.countFragment.slots = search.conditions.flatMap fun c => c.fragment.slots :=
  search.slots_source

theorem worded_count {search : Search} (readable : ∀ c ∈ search.conditions, c.Readable) :
    search.countFragment.Worded :=
  worded_cons (wording_closed (by decide +kernel)) (worded_source readable)

end Search

end RecordStore.Query
