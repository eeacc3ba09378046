import RecordStore.Proofs.Query.FilterShape
import RecordStore.Query.Find

/-!
# Shapes of searches

What a search asks for besides the values that it binds. Two searches of one shape have the same parts.
-/

namespace RecordStore.Query
open Sql Binding

/-- The entries of operators among the options of a search. -/
def operatorEntries (options : Value) : List (Value × Value) :=
  Operator.all.filterMap fun operator =>
    (Value.lookup operator.name options.ownEntries).map fun v => (.text operator.name, v)

/-- How many keys there are, the shape of the filter, and the options that are no filters. -/
structure SearchShape where
  keys : Option Nat
  filter : FilterShape
  fields : Value
  sort : Value
  limit : Value
  offset : Value

def searchShape (type : RecordType) (keys : Option Value) (options : Value) : SearchShape where
  keys := keys.map Value.elementCount
  filter := entryShapes type (operatorEntries options)
  fields := options.fieldValue "fields"
  sort := options.fieldValue "sort"
  limit := options.fieldValue "limit"
  offset := options.fieldValue "offset"

section Searches
variable {type : RecordType}

/-- What holds nothing has no entries, so a map without entries stands for it. -/
theorem ownEntries_holding (options : Value) :
    (if options.holds then options else .map []).ownEntries = options.ownEntries := by
  split
  · rfl
  · rename_i empty
    rw [Value.ownEntries_empty empty]
    rfl

theorem searchShape_holding (keys : Option Value) (options : Value) :
    searchShape type keys (if options.holds then options else .map []) = searchShape type keys options := by
  unfold searchShape operatorEntries Value.fieldValue
  rw [ownEntries_holding]

theorem filterEntries_ok {options : Value} {entries : List (Value × Value)}
    (h : filterEntries options = .ok entries) : entries = operatorEntries options := by
  unfold filterEntries at h
  obtain ⟨found, each, h⟩ := bind_ok h
  cases h
  have values : found = Operator.all.map fun operator =>
      (Value.lookup operator.name options.ownEntries).map fun v => (.text operator.name, v) := by
    refine mapM_eq_map (fun operator e made => ?_) each
    obtain ⟨mentioned, known, made⟩ := bind_ok made
    cases options with
    | map entries =>
      cases misuse_ok known
      split at made
      · cases made
        rfl
      · rename_i missing
        cases made
        have absent : Value.lookup operator.name entries = none := Option.not_isSome_iff_eq_none.mp missing
        change none = (Value.lookup operator.name entries).map _
        rw [absent, Option.map_none]
    | _ =>
      split at made
      · cases made
      · cases made
        rfl
  rw [values, operatorEntries, List.filterMap_map]
  rfl

theorem optionValue_ok {options v : Value} {name : String} (h : optionValue options name = .ok v) :
    v = options.fieldValue name := by
  obtain ⟨found, looked, rfl⟩ := map_ok h
  rw [Value.field?_ok looked]
  rfl

theorem count_ok {options : Value} {option : String} {n : Nat} (h : Page.count options option = .ok n) :
    (options.fieldValue option = .null ∧ n = 0) ∨ options.fieldValue option = .int n := by
  unfold Page.count at h
  obtain ⟨found, looked, h⟩ := bind_ok h
  rw [Value.fieldValue, ← Value.field?_ok (misuse_ok looked)]
  split at h
  · cases h
    exact .inl ⟨rfl, rfl⟩
  · cases h
    exact .inl ⟨rfl, rfl⟩
  · cases h
    exact .inr rfl
  · cases h

theorem count_same {options options' : Value} {option : String} {n n' : Nat}
    (same : options.fieldValue option = options'.fieldValue option) (h : Page.count options option = .ok n)
    (h' : Page.count options' option = .ok n') : n = n' := by
  have first := count_ok h
  have second := count_ok h'
  rw [same] at first
  rcases first with ⟨null, rfl⟩ | int
  · rcases second with ⟨_, rfl⟩ | int'
    · rfl
    · rw [null] at int'
      cases int'
  · rcases second with ⟨null, rfl⟩ | int'
    · rw [null] at int
      cases int
    · rw [int] at int'
      exact Int.ofNat.inj (Value.int.inj int')

theorem ofOptions_ok {options : Value} {page : Page} (h : Page.ofOptions options = .ok page) :
    Page.count options "limit" = .ok page.limit ∧ Page.count options "offset" = .ok page.offset := by
  obtain ⟨n, counted, h⟩ := bind_ok h
  obtain ⟨m, skipped, h⟩ := bind_ok h
  obtain ⟨_, _, h⟩ := bind_ok h
  obtain ⟨_, _, h⟩ := bind_ok h
  cases h
  exact ⟨counted, skipped⟩

theorem ofOptions_same {options options' : Value} {page page' : Page}
    (limit : options.fieldValue "limit" = options'.fieldValue "limit")
    (offset : options.fieldValue "offset" = options'.fieldValue "offset")
    (h : Page.ofOptions options = .ok page) (h' : Page.ofOptions options' = .ok page') : page = page' := by
  obtain ⟨counted, skipped⟩ := ofOptions_ok h
  obtain ⟨counted', skipped'⟩ := ofOptions_ok h'
  obtain ⟨n, m⟩ := page
  obtain ⟨n', m'⟩ := page'
  rw [Page.mk.injEq]
  exact ⟨count_same limit counted counted', count_same offset skipped skipped'⟩

theorem aligned_bindKeys {keys keys' : Value}
    (same : keys.elementCount = keys'.elementCount) :
    Aligned (do (← (liftM keys.elements : Binding (List Value))).mapM bindEncoded)
      (do (← (liftM keys'.elements : Binding (List Value))).mapM bindEncoded) := by
  refine aligned_misuse fun items others own own' => ?_
  rw [Value.elementCount_of_ok own, Value.elementCount_of_ok own'] at same
  exact aligned_mapM_of_length aligned_bindEncoded same

theorem aligned_keys {keys keys' : Option Value}
    (same : keys.map Value.elementCount = keys'.map Value.elementCount) :
    Aligned (keys.mapM fun keys => do (← (liftM keys.elements : Binding (List Value))).mapM bindEncoded)
      (keys'.mapM fun keys => do (← (liftM keys.elements : Binding (List Value))).mapM bindEncoded) := by
  cases keys with
  | none =>
    cases keys' with
    | none => exact aligned_pure rfl
    | some own => cases same
  | some own =>
    cases keys' with
    | none => cases same
    | some others =>
      rw [Option.mapM_some, Option.mapM_some, map_eq_pure_bind, map_eq_pure_bind]
      exact aligned_bind (aligned_bindKeys (Option.some.inj same)) fun slots => aligned_pure rfl

theorem aligned_search {keys keys' : Option Value} {options options' : Value}
    (same : searchShape type keys options = searchShape type keys' options') :
    Aligned (search type keys options) (search type keys' options') := by
  unfold search
  dsimp only
  rw [← searchShape_holding keys options, ← searchShape_holding keys' options'] at same
  generalize (if options.holds then options else .map []) = given at same ⊢
  generalize (if options'.holds then options' else .map []) = given' at same ⊢
  injection same with keyed filter fields sort limit offset
  refine aligned_bind (aligned_keys keyed) fun slots => ?_
  refine aligned_outcome fun own others found found' => ?_
  rw [filterEntries_ok found, filterEntries_ok found']
  refine aligned_bind ((entriesAligned type).2.1 _ _ filter) fun cs => ?_
  refine aligned_misuse fun wanted wanted' known known' => ?_
  rw [optionValue_ok known, optionValue_ok known', fields]
  refine aligned_outcome fun columns columns' projected projected' => ?_
  obtain rfl : columns = columns' := Except.ok.inj (projected.symm.trans projected')
  refine aligned_misuse fun sorting sorting' known known' => ?_
  rw [optionValue_ok known, optionValue_ok known', sort]
  refine aligned_outcome fun order order' ordered ordered' => ?_
  obtain rfl : order = order' := Except.ok.inj (ordered.symm.trans ordered')
  refine aligned_outcome fun page page' paged paged' => ?_
  exact aligned_pure (by rw [ofOptions_same limit offset paged paged'])

end Searches

end RecordStore.Query
