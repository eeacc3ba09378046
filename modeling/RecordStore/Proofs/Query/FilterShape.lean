import RecordStore.Proofs.Query.TestShape

/-!
# Shapes of filters

The operators and the names of a filter in their order, with the shapes of its tests. Two filters of one shape
make the same conditions with the same slots.
-/

namespace RecordStore

/-- The filters under "and" and "or". -/
def Value.childFilters : Value → List Value
  | .map entries => [.map entries]
  | v => v.elements?.getD []

namespace Query
open Sql Binding

/-- What an entry of a filter asks for: tests of named fields, or filters. -/
inductive EntryShape where
  | tests (operator : Operator) (fields : List (Value × TestShape))
  | joins (operator : Operator) (filters : List (List EntryShape))
  | other

/-- Operators and names in their order, with the shapes of the tests. -/
abbrev FilterShape := List EntryShape

mutual

def filterShape (type : RecordType) : Value → FilterShape
  | .map entries => entryShapes type entries
  | _ => []

def entryShapes (type : RecordType) : List (Value × Value) → FilterShape
  | [] => []
  | (key, v) :: rest =>
    (match Operator.ofValue? key with
      | some .every => .joins .every (childShapes type v)
      | some .either => .joins .either (childShapes type v)
      | some .negation => .joins .negation [filterShape type v]
      | some operator => .tests operator (v.ownEntries.map fun e => (e.1, testShape type operator e.1 e.2))
      | none => .other) :: entryShapes type rest

def childShapes (type : RecordType) : Value → List FilterShape
  | .map entries => [entryShapes type entries]
  | .list items => itemShapes type items
  | .tuple items => itemShapes type items
  | v => (v.elements?.getD []).map fun _ => []

def itemShapes (type : RecordType) : List Value → List FilterShape
  | [] => []
  | v :: rest => filterShape type v :: itemShapes type rest

end

/-! ### Entries and children -/

section Entries
variable {type : RecordType}

theorem filterShape_eq (v : Value) : filterShape type v = entryShapes type v.ownEntries := by
  cases v <;> simp [filterShape, entryShapes, Value.ownEntries, Value.entries?]

theorem itemShapes_eq (items : List Value) : itemShapes type items = items.map (filterShape type) := by
  induction items with
  | nil => rw [itemShapes, List.map_nil]
  | cons v rest ih => rw [itemShapes, List.map_cons, ih]

theorem childShapes_eq (v : Value) : childShapes type v = v.childFilters.map (filterShape type) := by
  cases v <;>
    simp [childShapes, Value.childFilters, Value.elements?, itemShapes_eq, filterShape]

theorem follows_eachEntry (rule : Value → Value → Binding (List Test)) (v : Value) :
    Follows (if v.isNull then pure [] else eachEntry rule v) (eachEntry rule (.map v.ownEntries)) := by
  intro values cs after ran
  cases v with
  | null => exact ran
  | map entries => exact ran
  | _ => cases ran

theorem follows_conditions (type : RecordType) (v : Value) :
    Follows (conditions type v) (entryConditions type v.ownEntries) := by
  intro values cs after ran
  cases v with
  | map entries =>
    rw [conditions] at ran
    exact ran
  | _ =>
    rw [conditions_other (by simp)] at ran
    split at ran
    · cases ran
    · change (entryConditions type []).runFrom values = (.ok cs, after)
      rw [entryConditions]
      exact ran

theorem conditions_empty {v : Value} (empty : ¬v.holds) : conditions type v = pure [] := by
  cases v with
  | map entries =>
    obtain rfl : entries = [] := by simpa [Value.holds] using empty
    rw [conditions, entryConditions]
  | _ => rw [conditions_other (by simp), if_neg empty]

theorem follows_emptyFilters (items : List Value) : Follows (emptyFilters items) (childConditions type items) := by
  intro values cs after ran
  induction items with
  | nil =>
    rw [childConditions]
    exact ran
  | cons v rest ih =>
    rw [emptyFilters] at ran
    split at ran
    · cases ran
    · rename_i empty
      rw [childConditions, conditions_empty empty, pure_bind, runFrom_bind_of_ok (ih ran)]
      rfl

/-- Children that are not given one by one are a single one, or hold nothing at all. -/
theorem follows_children (type : RecordType) (v : Value) :
    Follows (children type v) (childConditions type v.childFilters) := by
  have others : ∀ {v : Value}, Follows (do emptyFilters (← (liftM v.elements : Binding (List Value))))
      (childConditions type (v.elements?.getD [])) := by
    intro v values cs after ran
    obtain ⟨items, middle, found, ran⟩ := bind_runFrom_ok ran
    obtain ⟨ok, rfl⟩ := misuse_runFrom_ok found
    rw [Value.elements_ok ok, Option.getD_some]
    exact follows_emptyFilters items values cs after ran
  cases v with
  | map entries =>
    rw [children, Value.childFilters, childConditions, childConditions, conditions]
    refine follows_bind (follows_refl _) fun cs => ?_
    rw [pure_bind, List.append_nil]
    exact follows_refl _
  | list items =>
    rw [children]
    exact follows_refl _
  | tuple items =>
    rw [children]
    exact follows_refl _
  | _ =>
    rw [children_other (by simp) (by simp) (by simp)]
    exact others

def operatorShape (type : RecordType) (operator : Operator) (v : Value) : EntryShape :=
  match operator with
  | .every => .joins .every (childShapes type v)
  | .either => .joins .either (childShapes type v)
  | .negation => .joins .negation [filterShape type v]
  | operator => .tests operator (v.ownEntries.map fun e => (e.1, testShape type operator e.1 e.2))

theorem entryShapes_cons {key : Value} {operator : Operator} (h : Operator.ofValue key = .ok operator) (v : Value)
    (rest : List (Value × Value)) :
    entryShapes type ((key, v) :: rest) = operatorShape type operator v :: entryShapes type rest := by
  have known : Operator.ofValue? key = some operator := by
    unfold Operator.ofValue at h
    cases found : Operator.ofValue? key with
    | some own =>
      rw [found] at h
      rw [Except.ok.inj h]
    | none =>
      rw [found] at h
      cases h
  rw [entryShapes, known]
  cases operator <;> rfl

def EntryShape.operator? : EntryShape → Option Operator
  | tests operator _ => some operator
  | joins operator _ => some operator
  | other => none

theorem operator?_operatorShape (operator : Operator) (v : Value) :
    (operatorShape type operator v).operator? = some operator := by
  cases operator <;> rfl

theorem aligned_columns {operator : Operator} {compile : Value → Binding (List Condition)}
    (h : columnConditions type operator = some compile) {v w : Value}
    (same : operatorShape type operator v = operatorShape type operator w) :
    Aligned (if v.isNull then pure [] else compile v) (if w.isNull then pure [] else compile w) := by
  obtain ⟨rule, column, rfl⟩ := columnConditions_rule h
  have fields : (v.ownEntries.map fun e => (e.1, testShape type operator e.1 e.2)) =
      w.ownEntries.map fun e => (e.1, testShape type operator e.1 e.2) := by
    cases column <;> exact (EntryShape.tests.inj same).2
  refine aligned_follows (follows_eachEntry rule v) (follows_eachEntry rule w) ?_
  refine aligned_misuse fun _ _ own others => ?_
  cases own
  cases others
  refine aligned_bind (aligned_mapM (fun (name, a) (name', b) look => ?_) fields) fun tests => aligned_pure rfl
  obtain ⟨rfl, shape⟩ := Prod.mk.inj look
  exact aligned_columnRule column shape

/-- Null asks for nothing, and neither does it hold any filters. -/
theorem follows_joined (connective : Connective) (v : Value) :
    Follows (if v.isNull then pure [] else do return Condition.joined? connective (← children type v))
      (do return Condition.joined? connective (← childConditions type v.childFilters)) := by
  have joined := follows_bind (follows_children type v) fun parts =>
    follows_refl (pure (Condition.joined? connective parts))
  cases v with
  | null =>
    change Follows (pure []) (do return Condition.joined? connective (← childConditions type []))
    rw [childConditions]
    exact follows_refl _
  | _ => exact joined

theorem follows_negated (v : Value) :
    Follows (if v.isNull then pure []
        else do return ((Condition.conjunction? (← conditions type v)).map Condition.negated).toList)
      (do return ((Condition.conjunction? (← entryConditions type v.ownEntries)).map Condition.negated).toList) := by
  have negated := follows_bind (follows_conditions type v) fun cs =>
    follows_refl (pure ((Condition.conjunction? cs).map Condition.negated).toList)
  cases v with
  | null =>
    change Follows (pure [])
      (do return ((Condition.conjunction? (← entryConditions type [])).map Condition.negated).toList)
    rw [entryConditions]
    exact follows_refl _
  | _ => exact negated

theorem aligned_operatorConditions {operator : Operator} {v w : Value}
    (same : operatorShape type operator v = operatorShape type operator w)
    (children : childShapes type v = childShapes type w →
      Aligned (childConditions type v.childFilters) (childConditions type w.childFilters))
    (inner : entryShapes type v.ownEntries = entryShapes type w.ownEntries →
      Aligned (entryConditions type v.ownEntries) (entryConditions type w.ownEntries)) :
    Aligned (operatorConditions type operator v) (operatorConditions type operator w) := by
  have joined : ∀ connective : Connective, childShapes type v = childShapes type w →
      Aligned (if v.isNull then pure [] else do return Condition.joined? connective (← Query.children type v))
        (if w.isNull then pure [] else do return Condition.joined? connective (← Query.children type w)) :=
    fun connective shapes => aligned_follows (follows_joined connective v) (follows_joined connective w)
      (aligned_bind (children shapes) fun parts => aligned_pure rfl)
  cases operator with
  | every => exact joined .all (EntryShape.joins.inj same).2
  | either => exact joined .any (EntryShape.joins.inj same).2
  | negation =>
    have shapes := (List.cons.inj (EntryShape.joins.inj same).2).1
    rw [filterShape_eq, filterShape_eq] at shapes
    exact aligned_follows (follows_negated v) (follows_negated w)
      (aligned_bind (inner shapes) fun cs => aligned_pure rfl)
  | _ => exact aligned_columns rfl same

theorem ownEntries_other {v : Value} (noMap : ∀ entries, v = .map entries → False) : v.ownEntries = [] := by
  cases v with
  | map entries => exact absurd rfl (noMap entries)
  | _ => rfl

theorem childFilters_other {v : Value} (noMap : ∀ entries, v = .map entries → False)
    (noList : ∀ items, v = .list items → False) (noTuple : ∀ items, v = .tuple items → False) :
    ∀ item ∈ v.childFilters, item.ownEntries = [] := by
  intro item member
  cases v with
  | map entries => exact absurd rfl (noMap entries)
  | list items => exact absurd rfl (noList items)
  | tuple items => exact absurd rfl (noTuple items)
  | text s =>
    obtain ⟨c, _, rfl⟩ := List.mem_map.mp member
    rfl
  | bytes form data =>
    obtain ⟨b, _, rfl⟩ := List.mem_map.mp member
    rfl
  | _ => cases member

/-- What the induction gives for the entries of a filter. -/
def EntriesAligned (type : RecordType) (entries : List (Value × Value)) : Prop :=
  ∀ others, entryShapes type entries = entryShapes type others →
    Aligned (entryConditions type entries) (entryConditions type others)

theorem entriesAligned_nil : EntriesAligned type [] := by
  intro others same
  cases others with
  | nil =>
    rw [entryConditions]
    exact aligned_pure rfl
  | cons e rest =>
    rw [entryShapes, entryShapes] at same
    cases same

def ChildrenAligned (type : RecordType) (items : List Value) : Prop :=
  ∀ others : List Value, items.map (filterShape type) = others.map (filterShape type) →
    Aligned (childConditions type items) (childConditions type others)

theorem childrenAligned_nil : ChildrenAligned type [] := by
  intro others same
  obtain rfl : others = [] := List.map_eq_nil_iff.mp same.symm
  rw [childConditions]
  exact aligned_pure rfl

theorem childrenAligned_cons {v : Value} {rest : List Value} (first : EntriesAligned type v.ownEntries)
    (others : ChildrenAligned type rest) : ChildrenAligned type (v :: rest) := by
  intro items same
  cases items with
  | nil => cases same
  | cons w more =>
    obtain ⟨head, tail⟩ := List.cons.inj same
    rw [filterShape_eq, filterShape_eq] at head
    rw [childConditions, childConditions]
    have aligned := aligned_follows (follows_conditions type v) (follows_conditions type w) (first w.ownEntries head)
    refine aligned_bind aligned fun cs => ?_
    exact aligned_bind (others more tail) fun parts => aligned_pure rfl

theorem childrenAligned_noEntries {items : List Value} (none : ∀ item ∈ items, item.ownEntries = []) :
    ChildrenAligned type items := by
  induction items with
  | nil => exact childrenAligned_nil
  | cons v rest ih =>
    refine childrenAligned_cons ?_ (ih fun item member => none item (List.mem_cons_of_mem _ member))
    rw [none v List.mem_cons_self]
    exact entriesAligned_nil

theorem entriesAligned_cons {key v : Value} {rest : List (Value × Value)}
    (inner : EntriesAligned type v.ownEntries) (children : ChildrenAligned type v.childFilters)
    (others : EntriesAligned type rest) : EntriesAligned type ((key, v) :: rest) := by
  intro entries same
  cases entries with
  | nil =>
    rw [entryShapes, entryShapes] at same
    cases same
  | cons e more =>
    obtain ⟨key', w⟩ := e
    rw [entryConditions_cons, entryConditions_cons]
    refine aligned_adapter fun operator operator' known known' => ?_
    rw [entryShapes_cons known, entryShapes_cons known'] at same
    obtain ⟨head, tail⟩ := List.cons.inj same
    obtain rfl : operator = operator' := by
      have named := congrArg EntryShape.operator? head
      rw [operator?_operatorShape, operator?_operatorShape] at named
      exact Option.some.inj named
    have aligned : Aligned (operatorConditions type operator v) (operatorConditions type operator w) := by
      refine aligned_operatorConditions head (fun shapes => ?_) (inner w.ownEntries)
      rw [childShapes_eq, childShapes_eq] at shapes
      exact children w.childFilters shapes
    refine aligned_bind aligned fun first => ?_
    exact aligned_bind (others more tail) fun cs => aligned_pure rfl

theorem entriesAligned (type : RecordType) :
    (∀ v : Value, EntriesAligned type v.ownEntries) ∧ (∀ entries, EntriesAligned type entries) ∧
      (∀ v : Value, ChildrenAligned type v.childFilters) ∧ (∀ items, ChildrenAligned type items) := by
  apply conditions.mutual_induct
  case case1 =>
    intro entries ih
    exact ih
  case case2 =>
    intro v noMap holds
    rw [ownEntries_other noMap]
    exact entriesAligned_nil
  case case3 =>
    intro v noMap empty
    rw [ownEntries_other noMap]
    exact entriesAligned_nil
  case case4 =>
    -- a map in place of filters is a single child, and other filters of its shape may come as a list
    intro entries ih
    exact childrenAligned_cons ih childrenAligned_nil
  case case5 =>
    intro items ih
    exact ih
  case case6 =>
    intro items ih
    exact ih
  case case7 =>
    intro v noMap noList noTuple
    exact childrenAligned_noEntries (childFilters_other noMap noList noTuple)
  case case8 =>
    exact childrenAligned_nil
  case case9 =>
    intro v rest ih ihRest
    exact childrenAligned_cons ih ihRest
  case case10 =>
    exact entriesAligned_nil
  case case11 =>
    intro key v rest ihRest ihChildren ihInner
    exact entriesAligned_cons ihInner ihChildren ihRest

/-- Filters of one shape make the same conditions with the same slots. -/
theorem aligned_conditions {v w : Value} (same : filterShape type v = filterShape type w) :
    Aligned (conditions type v) (conditions type w) := by
  rw [filterShape_eq, filterShape_eq] at same
  refine aligned_follows (follows_conditions type v) (follows_conditions type w) ?_
  exact (entriesAligned type).2.1 v.ownEntries w.ownEntries same

end Entries

end Query
end RecordStore
