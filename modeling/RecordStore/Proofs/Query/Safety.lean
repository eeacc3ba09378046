import RecordStore.Proofs.Error.Outcome
import RecordStore.Proofs.Query.Filter
import RecordStore.Proofs.Sql.Binding
import RecordStore.Proofs.Sql.Precedence

/-!
# Filters become readable conditions

Slots only get the casts that elements of arrays get, and nothing is joined of no parts.
-/

namespace RecordStore

namespace Sql
open Binding

theorem elementCast_safe (v : Value) : elementCast v ∈ castTexts := by
  cases v with
  | float x =>
    change (if x.isWhole then "::int" else "") ∈ castTexts
    split <;> simp [castTexts]
  | _ => simp [elementCast, castTexts]

theorem yields_bind_safe (v : Value) {cast : String} (safe : cast ∈ castTexts) :
    Yields (fun slot => slot.cast ∈ castTexts) (Sql.bind v cast) := by
  intro values slot after ran
  cases ran
  exact safe

theorem yields_bindEncoded (v : Value) : Yields (fun slot => slot.cast ∈ castTexts) (bindEncoded v) :=
  yields_bind (yields_any _) fun _ _ => yields_bind_safe _ (by simp [castTexts])

theorem yields_bindElement (v : Value) : Yields (fun slot => slot.cast ∈ castTexts) (bindElement v) :=
  yields_bind (yields_any _) fun _ _ => yields_bind_safe _ (elementCast_safe v)

end Sql

namespace Query
open Sql Binding

variable {type : RecordType}

theorem yields_matchTest (name value : Value) : Yields Test.Safe (matchTest type name value) := by
  refine yields_bind (yields_any _) fun (column, field) _ => ?_
  dsimp only
  cases field.isArray with
  | true =>
    rw [if_pos rfl]
    split
    · exact yields_pure (by simp [Test.Safe, Test.slots])
    · exact yields_bind (yields_mapM fun v _ => yields_bindElement v) fun _ safe => yields_pure safe
  | false =>
    rw [if_neg (by simp)]
    split
    · exact yields_pure (by simp [Test.Safe, Test.slots])
    · exact yields_bind (yields_mapM fun v _ => yields_bindEncoded v) fun _ safe => yields_pure safe
    · exact yields_bind (yields_bindEncoded value) fun _ safe =>
        yields_pure (by simpa [Test.Safe, Test.slots] using safe)

theorem yields_rangeEnd (bound : Value) (test : Slot → Test) (slots : ∀ slot, (test slot).slots = [slot]) :
    Yields (fun tests => ∀ t ∈ tests, t.Safe) (rangeEnd bound test) := by
  unfold rangeEnd
  split
  · exact yields_pure (by simp)
  · exact yields_bind (yields_bindEncoded _) fun _ safe =>
      yields_pure (by simpa [Test.Safe, slots] using safe)

theorem yields_rangeTests (name bounds : Value) :
    Yields (fun tests => ∀ t ∈ tests, t.Safe) (rangeTests type name bounds) := by
  rw [rangeTests_eq]
  refine yields_bind (yields_any _) fun (lower, upper) _ => ?_
  refine yields_bind (yields_any _) fun (column, field) _ => ?_
  refine yields_bind (yields_rangeEnd lower (.atLeast _) fun _ => rfl) fun least safeLeast => ?_
  refine yields_bind (yields_rangeEnd upper (.atMost _) fun _ => rfl) fun most safeMost => ?_
  exact yields_pure fun t ht => (List.mem_append.1 ht).elim (safeLeast t) (safeMost t)

theorem yields_existsTest (name wanted : Value) :
    Yields Test.Safe (liftM (existsTest type name wanted) : Binding Test) := by
  intro values t after ran
  obtain ⟨exists_ok, _⟩ := adapter_runFrom_ok ran
  obtain ⟨_, _, made⟩ := bind_ok exists_ok
  rw [← pure_ok made]
  split <;> simp [Test.Safe, Test.slots]

theorem yields_containsTest (name value : Value) : Yields Test.Safe (containsTest type name value) := by
  refine yields_bind (yields_any _) fun field _ => ?_
  refine yields_bind (yields_any _) fun column _ => ?_
  refine yields_bind (yields_any _) fun shown _ => ?_
  refine yields_bind (yields_bind_safe _ (by simp [castTexts])) fun pattern safe => ?_
  refine yields_pure ?_
  cases field.isArray <;> simpa [Test.Safe, Test.slots] using safe

def AreTests (cs : List Condition) : Prop := ∀ c ∈ cs, ∃ t : Test, c = .test t ∧ t.Safe

theorem yields_eachEntry {rule : Value → Value → Binding (List Test)} (v : Value)
    (h : ∀ name value, Yields (fun tests => ∀ t ∈ tests, t.Safe) (rule name value)) :
    Yields AreTests (eachEntry rule v) := by
  refine yields_bind (yields_any _) fun entries _ => ?_
  refine yields_bind (yields_mapM fun e _ => h e.1 e.2) fun tests safe => yields_pure ?_
  intro c hc
  obtain ⟨t, member, rfl⟩ := List.mem_map.1 hc
  obtain ⟨ts, inside, member⟩ := List.mem_flatten.1 member
  exact ⟨t, rfl, safe ts inside t member⟩

theorem yields_singleton {build : Binding Test} (h : Yields Test.Safe build) :
    Yields (fun tests => ∀ t ∈ tests, t.Safe) (do pure [← build]) :=
  yields_bind h fun _ safe => yields_pure (by simpa using safe)

theorem yields_columnConditions {operator : Operator} {compile : Value → Binding (List Condition)}
    (h : columnConditions type operator = some compile) (v : Value) : Yields AreTests (compile v) := by
  obtain ⟨rule, column, rfl⟩ := columnConditions_rule h
  refine yields_eachEntry v fun name value => ?_
  cases column with
  | fits => exact yields_singleton (yields_matchTest name value)
  | within => exact yields_rangeTests name value
  | present => exact yields_singleton (yields_existsTest name value)
  | contains => exact yields_singleton (yields_containsTest name value)

/-! ### Joined conditions -/

def AreReadable (cs : List Condition) : Prop := ∀ c ∈ cs, c.Readable

theorem AreTests.readable {cs : List Condition} (h : AreTests cs) : AreReadable cs := by
  intro c hc
  obtain ⟨t, rfl, safe⟩ := h c hc
  exact safe

theorem readable_joined? (connective : Connective) {parts : List Condition} (h : AreReadable parts) :
    AreReadable (Condition.joined? connective parts) := by
  unfold Condition.joined?
  split
  · simp [AreReadable]
  · rename_i some
    intro c hc
    rw [List.mem_singleton.1 hc]
    exact ⟨by simpa using some, Condition.allReadable_iff.2 h⟩

theorem readable_conjunction? {cs : List Condition} (h : AreReadable cs) :
    AreReadable (Condition.conjunction? cs).toList := by
  unfold Condition.conjunction?
  split
  · simp [AreReadable]
  · exact h
  · rename_i some _
    intro c hc
    rw [List.mem_singleton.1 hc]
    exact ⟨some, Condition.allReadable_iff.2 h⟩

theorem yields_emptyFilters (items : List Value) : Yields (fun cs => cs = []) (emptyFilters items) := by
  induction items with
  | nil => exact yields_pure rfl
  | cons v rest ih =>
    rw [emptyFilters]
    split
    · intro values cs after ran
      cases ran
    · exact ih

theorem yields_operatorConditions (operator : Operator) {v : Value} (children : Yields AreReadable (children type v))
    (inner : Yields AreReadable (conditions type v)) : Yields AreReadable (operatorConditions type operator v) := by
  have nothing : Yields AreReadable (pure [] : Binding (List Condition)) := yields_pure (by simp [AreReadable])
  have columns : ∀ {compile}, columnConditions type operator = some compile → Yields AreReadable (compile v) :=
    fun h values cs after ran => (yields_columnConditions h v values cs after ran).readable
  have joined : ∀ connective, Yields AreReadable (do return Condition.joined? connective (← Query.children type v)) :=
    fun connective => yields_bind children fun parts readable => yields_pure (readable_joined? connective readable)
  unfold operatorConditions
  cases v.isNull with
  | true => exact nothing
  | false =>
    rw [if_neg (by simp)]
    cases operator with
    | every => exact joined .all
    | either => exact joined .any
    | negation =>
      refine yields_bind inner fun cs readable => yields_pure ?_
      intro c hc
      obtain ⟨d, member, rfl⟩ := Option.map_eq_some_iff.1 (Option.mem_toList.1 hc)
      exact readable_conjunction? readable d (Option.mem_toList.2 member)
    | _ => exact columns rfl

/-- Every condition of a filter can be read. -/
theorem yields_readable (type : RecordType) :
    (∀ v, Yields AreReadable (conditions type v)) ∧ (∀ entries, Yields AreReadable (entryConditions type entries)) ∧
      (∀ v, Yields AreReadable (children type v)) ∧ (∀ items, Yields AreReadable (childConditions type items)) := by
  have nothing : Yields AreReadable (pure [] : Binding (List Condition)) := yields_pure (by simp [AreReadable])
  apply conditions.mutual_induct
  case case1 =>
    intro entries ih
    rwa [conditions]
  case case2 =>
    intro v noMap holds values cs after ran
    rw [conditions_other noMap, if_pos holds] at ran
    cases ran
  case case3 =>
    intro v noMap empty
    rwa [conditions_other noMap, if_neg empty]
  case case4 =>
    intro entries ih
    rw [children]
    exact yields_bind ih fun cs readable => yields_pure (readable_conjunction? readable)
  case case5 =>
    intro items ih
    rwa [children]
  case case6 =>
    intro items ih
    rwa [children]
  case case7 =>
    intro v noMap noList noTuple
    rw [children_other noMap noList noTuple]
    refine yields_bind (yields_any _) fun items _ values cs after ran => ?_
    simp [AreReadable, yields_emptyFilters items values cs after ran]
  case case8 => rwa [childConditions]
  case case9 =>
    intro v rest ih ihRest
    rw [childConditions]
    refine yields_bind ih fun first readable => yields_bind ihRest fun others more => yields_pure ?_
    exact fun c hc => (List.mem_append.1 hc).elim (readable_conjunction? readable c) (more c)
  case case10 => rwa [entryConditions]
  case case11 =>
    intro key v rest ihRest ihChildren ihInner
    rw [entryConditions_cons]
    refine yields_bind (yields_any _) fun operator _ => ?_
    refine yields_bind (yields_operatorConditions operator ihChildren ihInner) fun first readable => ?_
    refine yields_bind ihRest fun others more => yields_pure ?_
    exact fun c hc => (List.mem_append.1 hc).elim (readable c) (more c)

end Query
end RecordStore
