import RecordStore.Proofs.Query.Filter
import RecordStore.Proofs.Sql.Alignment
import RecordStore.Proofs.Value.Access

/-!
# Shapes of tests

What a test of a column depends on besides the values that it binds. Two tests of one shape are the same but for
these values.
-/

namespace RecordStore.Query
open Sql Binding

/-- What a test depends on besides its bound values: how many there are and what they are cast to, which ends
of a range are given, and whether a column has to be set or unset. -/
inductive TestShape where
  | equals (alternatives : Option Nat)
  | holdsAll (casts : List String)
  | ends (lower upper : Bool)
  | isSet (wanted : Bool)
  | pattern
  | other
  deriving DecidableEq

def matchShape (isArray : Bool) (value : Value) : TestShape :=
  if isArray then .holdsAll ((value.sequence?.getD [value]).map elementCast)
  else .equals (value.sequence?.map List.length)

def testShape (type : RecordType) (operator : Operator) (name value : Value) : TestShape :=
  match operator with
  | .fits =>
    match type.field name with
    | .ok field => matchShape field.isArray value
    | .error _ => .other
  | .within =>
    match value.sequence? with
    | some [lower, upper] => .ends lower.isNull upper.isNull
    | _ => .other
  | .present => .isSet value.holds
  | .contains => .pattern
  | _ => .other

variable {type : RecordType}

theorem field_of_column {name : Value} {column : Identifier} {field : Field}
    (h : type.column name = .ok (column, field)) : type.field name = .ok field := by
  unfold RecordType.column at h
  obtain ⟨identifier, _, h⟩ := bind_ok h
  obtain ⟨found, known, h⟩ := bind_ok h
  cases h
  exact known

theorem testShape_fits {name value : Value} {column : Identifier} {field : Field}
    (h : type.column name = .ok (column, field)) :
    testShape type .fits name value = matchShape field.isArray value := by
  unfold testShape
  rw [field_of_column h]

theorem aligned_matchTest {name v w : Value}
    (same : testShape type .fits name v = testShape type .fits name w) :
    Aligned (matchTest type name v) (matchTest type name w) := by
  refine aligned_same fun (column, field) found => ?_
  rw [testShape_fits found, testShape_fits found] at same
  unfold matchShape at same
  dsimp only
  cases array : field.isArray with
  | true =>
    rw [array, if_pos rfl, if_pos rfl] at same
    have casts := TestShape.holdsAll.inj same
    rw [if_pos rfl, if_pos rfl]
    generalize v.sequence?.getD [v] = items at casts ⊢
    generalize w.sequence?.getD [w] = others at casts ⊢
    cases items with
    | nil =>
      obtain rfl : others = [] := List.map_eq_nil_iff.mp casts.symm
      exact aligned_pure rfl
    | cons item rest =>
      cases others with
      | nil => cases casts
      | cons other more =>
        refine aligned_bind (aligned_mapM (fun _ _ cast => aligned_bindElement cast) casts) fun slots => ?_
        exact aligned_pure rfl
  | false =>
    rw [array, if_neg (by simp), if_neg (by simp)] at same
    have long := TestShape.equals.inj same
    rw [if_neg (by simp), if_neg (by simp)]
    generalize v.sequence? = items at long ⊢
    generalize w.sequence? = others at long ⊢
    match items, others with
    | none, none => exact aligned_bind (aligned_bindEncoded v w) fun slot => aligned_pure rfl
    | some [], some [] => exact aligned_pure rfl
    | some (_ :: _), some (_ :: _) =>
      exact aligned_bind (aligned_mapM_of_length aligned_bindEncoded (Option.some.inj long)) fun _ => aligned_pure rfl

theorem aligned_rangeEnd {lower upper : Value} (same : lower.isNull = upper.isNull) (test : Slot → Test) :
    Aligned (rangeEnd lower test) (rangeEnd upper test) := by
  unfold rangeEnd
  rw [same]
  cases upper.isNull with
  | true => exact aligned_pure rfl
  | false => exact aligned_bind (aligned_bindEncoded lower upper) fun slot => aligned_pure rfl

theorem testShape_rangeEnds {name bounds lower upper : Value} (h : rangeEnds name bounds = .ok (lower, upper)) :
    testShape type .within name bounds = .ends lower.isNull upper.isNull := by
  unfold rangeEnds at h
  unfold testShape
  dsimp only
  generalize bounds.sequence? = items at h ⊢
  match items with
  | some [first, second] =>
    cases h
    rfl
  | none | some [] | some [_] | some (_ :: _ :: _ :: _) =>
    obtain ⟨_, _, h⟩ := bind_ok h
    cases h

theorem aligned_rangeTests {name v w : Value}
    (same : testShape type .within name v = testShape type .within name w) :
    Aligned (rangeTests type name v) (rangeTests type name w) := by
  rw [rangeTests_eq, rangeTests_eq]
  refine aligned_outcome fun (lower₁, upper₁) (lower₂, upper₂) ends₁ ends₂ => ?_
  rw [testShape_rangeEnds ends₁, testShape_rangeEnds ends₂] at same
  obtain ⟨lower, upper⟩ := TestShape.ends.inj same
  refine aligned_same fun (column, field) found => ?_
  refine aligned_bind (aligned_rangeEnd lower _) fun least => ?_
  exact aligned_bind (aligned_rangeEnd upper _) fun most => aligned_pure rfl

theorem aligned_existsTest {name v w : Value}
    (same : testShape type .present name v = testShape type .present name w) :
    Aligned (liftM (existsTest type name v)) (liftM (existsTest type name w)) := by
  have truth : v.holds = w.holds := TestShape.isSet.inj same
  unfold existsTest
  rw [truth]
  exact aligned_adapter_self _

theorem aligned_containsTest (name v w : Value) : Aligned (containsTest type name v) (containsTest type name w) := by
  refine aligned_same fun field found => aligned_same fun column named => aligned_misuse fun _ _ _ _ => ?_
  refine aligned_bind (aligned_slot _ _ _) fun pattern => aligned_pure rfl

theorem aligned_columnRule {operator : Operator} {rule : Value → Value → Binding (List Test)}
    (column : ColumnRule type operator rule) {name v w : Value}
    (same : testShape type operator name v = testShape type operator name w) :
    Aligned (rule name v) (rule name w) := by
  cases column with
  | fits => exact aligned_bind (aligned_matchTest same) fun test => aligned_pure rfl
  | within => exact aligned_rangeTests same
  | present => exact aligned_bind (aligned_existsTest same) fun test => aligned_pure rfl
  | contains => exact aligned_bind (aligned_containsTest name v w) fun test => aligned_pure rfl

end RecordStore.Query
