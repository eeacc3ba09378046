import RecordStore.Proofs.Mutation.Insert
import RecordStore.Proofs.Mutation.Numbers
import RecordStore.Proofs.Request.Texts
import RecordStore.Proofs.Sql.Drivers

/-!
# Delivery of statements

Every statement that is built for a request names each of its values once, and every driver gets each value in
the place that names it, however the driver writes the places.
-/

namespace RecordStore
open Sql Binding Query Mutation

namespace Request

variable {type : RecordType} {params : ParameterList}

/-- Whether whole statements are built for a request, and not conditions by themselves. -/
def makesStatements : Request → Bool
  | filter _ => false
  | fragments _ => false
  | _ => true

/-- Names in a map differ. -/
def NamesDiffer : Request → Prop
  | update v => ReplacesOnce v
  | _ => True

/-- Numbers of placeholders that name every value once, from left to right: in the order of the values, except that
in an update the key alone has to come last in both. -/
def Names (type : RecordType) (params : List Value) : Request → List Nat → Prop
  | update v, numbers => ∃ others, numbers = others ++ [params.length] ∧
      others.Perm (List.range' 1 (params.length - 1)) ∧ params.getLast? = some (v.fieldValue type.key.text)
  | _, numbers => numbers = List.range' 1 params.length

theorem Names.perm {request : Request} {numbers : List Nat} (names : request.Names type params numbers) :
    numbers.Perm (List.range' 1 params.length) := by
  cases request with
  | update v =>
    obtain ⟨others, rfl, each, last⟩ := names
    have some : params ≠ [] := by
      rintro rfl
      cases last
    obtain ⟨n, length⟩ := Nat.exists_eq_succ_of_ne_zero (mt List.length_eq_zero_iff.1 some)
    rw [length, Nat.succ_eq_add_one, Nat.add_sub_cancel] at each
    rw [length, Nat.succ_eq_add_one, List.range'_1_concat, Nat.add_comm n 1]
    exact each.append_right _
  | _ => exact List.Perm.of_eq names

theorem names_texts {request : Request} (whole : request.makesStatements) (differ : request.NamesDiffer)
    {built : List String} (ran : (request.texts type).runFrom [] = (.ok built, params)) {sql : String}
    (member : sql ∈ built) :
    ∃ fragment : Fragment, sql = fragment.sql ∧ fragment.Worded ∧ request.Names type params fragment.slots := by
  cases request with
  | filter v => cases whole
  | fragments v => cases whole
  | find keys options =>
    obtain ⟨search, _, found, ran⟩ := bind_runFrom_ok ran
    obtain ⟨rfl, rfl⟩ := pure_runFrom_ok ran
    have counted := counted_search found
    rcases List.mem_cons.1 member with rfl | later
    · exact ⟨_, rfl, Search.worded_select counted.readable, search.slots_select.trans counted.slots⟩
    · obtain rfl := List.mem_singleton.1 later
      exact ⟨_, rfl, Search.worded_count counted.readable, search.slots_count.trans counted.slots⟩
  | insert records =>
    obtain ⟨insert, _, found, ran⟩ := bind_runFrom_ok ran
    obtain ⟨rfl, rfl⟩ := pure_runFrom_ok ran
    obtain rfl := List.mem_singleton.1 member
    obtain ⟨items, _, keyed, _, rfl, rfl⟩ := insert_run found
    refine ⟨_, rfl, Insert.worded_fragment (safe_rowsFrom _ _ _), ?_⟩
    change Fragment.slots _ = _
    rw [Insert.slots_fragment, numbers_rowsFrom, List.nil_append, length_rowValues]
    rfl
  | update v =>
    obtain ⟨statement, _, found, ran⟩ := bind_runFrom_ok ran
    obtain ⟨rfl, rfl⟩ := pure_runFrom_ok ran
    cases statement with
    | none => cases member
    | some statement =>
      obtain rfl := List.mem_singleton.1 member
      obtain ⟨worded, numbers⟩ := update_numbers differ found
      exact ⟨_, rfl, worded, numbers⟩
  | delete keys =>
    obtain ⟨statement, _, found, ran⟩ := bind_runFrom_ok ran
    obtain ⟨rfl, rfl⟩ := pure_runFrom_ok ran
    cases statement with
    | none => cases member
    | some statement =>
      obtain rfl := List.mem_singleton.1 member
      obtain ⟨worded, slots⟩ := delete_numbers found
      exact ⟨_, rfl, worded, slots⟩

/-- The placeholders of a statement name its values, each one once; every driver binds at each of its marks the
value that the placeholder in its place names. No list has more values than there are indices. -/
theorem statements_delivered {request : Request} (whole : request.makesStatements) (differ : request.NamesDiffer)
    {built : List String} (ran : (request.texts type).runFrom [] = (.ok built, params)) {sql : String}
    (member : sql ∈ built) :
    request.Names type params (placeholders sql) ∧
      (params ≠ [] → params.length ≤ indexLimit → ∀ style, (∀ name, style ≠ ParamStyle.other name) →
        ∃ driver bound, Delivers style sql params driver bound) := by
  obtain ⟨fragment, rfl, worded, names⟩ := names_texts whole differ ran member
  refine ⟨?_, fun nonempty short style known => ?_⟩
  · rw [placeholders_sql worded.clean]
    exact names
  · exact driverStatement_delivers worded names.perm nonempty short known

/-- An update that names one of its values before two that are bound earlier. -/
def labelsSample : Request :=
  .update (.map [(.text "slug", .text "s"), (.text "push", .map [(.text "labels", .text "c")]),
    (.text "replace", .map [(.text "labels", .list [.text "a", .text "b"]), (.text "heading", .text "50%")])])

theorem labelsSample_delivered : ∃ sql params driver bound,
    (labelsSample.texts articleSample).runFrom [] = (.ok [sql], params) ∧
      params = [.list [.text "a", .text "b"], .text "50%", .text "c", .text "s"] ∧
      sql = "update \"article\" set \"labels\" = array_append($1, $3), \"heading\" = $2 where \"slug\" = $4" ∧
      labelsSample.Names articleSample params (placeholders sql) ∧ Delivers .qmark sql params driver bound := by
  have differ : labelsSample.NamesDiffer := List.pairwise_pair.2 (by decide)
  obtain ⟨names, delivered⟩ := @statements_delivered articleSample _ labelsSample rfl differ _ rfl _ List.mem_cons_self
  obtain ⟨driver, bound, delivers⟩ := delivered (by decide) (by decide +kernel) .qmark (by rintro name ⟨⟩)
  exact ⟨_, _, driver, bound, rfl, rfl, by decide +kernel, names, delivers⟩

end Request
end RecordStore
