import RecordStore.Proofs.Mutation.Shape
import RecordStore.Proofs.Query.SearchShape

/-!
# Texts of requests

The texts that are built for a request depend on its shape alone, so nothing that is bound gets into them.
-/

namespace RecordStore
open Sql Binding Query Mutation

/-- What statements are built for: a filter by itself, as one text or as several, a search, and changes. -/
inductive Request where
  | filter (filter : Value)
  | fragments (filter : Value)
  | find (keys : Option Value) (options : Value)
  | insert (records : Value)
  | update (update : Value)
  | delete (keys : Value)

inductive RequestShape where
  | filter (shape : FilterShape)
  | fragments (shape : FilterShape)
  | find (shape : SearchShape)
  | insert (shape : InsertShape)
  | update (shape : UpdateShape)
  | delete (keys : Option Nat)

namespace Request

def shape (type : RecordType) : Request → RequestShape
  | filter v => .filter (filterShape type v)
  | fragments v => .fragments (filterShape type v)
  | find keys options => .find (searchShape type keys options)
  | insert records => .insert (insertShape type records)
  | update v => .update (updateShape v)
  | delete keys => .delete (deleteShape keys)

/-- The texts that are built for a request; a request that asks for nothing has none. -/
def texts (type : RecordType) : Request → Binding (List String)
  | filter v => do return (whereText? (← conditions type v)).toList
  | fragments v => do return (← conditions type v).map Condition.sql
  | find keys options => do
    let search ← search type keys options
    return [search.selectSql, search.countSql]
  | insert records => do return [(← Mutation.insert type records).sql]
  | update v => do return ((← Mutation.update type v).map Update.sql).toList
  | delete keys => do return ((← Mutation.delete type keys).map Delete.sql).toList

theorem aligned_texts {type : RecordType} {first second : Request} (same : first.shape type = second.shape type) :
    Aligned (first.texts type) (second.texts type) := by
  cases first with
  | filter v =>
    cases second with
    | filter w => exact aligned_bind (aligned_conditions (RequestShape.filter.inj same)) fun cs => aligned_pure rfl
    | _ => cases same
  | fragments v =>
    cases second with
    | fragments w =>
      exact aligned_bind (aligned_conditions (RequestShape.fragments.inj same)) fun cs => aligned_pure rfl
    | _ => cases same
  | find keys options =>
    cases second with
    | find keys' options' =>
      exact aligned_bind (aligned_search (RequestShape.find.inj same)) fun search => aligned_pure rfl
    | _ => cases same
  | insert records =>
    cases second with
    | insert others =>
      exact aligned_bind (aligned_insert (RequestShape.insert.inj same)) fun insert => aligned_pure rfl
    | _ => cases same
  | update v =>
    cases second with
    | update w => exact aligned_bind (aligned_update (RequestShape.update.inj same)) fun update => aligned_pure rfl
    | _ => cases same
  | delete keys =>
    cases second with
    | delete others =>
      exact aligned_bind (aligned_delete (RequestShape.delete.inj same)) fun delete => aligned_pure rfl
    | _ => cases same

/-- Two requests of one shape, whatever values they bind, have the same texts and bind equally many values. -/
theorem texts_of_shape (type : RecordType) {first second : Request} (same : first.shape type = second.shape type)
    {before before' after after' : ParameterList} (long : before.length = before'.length) {built built' : List String}
    (ran : (first.texts type).runFrom before = (.ok built, after))
    (ran' : (second.texts type).runFrom before' = (.ok built', after')) :
    built = built' ∧ after.length = after'.length :=
  aligned_texts same before before' built built' after after' long ran ran'

/-- A search by two keys, a text and a number that an array has to hold, all of them to be bound. -/
def findSample (first second title number : Value) : Request :=
  .find (some (.list [first, second]))
    (.map [(.text "match", .map [(.text "heading", title), (.text "labels", .list [number])]),
      (.text "limit", .int 5)])

theorem findSample_texts : ∃ built built',
    ((findSample (.int 1) (.int 2) (.text "a") (.int 3)).texts articleSample).runFrom [] =
        (.ok built, [.int 1, .int 2, .text "a", .int 3]) ∧
      ((findSample (.text "x' or '1' = '1") .null (.text "$1; --") (.int 0)).texts articleSample).runFrom [] =
        (.ok built', [.text "x' or '1' = '1", .null, .text "$1; --", .int 0]) ∧
      built = ["select * from \"article\" where \"slug\" in ($1, $2) and \"heading\" = $3 and " ++
          "\"labels\" @> array[$4::int] limit 5",
        "select count(*) from \"article\" where \"slug\" in ($1, $2) and \"heading\" = $3 and " ++
          "\"labels\" @> array[$4::int]"] ∧
      built = built' := by
  have same : (findSample (.int 1) (.int 2) (.text "a") (.int 3)).shape articleSample =
      (findSample (.text "x' or '1' = '1") .null (.text "$1; --") (.int 0)).shape articleSample := rfl
  refine ⟨_, _, rfl, rfl, ?_, ?_⟩
  · decide +kernel
  · exact (texts_of_shape articleSample same rfl rfl rfl).1

end Request
end RecordStore
