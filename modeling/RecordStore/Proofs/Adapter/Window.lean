import RecordStore.Proofs.Adapter.Failures
import RecordStore.Proofs.Mutation.Numbers
import RecordStore.Proofs.Query.Meaning
import RecordStore.Proofs.Query.Window

/-!
# Operations on given keys

Finding and deleting with keys ask the store for nothing when there are none. Otherwise every statement that they run, in
any of their courses, starts its conditions with the test of the keys.
-/

namespace RecordStore.Adapter

open RecordStore.Sql RecordStore.Task
open Query (Windowed keyTest safe_keyTest windowed_of_clause findStatements_windowed)

variable {adapter : Adapter} {type : RecordType} {typeName keys options : Value} {ids : List Value} {α β : Type}

/-! ### Deleting -/

theorem delete_clause {delete : Mutation.Delete} {t : Test} (safe : t.Safe)
    (written : delete.fragment = .text ("delete from " ++ delete.table.quoted) :: .text " where " :: t.fragment) :
    whereClause? delete.sql = some t.lexemes := by
  have opened : Settles "delete from ".toList [.word "delete".toList, .word "from".toList] := settles_closed (by decide +kernel)
  have behind : Settles " where ".toList [whereLexeme] := settles_closed (by decide +kernel)
  have head := (opened.append (settles_quoted delete.table)).append behind
  have whole := (head.append_spells (Test.spells safe)).lexemes?
  have chars : delete.sql.toList =
      "delete from ".toList ++ delete.table.quoted.toList ++ " where ".toList ++ t.fragment.chars := by
    rw [Mutation.Delete.sql, Fragment.toList_sql, written, Fragment.chars_text, Fragment.chars_text, String.toList_append,
      List.append_assoc, List.append_assoc, List.append_assoc]
  rw [whereClause?, chars, whole, Option.bind_some]
  have between := @conditionLexemes?_between [.word "delete".toList, .word "from".toList, nameLexeme delete.table] t.lexemes []
    (by simp [whereLexeme, nameLexeme]) (inner_test safe) (by simp)
  simpa using between

theorem deleteStatement_ok {sql : String} {params : List Value} (built : deleteStatement type keys = .ok (some (sql, params))) :
    ∃ delete, (Mutation.delete type keys).runFrom [] = (.ok (some delete), params) ∧ delete.sql = sql := by
  unfold deleteStatement at built
  rcases ran : (Mutation.delete type keys).runFrom [] with ⟨outcome, bound⟩
  rw [ran] at built
  obtain ⟨found, rfl, same⟩ := map_ok built
  obtain ⟨delete, rfl, texts⟩ := Option.map_eq_some_iff.1 same
  obtain ⟨rfl, rfl⟩ := Prod.mk.inj texts
  exact ⟨delete, rfl, rfl⟩

theorem deleteStatement_windowed {sql : String} {params : List Value} (listed : keys.elements? = some ids)
    (built : deleteStatement type keys = .ok (some (sql, params))) : Windowed type ids sql params := by
  obtain ⟨delete, ran, rfl⟩ := deleteStatement_ok built
  rcases Mutation.delete_parts ran with ⟨null, _, _⟩ | ⟨items, stored, elements, made, grown, rfl⟩
  · rw [Value.isNull_of_elements listed] at null
    cases null
  · obtain rfl : items = ids := Option.some.inj ((Value.elements_ok elements).symm.trans listed)
    have clause := @delete_clause ⟨type.name, type.key, some (slotsFrom 1 items.length)⟩ _ (safe_keyTest type items.length) rfl
    refine @windowed_of_clause type items _ stored [] _ [] ?_ nofun made (by rw [grown, List.nil_append, List.append_nil])
    rw [Condition.lexemesEach, Condition.lexemesEach, Connective.joinLexemes, List.flatMap_nil, List.append_nil]
    exact clause

/-- A deletion without conditions is only ever made where no keys are given at all. -/
theorem null_of_unconditional {sql : String} {params : List Value}
    (built : deleteStatement type keys = .ok (some (sql, params))) (unconditional : whereClause? sql = none) :
    keys = .null := by
  obtain ⟨delete, ran, _⟩ := deleteStatement_ok built
  rcases Mutation.delete_parts ran with ⟨null, _, _⟩ | ⟨items, stored, elements, _, _, _⟩
  · cases keys with
    | null => rfl
    | _ => cases null
  · obtain ⟨clause, _, _, _, _, found, _⟩ := deleteStatement_windowed (Value.elements_ok elements) built
    cases unconditional.symm.trans found

/-! ### Statements of operations -/

/-- In no course of an operation is the store asked for anything but statements that fit. -/
def Asks (fits : String → List Value → Prop) (operation : Run α) : Prop :=
  ∀ asked outcome, operation.run.Goes asked outcome → ∀ exchange ∈ asked, ∃ channel sql params label,
    exchange.call = .execute channel sql params label ∧ fits sql params

section Asks
variable {fits : String → List Value → Prop} {operation : Run α}

theorem asks_silent (silent : Silent operation) : Asks fits operation := by
  intro asked outcome goes exchange member
  rw [silent asked outcome goes] at member
  cases member

theorem Asks.bind {f : α → Run β} (first : Asks fits operation) (rest : ∀ a, Asks fits (f a)) :
    Asks fits (operation >>= f) := by
  intro asked outcome goes exchange member
  obtain ⟨before, own, more, rfl, went, later⟩ := goes_bind_run goes
  rcases List.mem_append.1 member with early | late
  · exact first before own went exchange early
  · cases own with
    | ok a => exact rest a more outcome later exchange late
    | error failure =>
      rw [later.1] at late
      cases late

/-- What is had from a result is used as this result. -/
theorem asks_ofOutcome {result : Outcome α} {f : α → Run β} (rest : ∀ a, result = .ok a → Asks fits (f a)) :
    Asks fits (ofOutcome result >>= f) := by
  cases result with
  | ok a => exact rest a rfl
  | error failure => exact asks_silent (silent_outcome _)

theorem asks_execute {channel : Channel} {sql : String} {params : List Value} (label : String) (fit : fits sql params) :
    Asks fits (execute channel sql params label) := by
  intro asked outcome goes exchange member
  rw [goes_perform goes, List.mem_singleton] at member
  rw [member]
  exact ⟨channel, sql, params, label, rfl, fit⟩

theorem asks_joined {operations : List (Run α)} (each : ∀ operation ∈ operations, Asks fits operation) :
    Asks fits (joined operations) := by
  intro asked outcome goes exchange member
  obtain ⟨parts, results, more, rfl, went, rest⟩ := goes
  rcases List.mem_append.1 member with own | late
  · obtain ⟨part, among, inside⟩ := List.mem_flatten.1 own
    obtain ⟨i, rfl⟩ := (List.mem_ofFn' _ _).1 among
    obtain ⟨operation, listed, same⟩ := List.mem_map.1 (List.get_mem (operations.map ExceptT.run) i)
    exact each operation listed (parts i) (results i) (same ▸ went i) exchange inside
  · rw [rest.1] at late
    cases late

end Asks

theorem asksForNone_nil (listed : keys.elements? = some []) : asksForNone keys := by
  rw [asksForNone, Value.isNull_of_elements listed, Value.holds_elements listed]
  rfl

theorem find_nothing (known : adapter.recordType typeName = .ok type) (listed : keys.elements? = some []) (party : Party)
    (options : Value) : (adapter.find party typeName keys options).run = .done (.ok { records := [], count := 0 }) := by
  unfold find
  rw [known]
  change ExceptT.run (if asksForNone keys then (pure {} : Run Found) else _) = _
  rw [if_pos (asksForNone_nil listed)]
  rfl

theorem delete_nothing (known : adapter.recordType typeName = .ok type) (listed : keys.elements? = some []) (party : Party) :
    (adapter.delete party typeName keys).run = .done (.ok (some 0)) := by
  have none : deleteStatement type keys = .ok none := by
    unfold deleteStatement Mutation.delete
    rw [Value.isNull_of_elements listed, Value.holds_elements listed]
    rfl
  unfold delete
  rw [known]
  change ExceptT.run (ofOutcome (deleteStatement type keys) >>= _) = _
  rw [none]
  rfl

theorem asks_find (known : adapter.recordType typeName = .ok type) (listed : keys.elements? = some ids) (party : Party)
    (options : Value) : Asks (Windowed type ids) (adapter.find party typeName keys options) := by
  refine asks_ofOutcome fun own found => ?_
  obtain rfl : type = own := Except.ok.inj (known.symm.trans found)
  by_cases none : asksForNone keys
  · rw [if_pos none]
    exact asks_silent (silent_pure _)
  · rw [if_neg none]
    refine asks_ofOutcome fun statements built => ?_
    obtain ⟨select, count⟩ := findStatements_windowed listed built
    refine (asks_silent (silent_executor party)).bind fun channel => ?_
    have tasks : Asks (Windowed type ids) (joined (findTasks channel statements)) := asks_joined fun task member => by
      simp only [findTasks, List.mem_cons, List.not_mem_nil, or_false] at member
      rcases member with rfl | rfl
      · exact asks_execute "select" select
      · exact asks_execute "count" count
    refine tasks.bind fun results => asks_silent ?_
    split
    · exact silent_outcome _
    · exact silent_pure _

theorem asks_delete (known : adapter.recordType typeName = .ok type) (listed : keys.elements? = some ids) (party : Party) :
    Asks (Windowed type ids) (adapter.delete party typeName keys) := by
  refine asks_ofOutcome fun own found => ?_
  obtain rfl : type = own := Except.ok.inj (known.symm.trans found)
  refine asks_ofOutcome fun statement built => ?_
  cases statement with
  | none => exact asks_silent (silent_pure _)
  | some statement =>
    refine (asks_silent (silent_executor party)).bind fun channel => ?_
    exact (asks_execute "delete" (deleteStatement_windowed listed built)).bind fun _ => asks_silent (silent_pure _)

/-- Finding and deleting with no keys at all end at once and ask the store for nothing. Both statements of a search with
keys, and every statement that finding and deleting with keys run, start their conditions with the test of the keys, so
that only rows with one of them pass. A deletion has no conditions only where no keys are given. -/
theorem keys_window (known : adapter.recordType typeName = .ok type) (listed : keys.elements? = some ids) (party : Party)
    (options : Value) :
    (ids = [] → (adapter.find party typeName keys options).run = .done (.ok { records := [], count := 0 }) ∧
      (adapter.delete party typeName keys).run = .done (.ok (some 0))) ∧
    (∀ statements, findStatements type keys options = .ok statements →
      Windowed type ids statements.select statements.params ∧ Windowed type ids statements.count statements.params) ∧
    Asks (Windowed type ids) (adapter.find party typeName keys options) ∧
    Asks (Windowed type ids) (adapter.delete party typeName keys) ∧
    ∀ given sql params, deleteStatement type given = .ok (some (sql, params)) → whereClause? sql = none → given = .null := by
  refine ⟨fun none => ?_, fun statements => findStatements_windowed listed, asks_find known listed party options,
    asks_delete known listed party, fun given sql params => null_of_unconditional⟩
  subst none
  exact ⟨find_nothing known listed party options, delete_nothing known listed party⟩

/-- A filter with "or" and "not" adds to the test of the keys, and without keys it does not matter. -/
theorem nestedSample_window :
    (∃ statements, findStatements Query.articleSample (.list [.text "a", .text "b"]) Query.nestedSample = .ok statements ∧
      statements.select = "select * from \"article\" where \"slug\" in ($1, $2) and " ++
        "exists (select 1 from unnest(\"labels\") as x where x::text ilike $3) and (\"heading\" = $4 or " ++
        "not ((\"heading\" in ($5, $6) and coalesce(array_length(\"labels\", 1), 0) > 0)))" ∧
      Windowed Query.articleSample [.text "a", .text "b"] statements.select statements.params ∧
      Windowed Query.articleSample [.text "a", .text "b"] statements.count statements.params) ∧
    (articlesAdapter.find .plain (.text "article") (.list []) Query.nestedSample).run =
      .done (.ok { records := [], count := 0 }) := by
  have given := @keys_window articlesAdapter Query.articleSample (.text "article") (.list [.text "a", .text "b"]) _ rfl rfl
    .plain Query.nestedSample
  have none := @keys_window articlesAdapter Query.articleSample (.text "article") (.list []) _ rfl rfl .plain
    Query.nestedSample
  obtain ⟨select, count⟩ := given.2.1 _ rfl
  exact ⟨⟨_, rfl, by decide +kernel, select, count⟩, (none.1 rfl).1⟩

end RecordStore.Adapter
