import RecordStore.Proofs.Mutation.Insert
import RecordStore.Proofs.Mutation.Targets
import RecordStore.Proofs.Request.Texts
import RecordStore.Proofs.Schema.Reader

/-!
# Names in statements

Names are the only texts of a caller that get into statements, and they are checked before that. So whatever stands in
quotes in a statement is a text that may be a name: a word, behind which there may be one line end.
-/

namespace RecordStore

open Sql Binding Query Mutation Fragment

variable {type : RecordType} {values after : ParameterList}

/-! ### Requests -/

namespace Mutation

theorem worded_update {update : Value} {statement : Update}
    (ran : (Mutation.update type update).runFrom values = (.ok (some statement), after)) : statement.fragment.Worded := by
  obtain ⟨run⟩ := update_run ran
  have plain := run.sets.1.expressions
  have made := run.made
  split at made
  · cases made.1
  · rw [Option.some.inj made.1]
    refine Update.worded_fragment (fun slot member => ?_) (by simp [castTexts])
    obtain ⟨pair, among, own⟩ := List.mem_flatMap.1 member
    exact Update.slots_plain (plain pair among) slot own

end Mutation

namespace Request

/-- The texts that are built for a request hold nothing but fixed words, checked names and places of values. -/
theorem worded_texts {request : Request} {built : List String}
    (ran : (request.texts type).runFrom values = (.ok built, after)) {sql : String} (member : sql ∈ built) :
    ∃ fragment : Fragment, sql = fragment.sql ∧ fragment.Worded := by
  cases request with
  | filter v =>
    obtain ⟨cs, _, compiled, ran⟩ := bind_runFrom_ok ran
    obtain ⟨rfl, rfl⟩ := pure_runFrom_ok ran
    have readable := (yields_readable type).1 v _ cs _ compiled
    obtain ⟨fragment, joined, rfl⟩ := Option.map_eq_some_iff.1 (Option.mem_toList.1 member)
    unfold Condition.whereFragment? at joined
    split at joined
    · cases joined
    · cases joined
      exact ⟨_, rfl, Condition.worded_joinFragments .all (Condition.allReadable_iff.2 readable)⟩
  | fragments v =>
    obtain ⟨cs, _, compiled, ran⟩ := bind_runFrom_ok ran
    obtain ⟨rfl, rfl⟩ := pure_runFrom_ok ran
    obtain ⟨c, among, rfl⟩ := List.mem_map.1 member
    exact ⟨_, rfl, Condition.worded_fragment ((yields_readable type).1 v _ cs _ compiled c among)⟩
  | find keys options =>
    obtain ⟨search, _, found, ran⟩ := bind_runFrom_ok ran
    obtain ⟨rfl, rfl⟩ := pure_runFrom_ok ran
    have readable := (counted_search found).readable
    rcases List.mem_cons.1 member with rfl | later
    · exact ⟨_, rfl, Search.worded_select readable⟩
    · obtain rfl := List.mem_singleton.1 later
      exact ⟨_, rfl, Search.worded_count readable⟩
  | insert records =>
    obtain ⟨insert, _, found, ran⟩ := bind_runFrom_ok ran
    obtain ⟨rfl, rfl⟩ := pure_runFrom_ok ran
    obtain rfl := List.mem_singleton.1 member
    obtain ⟨items, _, keyed, _, rfl, rfl⟩ := insert_run found
    exact ⟨_, rfl, Insert.worded_fragment (safe_rowsFrom _ _ _)⟩
  | update v =>
    obtain ⟨statement, _, found, ran⟩ := bind_runFrom_ok ran
    obtain ⟨rfl, rfl⟩ := pure_runFrom_ok ran
    cases statement with
    | none => cases member
    | some statement =>
      obtain rfl := List.mem_singleton.1 member
      exact ⟨_, rfl, worded_update found⟩
  | delete keys =>
    obtain ⟨statement, _, found, ran⟩ := bind_runFrom_ok ran
    obtain ⟨rfl, rfl⟩ := pure_runFrom_ok ran
    cases statement with
    | none => cases member
    | some statement =>
      obtain rfl := List.mem_singleton.1 member
      exact ⟨_, rfl, worded_delete found⟩

end Request

/-! ### Statements that make room -/

namespace Schema

variable {key : Kind} {assigned : Bool}

theorem wording_typeTexts : ∀ text ∈ typeTexts, Wording text := by
  have closed : ∀ text ∈ typeTexts, isWording text.toList = true := by decide +kernel
  exact fun text member => wording_closed (closed text member)

theorem wording_text {column : Column} (typed : column.type ∈ typeTexts) : Wording column.text :=
  wording_append (wording_column column.name (by decide +kernel)) (wording_typeTexts _ typed)

theorem wording_statement {statements : List Statement} (made : Schema.statements type key assigned = .ok statements) :
    ∀ statement ∈ statements, Wording statement.sql := by
  obtain ⟨keyText, columns, keyed, all, rfl⟩ := statements_made made
  have each : ∀ column ∈ columns, Wording column.text := by
    intro column among
    obtain ⟨field, -, typed⟩ := (mem_columns all).1 among
    exact wording_text (columnType_mem typed)
  have own : Wording (Column.mk type.key keyText).text := wording_text (keyType_mem keyed)
  intro statement member
  rcases List.mem_cons.1 member with rfl | later
  · rw [Statement.sql_createTable]
    refine wording_ends (wording_append (wording_around type.name (by decide +kernel) (by decide +kernel)) ?_) (by decide +kernel)
    refine wording_intercalate (wording_closed (by decide +kernel)) (List.cons_ne_nil _ _) ?_
    intro listed member
    rcases List.mem_cons.1 member with rfl | member
    · exact wording_ends own (by decide +kernel)
    · obtain ⟨column, among, rfl⟩ := List.mem_map.1 member
      exact each column among
  · obtain ⟨column, among, rfl⟩ := List.mem_map.1 later
    rw [Statement.sql_addColumn]
    exact wording_append (wording_around type.name (by decide +kernel) (by decide +kernel)) (each column among)

end Schema

/-! ### Names alone -/

/-- Checking a value as a name accepts words alone exactly if the value is a word, or is no name at all and can be written:
it fails to do so for a word with a line end behind it, which is a name too. What is accepted is the name, and any other
value is refused. A record type can be made exactly of names of which the key is none of the fields, and the first value
that is no name is refused. So only names stand in quotes in any statement that is built for a request or makes room for
records. -/
theorem names_alone (v name key : Value) (definitions : List (Value × Field)) (type : RecordType) :
    (WordsAlone v ↔ v.IsWordName ∨ ¬v.IsName ∧ v.isWritable = true) ∧
    (v.IsName → ∃ name : Identifier, (liftM (Identifier.ofValue v) : Outcome Identifier) = .ok name ∧
      v = .text name.text ∧ name.quoted = "\"" ++ name.text ++ "\"") ∧
    (¬v.IsName → (liftM (Identifier.ofValue v) : Outcome Identifier) = .error (nameRefusal v)) ∧
    ((∃ type, RecordType.ofValues name key definitions = .ok type) ↔
      (∀ w ∈ RecordType.nameValues name key definitions, w.IsName) ∧ key ∉ definitions.map (·.1)) ∧
    (∀ before w after, RecordType.nameValues name key definitions = before ++ w :: after →
      (∀ u ∈ before, u.IsName) → ¬w.IsName → RecordType.ofValues name key definitions = .error (nameRefusal w)) ∧
    (∀ (request : Request) values built after, (request.texts type).runFrom values = (.ok built, after) →
      ∀ sql ∈ built, QuotedAccepted sql) ∧
    ∀ key assigned statements, Schema.statements type key assigned = .ok statements →
      ∀ statement ∈ statements, QuotedAccepted statement.sql := by
  refine ⟨wordsAlone_iff, fun named => ?_, checked_refuses, RecordType.ofValues_ok_iff,
    fun before w after split fine other => RecordType.ofValues_refuses split fine other,
    fun request values built after ran sql member => ?_, fun key assigned statements made statement member => ?_⟩
  · obtain ⟨name, checked, same⟩ := checked_of_names named
    exact ⟨name, checked, same, rfl⟩
  · obtain ⟨fragment, rfl, worded⟩ := Request.worded_texts ran member
    exact worded.accepted
  · exact (Schema.wording_statement made statement member).quotes.accepted

/-- Words are names, a text that starts with a digit is none, and posts of that name are written with nothing else in quotes. -/
theorem word_alone : WordsAlone (.text "_post2") ∧ WordsAlone (.text "2post") ∧
    (∃ type, RecordType.ofValues (.text "_post2") (.text "id") [] = .ok type) ∧
    ∃ statements, Schema.statements Query.articleSample .text true = .ok statements ∧
      ∀ statement ∈ statements, QuotedAccepted statement.sql := by
  have word : IsWord "_post2".toList := isWord_cons.2 ⟨by decide, by decide⟩
  have shortWord : Value.IsWordName (.text "_post2") := ⟨_, rfl, by decide, word⟩
  have other : ¬Value.IsName (.text "2post") := by
    rintro ⟨s, same, accepted⟩
    cases same
    exact absurd ((isIdentifier_iff _).2 accepted) (by decide)
  obtain ⟨alone, -, -, made, -⟩ := names_alone (.text "_post2") (.text "_post2") (.text "id") [] Query.articleSample
  obtain ⟨refused, -, -, -, -, -, written⟩ := names_alone (.text "2post") .null .null [] Query.articleSample
  refine ⟨alone.2 (.inl shortWord), refused.2 (.inr ⟨other, rfl⟩), made.2 ⟨?_, List.not_mem_nil⟩, _, rfl, ?_⟩
  · intro w member
    rcases List.mem_cons.1 member with rfl | member
    · exact shortWord.isName
    · obtain rfl := List.mem_singleton.1 member
      exact Identifier.names_text ⟨"id", by decide⟩
  · exact written .text true _ rfl

/-- A word with a line end behind it is a name that gets into statements; and a number too long to be written is refused
with no error about the schema. -/
theorem lineEnd_alone : ¬WordsAlone (.text "post\n") ∧ ¬WordsAlone (.int (10 ^ digitLimit : Nat)) ∧
    ∃ name : Identifier, Identifier.ofValue (.text "post\n") = .ok name ∧ ¬IsWord name.text.toList ∧
      name.quoted = "\"post\n\"" ∧
      ∃ statements, Schema.statements ⟨name, ⟨"id", by decide⟩, [], by decide, by simp⟩ .text false = .ok statements ∧
        statements.map (·.sql) = ["create table if not exists \"post\n\" (\"id\" text primary key)"] := by
  let name : Identifier := ⟨"post\n", by decide⟩
  have broken : ¬IsWord name.text.toList := fun word => word.ne_lineEnd (by decide)
  have long : Value.isWritable (.int (10 ^ digitLimit : Nat)) = false := by
    rw [Value.isWritable, Int.natAbs_natCast, decide_eq_false_iff_not, Nat.length_toDigits_le_iff (by omega) (by decide)]
    exact Nat.lt_irrefl _
  refine ⟨fun alone => ?_, fun alone => ?_, name, rfl, broken, by decide, _, rfl, by decide +kernel⟩
  · rcases wordsAlone_iff.1 alone with ⟨s, same, -, word⟩ | ⟨other, -⟩
    · cases same
      exact broken word
    · exact other name.names_text
  · rcases wordsAlone_iff.1 alone with ⟨s, same, -⟩ | ⟨-, writable⟩
    · cases same
    · rw [long] at writable
      cases writable

end RecordStore
