import RecordStore.Proofs.Mutation.Execution
import RecordStore.Proofs.Schema.Naming

/-!
# What an update sets

An update sets the columns that are replaced, those that something is pushed to, and those that something is pulled from.
The key is never among the first of these, but it may be among the others. What is written for it then starts from the key
itself as from an array, so the store refuses to set it wherever the key is no array.
-/

namespace RecordStore.Mutation
open Sql Binding

variable {type : RecordType} {values after : ParameterList}

/-! ### What starts from a column -/

/-- Whether an expression takes a column as it is and changes it as an array, if at all. -/
def Expression.StartsAt (column : Identifier) : Expression → Prop
  | .column name => name = column
  | .value _ => False
  | .concat base _ | .append base _ | .without base _ | .remove base _ => base.StartsAt column

/-- Nothing comes of an array operation on what is no array. -/
theorem Expression.evaluate_startsAt {same : Value → Value → Bool} {params : List Value} {row : Row} {column : Identifier}
    {e : Expression} {v : Value} (starts : e.StartsAt column) (noArray : array? (row column.text) = none)
    (value : e.evaluate same params row = some v) : v = row column.text := by
  induction e generalizing v with
  | column name =>
    cases starts
    exact (Option.some.inj value).symm
  | value slot => exact starts.elim
  | concat base slot ih | append base slot ih | remove base slot ih | without base slots ih =>
    obtain ⟨old, inner, value⟩ := Option.bind_eq_some_iff.1 value
    obtain ⟨items, found, value⟩ := Option.bind_eq_some_iff.1 value
    obtain rfl := ih starts inner
    simp [arrayCat, arrayAppend, arrayRemove, arrayWithout, noArray] at value

/-! ### Assignments that leave the key to itself -/

/-- Columns are set once, to expressions that can be written, and no value is put in the place of the key. -/
structure SparesKey (type : RecordType) (assignments : Assignments) : Prop where
  distinct : assignments.columns.Nodup
  plain : ∀ column, (assignments.current column).Plain
  key : (assignments.current type.key).StartsAt type.key

theorem sparesKey_nil : SparesKey type [] := ⟨List.nodup_nil, fun _ => trivial, rfl⟩

theorem SparesKey.set {assignments : Assignments} (spares : SparesKey type assignments) {column : Identifier} {e : Expression}
    (plain : e.Plain) (key : column = type.key → e.StartsAt type.key) : SparesKey type (assignments.set column e) := by
  refine ⟨Assignments.nodup_set spares.distinct column e, fun other => ?_, ?_⟩
  · rw [Assignments.current_set]
    split
    · exact plain
    · exact spares.plain other
  · rw [Assignments.current_set]
    split
    · exact key ‹_›
    · exact spares.key

theorem SparesKey.expressions {assignments : Assignments} (spares : SparesKey type assignments) :
    ∀ pair ∈ assignments, pair.2.Plain := by
  intro pair member
  rw [← current_of_mem spares.distinct member]
  exact spares.plain pair.1

/-! ### Columns that entries set -/

/-- Whether an entry is for a column. -/
def Names (column : Identifier) (entry : Value × Value) : Prop := entry.1 = .text column.text

/-- Whether an entry takes something out of a column; taking no elements out is nothing. -/
def PullsFrom (column : Identifier) (entry : Value × Value) : Prop := Names column entry ∧ entry.2.sequence? ≠ some []

theorem names_iff {column other : Identifier} {entry : Value × Value} (named : Identifier.ofValue entry.1 = .ok column) :
    Names other entry ↔ other = column := by
  rw [Names, ← Identifier.ofValue_eq_ok_iff, named, Except.ok.injEq]
  exact eq_comm

/-- If each entry keeps an invariant and sets the columns it is for, all of them keep it and set their columns. -/
theorem columns_entries {step : Assignments → Value → Value → Binding Assignments} {holds : Assignments → Prop}
    {sets : Identifier → Value × Value → Prop}
    (one : ∀ {entry values after done next}, holds done →
      (step done entry.1 entry.2).runFrom values = (.ok next, after) →
        holds next ∧ ∀ column, column ∈ next.columns ↔ column ∈ done.columns ∨ sets column entry)
    {entries : List (Value × Value)} {first last : Assignments} (start : holds first)
    (ran : (entries.foldlM (fun done entry => step done entry.1 entry.2) first).runFrom values = (.ok last, after)) :
    holds last ∧ ∀ column, column ∈ last.columns ↔ column ∈ first.columns ∨ ∃ entry ∈ entries, sets column entry := by
  -- What is set already and what the entries that are left set is the same before and after each of them.
  have whole := foldlM_run (f := fun done entry => step done entry.1 entry.2)
    (fun left done _ => holds done ∧ ∀ column, (column ∈ done.columns ∨ ∃ entry ∈ left, sets column entry) ↔
      (column ∈ first.columns ∨ ∃ entry ∈ entries, sets column entry))
    (by
      intro entry left done values next after ⟨kept, columns⟩ head
      obtain ⟨kept, grown⟩ := one kept head
      refine ⟨kept, fun column => ?_⟩
      rw [grown, ← columns column, or_assoc]
      simp only [List.mem_cons, or_and_right, exists_or, exists_eq_left])
    ⟨start, fun _ => Iff.rfl⟩ ran
  refine ⟨whole.1, fun column => ?_⟩
  rw [← whole.2 column]
  simp

theorem replace_other {assignments next : Assignments} {name value : Value}
    (ran : (replace type assignments name value).runFrom values = (.ok next, after)) :
    name ≠ .text type.key.text := by
  rintro rfl
  have primary : (Value.text type.key.text).isText type.key.text = true := by simp [Value.isText]
  unfold replace at ran
  rw [primary] at ran
  cases ran

theorem replace_sets {entry : Value × Value} {assignments next : Assignments}
    (spares : SparesKey type assignments ∧ type.key ∉ assignments.columns)
    (ran : (replace type assignments entry.1 entry.2).runFrom values = (.ok next, after)) :
    (SparesKey type next ∧ type.key ∉ next.columns) ∧
      ∀ column, column ∈ next.columns ↔ column ∈ assignments.columns ∨ Names column entry := by
  have other := replace_other ran
  obtain ⟨column, stored, named, made, rfl, rfl⟩ := replace_run ran
  have apart : column ≠ type.key := by
    rintro rfl
    exact other (Identifier.ofValue_ok named)
  refine ⟨⟨spares.1.set rfl fun same => absurd same apart, fun member => ?_⟩, fun c => ?_⟩
  · exact (Assignments.mem_columns_set.1 member).elim (fun same => apart same.symm) spares.2
  · rw [Assignments.mem_columns_set, names_iff named, or_comm]

theorem push_sets {entry : Value × Value} {assignments next : Assignments} (spares : SparesKey type assignments)
    (ran : (push assignments entry.1 entry.2).runFrom values = (.ok next, after)) :
    SparesKey type next ∧ ∀ column, column ∈ next.columns ↔ column ∈ assignments.columns ∨ Names column entry := by
  obtain ⟨column, stored, named, made, rfl, rfl⟩ := push_run ran
  refine ⟨spares.set ?_ ?_, fun c => ?_⟩
  · split
    · exact ⟨spares.plain column, rfl⟩
    · exact ⟨spares.plain column, rfl⟩
  · rintro rfl
    split
    · exact spares.key
    · exact spares.key
  · rw [Assignments.mem_columns_set, names_iff named, or_comm]

theorem pull_sets {entry : Value × Value} {assignments next : Assignments} (spares : SparesKey type assignments)
    (ran : (pull assignments entry.1 entry.2).runFrom values = (.ok next, after)) :
    SparesKey type next ∧ ∀ column, column ∈ next.columns ↔ column ∈ assignments.columns ∨ PullsFrom column entry := by
  cases pull_run ran with
  | nothing empty => exact ⟨spares, fun c => by simp [PullsFrom, empty]⟩
  | several list filled named made =>
    refine ⟨spares.set ⟨spares.plain _, ?_, fun slot member => cast_slotsFrom member⟩ ?_, fun c => ?_⟩
    · rw [← List.length_pos_iff, length_slotsFrom]
      exact List.length_pos_iff.2 filled
    · rintro rfl
      exact spares.key
    · rw [Assignments.mem_columns_set, PullsFrom, names_iff named, list, or_comm]
      simp [filled]
  | one single named made =>
    refine ⟨spares.set ⟨spares.plain _, rfl⟩ ?_, fun c => ?_⟩
    · rintro rfl
      exact spares.key
    · rw [Assignments.mem_columns_set, PullsFrom, names_iff named, single, or_comm]
      simp

/-! ### Whole updates -/

/-- Whether an update changes what a column holds as an array, at either end of it or inside. -/
def Alters (update : Value) (column : Identifier) : Prop :=
  (∃ entry ∈ part update "push", Names column entry) ∨ ∃ entry ∈ part update "pull", PullsFrom column entry

theorem UpdateRun.sets {update : Value} {params : ParameterList} {statement : Option Update}
    (run : UpdateRun type update values params statement) :
    SparesKey type run.pulled ∧ (∀ entry ∈ part update "replace", ¬Names type.key entry) ∧
      ∀ column, column ∈ run.pulled.columns ↔
        (∃ entry ∈ part update "replace", Names column entry) ∨ Alters update column := by
  obtain ⟨⟨replaced, apart⟩, first⟩ := columns_entries replace_sets ⟨sparesKey_nil, List.not_mem_nil⟩ run.replacing
  obtain ⟨pushed, second⟩ := columns_entries push_sets replaced run.pushing
  obtain ⟨pulled, third⟩ := columns_entries pull_sets pushed run.pulling
  refine ⟨pulled, fun entry member names => apart ((first type.key).2 (.inr ⟨entry, member, names⟩)), fun column => ?_⟩
  rw [third, second, first, or_assoc, or_assoc, Alters]
  exact or_iff_right List.not_mem_nil

theorem mapM_lookup {assignments : Assignments} {value : Expression → Option Value} {set : List (String × Value)}
    (each : assignments.mapM (fun pair => (value pair.2).map (pair.1.text, ·)) = some set) {name : String} {v : Value}
    (found : set.lookup name = some v) : ∃ pair ∈ assignments, pair.1.text = name ∧ value pair.2 = some v := by
  induction assignments generalizing set with
  | nil =>
    cases each
    cases found
  | cons pair rest ih =>
    rw [List.mapM_cons] at each
    obtain ⟨entry, first, each⟩ := Option.bind_eq_some_iff.1 each
    obtain ⟨others, later, each⟩ := Option.bind_eq_some_iff.1 each
    obtain ⟨w, own, rfl⟩ := Option.map_eq_some_iff.1 first
    cases each
    rw [List.lookup_cons] at found
    split at found
    · rename_i same
      cases found
      exact ⟨pair, List.mem_cons_self, (beq_iff_eq.1 same).symm, own⟩
    · obtain ⟨other, member, named⟩ := ih later found
      exact ⟨other, List.mem_cons_of_mem _ member, named⟩

/-- Running assignments that spare the key leaves the key of a row as it is, if it is no array. -/
theorem SparesKey.execute {same : Value → Value → Bool} {params : List Value} {row left : Row} {statement : Update}
    (spares : SparesKey type statement.assignments) (noArray : array? (row type.key.text) = none)
    (executed : statement.execute same params row = some left) : left type.key.text = row type.key.text := by
  unfold Update.execute at executed
  obtain ⟨key, keyed, executed⟩ := Option.bind_eq_some_iff.1 executed
  split at executed
  · split at executed
    · obtain ⟨set, each, executed⟩ := Option.bind_eq_some_iff.1 executed
      cases executed
      change (set.lookup type.key.text).getD (row type.key.text) = row type.key.text
      cases found : set.lookup type.key.text with
      | none => rfl
      | some v =>
        obtain ⟨pair, member, named, value⟩ := mapM_lookup each found
        have current := current_of_mem spares.distinct member
        rw [Identifier.eq_of_text named] at current
        rw [← current] at value
        exact Expression.evaluate_startsAt spares.key noArray value
    · cases executed
  · cases executed
    rfl

/-- An update that is not refused replaces no key. Its statement sets the columns that are replaced, pushed to and pulled
from, so it sets the key exactly if something is pushed to it or pulled from it; but the store runs no such statement on a
row whose key is no array, so that keys stay as they are. -/
theorem updateStatement_targets {update : Value} {statement : Adapter.UpdateStatement}
    (built : Adapter.updateStatement type update = .ok statement) :
    (∀ entry ∈ part update "replace", ¬Names type.key entry) ∧
      ∀ sql params, statement = some (sql, params) → ∃ parsed : Update, Update.read? sql = some parsed ∧
        parsed.table = type.name ∧ parsed.keyColumn = type.key ∧
        (∀ column, column ∈ parsed.assignments.columns ↔
          (∃ entry ∈ part update "replace", Names column entry) ∨ Alters update column) ∧
        (type.key ∈ parsed.assignments.columns ↔ Alters update type.key) ∧
        ∀ same row left, array? (row type.key.text) = none → parsed.execute same params row = some left →
          left type.key.text = row type.key.text := by
  obtain ⟨result, after, ran, rfl⟩ := updateStatement_run built
  obtain ⟨run⟩ := update_run ran
  obtain ⟨spares, unreplaced, columns⟩ := run.sets
  refine ⟨unreplaced, fun sql params some => ?_⟩
  have made := run.made
  split at made
  · rw [made.1] at some
    cases some
  · rename_i filled
    rw [made.1] at some
    obtain ⟨rfl, rfl⟩ := Prod.mk.inj (Option.some.inj some)
    refine ⟨run.written, Update.read?_sql ⟨filled, spares.expressions, rfl⟩, rfl, rfl, columns, ?_, ?_⟩
    · exact (columns type.key).trans (or_iff_right fun ⟨entry, member, names⟩ => unreplaced entry member names)
    · exact fun same row left noArray executed => SparesKey.execute spares noArray executed

/-- Taking nothing out of the key, while other columns are changed in all three ways. -/
def nothingFromKey : Value :=
  .map [(.text "slug", .text "s"), (.text "pull", .map [(.text "slug", .list []), (.text "tags", .text "b")]),
    (.text "push", .map [(.text "labels", .list [.text "a"])]), (.text "replace", .map [(.text "heading", .text "h")])]

theorem nothingFromKey_kept : ∃ sql params parsed,
    Adapter.updateStatement Query.articleSample nothingFromKey = .ok (some (sql, params)) ∧
      Update.read? sql = some parsed ∧ ⟨"tags", by decide⟩ ∈ parsed.assignments.columns ∧
      Query.articleSample.key ∉ parsed.assignments.columns ∧
      ∀ left, parsed.execute Value.equals params rowSample = some left → left "slug" = .text "s" := by
  obtain ⟨parsed, read, _, _, columns, key, kept⟩ :=
    (@updateStatement_targets Query.articleSample nothingFromKey _ rfl).2 _ _ rfl
  have pulled : PullsFrom ⟨"tags", by decide⟩ (.text "tags", .text "b") := ⟨rfl, nofun⟩
  have unchanged : ¬Alters nothingFromKey Query.articleSample.key := by
    rintro (⟨entry, member, names⟩ | ⟨entry, member, names, some⟩)
    · obtain rfl := List.mem_singleton.1 member
      exact absurd (Value.string_inj names) (by decide)
    · rcases List.mem_cons.1 member with rfl | member
      · exact some rfl
      · obtain rfl := List.mem_singleton.1 member
        exact absurd (Value.string_inj names) (by decide)
  refine ⟨_, _, parsed, rfl, read, (columns _).2 (.inr (.inr ⟨_, ?_, pulled⟩)), fun set => unchanged (key.1 set), ?_⟩
  · exact List.mem_cons_of_mem _ List.mem_cons_self
  · exact fun left executed => kept Value.equals rowSample left rfl executed

def pushedKeySql : String := "update \"article\" set \"slug\" = array_append(\"slug\", $1) where \"slug\" = $2"

/-- Pushing to the key is not refused: what is written sets it. -/
theorem pushedKey_set : ∃ parsed : Update,
    Adapter.updateStatement Query.articleSample
        (.map [(.text "slug", .text "s"), (.text "push", .map [(.text "slug", .text "x")])]) =
      .ok (some (pushedKeySql, [.text "x", .text "s"])) ∧
      Update.read? pushedKeySql = some parsed ∧ Query.articleSample.key ∈ parsed.assignments.columns := by
  let written : Update :=
    ⟨⟨"article", by decide⟩, [(⟨"slug", by decide⟩, .append (.column ⟨"slug", by decide⟩) ⟨1, ""⟩)], ⟨"slug", by decide⟩, ⟨2, ""⟩⟩
  have text : written.sql = pushedKeySql := by decide +kernel
  have read : Update.read? written.sql = some written :=
    Update.read?_sql ⟨by simp [written], by simp [written, Expression.Plain], rfl⟩
  rw [text] at read
  exact ⟨written, rfl, read, List.mem_singleton_self _⟩

end RecordStore.Mutation
