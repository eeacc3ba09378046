import RecordStore.Proofs.Mutation.Insert
import RecordStore.Proofs.Sql.Reader

/-!
# Inserts are read as they were built

The text of an insert that has columns is read back as its columns and rows.
-/

namespace RecordStore.Mutation
open Sql

def rowLexemes (row : List Slot) : List Lexeme := .mark '(' :: (separated (row.map Slot.lexemes) ++ [.mark ')'])

namespace Reader
open Sql.Reader

def row (fuel : Nat) : Reader (List Slot) := do
  expect [.mark '(']
  let slots ← list slot fuel
  expect [.mark ')']
  return slots

/-- The column that is returned, if there is one. -/
def returning : Reader (Option Identifier) :=
  (do
    expect [word "returning"]
    return some (← name)) <|> return none

def insert (fuel : Nat) : Reader Insert := do
  expect [word "insert", word "into"]
  let table ← name
  expect [.mark '(']
  let columns ← list name fuel
  expect [.mark ')', word "values"]
  let rows ← list (row fuel) fuel
  let returning ← returning
  return { table, columns, rows, returning }

theorem row_run {slots : List Slot} (nonempty : slots ≠ []) (plain : ∀ slot ∈ slots, slot.cast = "") {fuel : Nat}
    (enough : slots.length ≤ fuel) (rest : List Lexeme) : (row fuel).run (rowLexemes slots ++ rest) = some (slots, rest) := by
  have written : rowLexemes slots ++ rest =
      [.mark '('] ++ (separated (slots.map Slot.lexemes) ++ ([.mark ')'] ++ rest)) := by
    simp [rowLexemes]
  have closes : NoComma ([.mark ')'] ++ rest) := by simp [NoComma]
  have listed := list_run nonempty (fun slot member => slot_run (plain slot member)) closes enough
  rw [written, row, run_bind_some (expect_run _ _), run_bind_some listed, run_bind_some (expect_run _ _)]
  rfl

end Reader

namespace Insert
open Sql.Reader

def returningLexemes : Option Identifier → List Lexeme
  | some key => [word "returning", nameLexeme key]
  | none => []

def lexemes (insert : Insert) : List Lexeme :=
  [word "insert", word "into", nameLexeme insert.table, .mark '('] ++
    (separated (insert.columns.map fun column => [nameLexeme column]) ++
      ([.mark ')', word "values"] ++ (separated (insert.rows.map rowLexemes) ++ returningLexemes insert.returning)))

/-- The insert that a text stands for. -/
def read? (text : String) : Option Insert := Sql.Reader.whole Reader.insert text

/-- Inserts whose text can be read: there are columns and rows, and no slot has a cast. -/
structure Plain (insert : Insert) : Prop where
  columns : insert.columns ≠ []
  rows : insert.rows ≠ []
  filled : ∀ row ∈ insert.rows, row ≠ []
  slots : ∀ row ∈ insert.rows, ∀ slot ∈ row, slot.cast = ""

theorem Plain.safe {insert : Insert} (plain : insert.Plain) : ∀ row ∈ insert.rows, ∀ slot ∈ row, slot.cast ∈ castTexts :=
  fun row member slot inside => by simp [castTexts, plain.slots row member slot inside]

theorem spells {insert : Insert} (safe : ∀ row ∈ insert.rows, ∀ slot ∈ row, slot.cast ∈ castTexts) :
    Spells insert.fragment.chars insert.lexemes := by
  have opening : Settles ("insert into " ++ insert.table.quoted ++ " (").toList
      [word "insert", word "into", nameLexeme insert.table, .mark '('] := by
    have before : Settles "insert into ".toList [word "insert", word "into"] := settles_closed (by decide +kernel)
    have after : Settles " (".toList [.mark '('] := settles_closed (by decide +kernel)
    rw [String.toList_append, String.toList_append]
    exact (before.append (settles_quoted insert.table)).append after
  have columns : Spells (Fragment.ofIdentifiers insert.columns).chars
      (separated (insert.columns.map fun column => [nameLexeme column])) := by
    refine spells_join fun column _ => ?_
    have chars : (Fragment.ofIdentifier column).chars = column.quoted.toList := List.append_nil _
    rw [chars]
    exact (settles_quoted column).spells
  have values : Settles ") values ".toList [.mark ')', word "values"] := settles_closed (by decide +kernel)
  have rows : Spells (Fragment.join ", " (insert.rows.map rowFragment)).chars (separated (insert.rows.map rowLexemes)) := by
    refine spells_join fun row member => ?_
    have opened : Settles "(".toList [.mark '('] := settles_closed (by decide +kernel)
    exact (Condition.spells_parentheses opened (spells_slotList (safe row member))).spells
  have last : Spells ((Fragment.join ", " (insert.rows.map rowFragment)).chars ++
      Fragment.chars (match insert.returning with
        | some key => [.text (" returning " ++ key.quoted)]
        | none => []))
      (separated (insert.rows.map rowLexemes) ++ returningLexemes insert.returning) := by
    cases insert.returning with
    | none =>
      change Spells (_ ++ []) (_ ++ [])
      rw [List.append_nil, List.append_nil]
      exact rows
    | some key =>
      have chars : Fragment.chars [.text (" returning " ++ key.quoted)] = " returning ".toList ++ key.quoted.toList := by
        rw [← String.toList_append]
        exact List.append_nil _
      have before : Settles " returning ".toList [word "returning"] := settles_closed (by decide +kernel)
      change Spells (_ ++ Fragment.chars [_]) _
      rw [chars]
      exact rows.append (before.append (settles_quoted key)).spells ⟨_, _, rfl, rfl⟩
  rw [fragment, Fragment.chars_text, Fragment.chars_append, Fragment.chars_append, Fragment.chars_text, List.append_assoc,
    List.append_assoc, lexemes]
  exact opening.append_spells (columns.append (values.append_spells last) ⟨_, _, rfl, rfl⟩)

theorem read?_sql {insert : Insert} (plain : insert.Plain) : read? insert.sql = some insert := by
  have columns : insert.columns.length ≤ insert.lexemes.length := by
    have count := @count_le_separated (insert.columns.map fun column => [nameLexeme column]) fun ls member => by
      obtain ⟨column, _, rfl⟩ := List.mem_map.1 member
      exact Nat.le_refl _
    rw [List.length_map] at count
    simp [lexemes]
    omega
  have most : (separated (insert.rows.map rowLexemes)).length ≤ insert.lexemes.length := by
    simp [lexemes]
    omega
  have rows : insert.rows.length ≤ insert.lexemes.length := by
    have count := @count_le_separated (insert.rows.map rowLexemes) fun ls member => by
      obtain ⟨row, _, rfl⟩ := List.mem_map.1 member
      simp [rowLexemes]
    rw [List.length_map] at count
    exact Nat.le_trans count most
  have each : ∀ row ∈ insert.rows, ∀ rest, (Reader.row insert.lexemes.length).run (rowLexemes row ++ rest) =
      some (row, rest) := by
    intro row member rest
    have own := length_le_separated (List.mem_map_of_mem (f := rowLexemes) member)
    have count := @count_le_separated (row.map Slot.lexemes) fun ls inside => by
      obtain ⟨slot, _, rfl⟩ := List.mem_map.1 inside
      simp [Slot.lexemes]
    simp [rowLexemes] at own
    rw [List.length_map] at count
    exact Reader.row_run (plain.filled row member) (plain.slots row member) (by omega) rest
  have whole : (Reader.insert insert.lexemes.length).run insert.lexemes = some (insert, []) := by
    have names : ∀ column ∈ insert.columns, ∀ rest, name.run ([nameLexeme column] ++ rest) = some (column, rest) :=
      fun column _ rest => name_run column rest
    have closes : ∀ rest, NoComma ([.mark ')', word "values"] ++ rest) := by simp [NoComma]
    have ends : NoComma (returningLexemes insert.returning) := by
      cases insert.returning <;> simp [NoComma, returningLexemes]
    have last : Reader.returning.run (returningLexemes insert.returning) = some (insert.returning, []) := by
      cases insert.returning with
      | none => rfl
      | some key =>
        have split : returningLexemes (some key) = [word "returning"] ++ [nameLexeme key] := rfl
        refine run_orElse_some ?_
        rw [split, run_bind_some (expect_run _ _), run_bind_some (name_run _ _)]
        rfl
    generalize insert.lexemes.length = fuel at columns rows each ⊢
    have written : insert.lexemes = [word "insert", word "into"] ++ (nameLexeme insert.table :: ([.mark '('] ++
        (separated (insert.columns.map fun column => [nameLexeme column]) ++ ([.mark ')', word "values"] ++
          (separated (insert.rows.map rowLexemes) ++ returningLexemes insert.returning))))) := rfl
    rw [written, Reader.insert, run_bind_some (expect_run _ _), run_bind_some (name_run _ _),
      run_bind_some (expect_run _ _), run_bind_some (list_run plain.columns names (closes _) columns),
      run_bind_some (expect_run _ _), run_bind_some (list_run plain.rows each ends rows), run_bind_some last]
    rfl
  refine Sql.Reader.whole_run ?_ whole
  rw [sql, Fragment.toList_sql]
  exact spells plain.safe

/-- The text of an insert without columns stands for no insert. -/
theorem read?_sql_of_no_columns {insert : Insert} (none : insert.columns = [])
    (safe : ∀ row ∈ insert.rows, ∀ slot ∈ row, slot.cast ∈ castTexts) : read? insert.sql = .none := by
  refine Sql.Reader.whole_refuses (by rw [sql, Fragment.toList_sql]; exact spells safe) ?_
  have written : insert.lexemes = [word "insert", word "into"] ++ (nameLexeme insert.table :: ([.mark '('] ++
      (.mark ')' :: word "values" :: (separated (insert.rows.map rowLexemes) ++ returningLexemes insert.returning)))) := by
    rw [lexemes, none]
    rfl
  generalize insert.lexemes.length = fuel
  rw [written, Reader.insert, run_bind_some (expect_run _ _), run_bind_some (name_run _ _), run_bind_some (expect_run _ _)]
  exact run_bind_none (list_refuses rfl fuel)

end Insert

end RecordStore.Mutation
