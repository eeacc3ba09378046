import RecordStore.Proofs.Mutation.Numbers
import RecordStore.Proofs.Sql.Reader

/-!
# Updates are read as they were built

The text of an update is read back as its assignments and its key, so what is said about them is said about the text.
-/

namespace RecordStore.Mutation
open Sql

/-! ### Expressions -/

namespace Expression

def concatOpening : List Lexeme := [word "array_cat", .mark '(']

def appendOpening : List Lexeme := [word "array_append", .mark '(']

def removeOpening : List Lexeme := [word "array_remove", .mark '(']

def withoutOpening : List Lexeme :=
  [word "array", .mark '(', word "select", word "x", word "from", word "unnest", .mark '(']

def withoutMiddle : List Lexeme :=
  [.mark ')', word "as", word "x", word "where", word "x", word "not", word "in", .mark '(']

/-- The lexemes around an expression and what is done with it. -/
def callLexemes (opening base middle more closing : List Lexeme) : List Lexeme :=
  opening ++ (base ++ (middle ++ (more ++ closing)))

def lexemes : Expression → List Lexeme
  | column name => [nameLexeme name]
  | value slot => slot.lexemes
  | concat base items => callLexemes concatOpening base.lexemes [.mark ','] items.lexemes [.mark ')']
  | append base item => callLexemes appendOpening base.lexemes [.mark ','] item.lexemes [.mark ')']
  | without base items =>
    callLexemes withoutOpening base.lexemes withoutMiddle (separated (items.map Slot.lexemes)) [.mark ')', .mark ')']
  | remove base item => callLexemes removeOpening base.lexemes [.mark ','] item.lexemes [.mark ')']

theorem spells_call {opening middle closing : String} {inner more : Fragment} {ls ms ns ps qs : List Lexeme}
    (opened : Settles opening.toList ls) (first : Spells inner.chars ms) (between : Settles middle.toList ns)
    (breaks : Breaks middle.toList) (second : Spells more.chars ps) (closed : Settles closing.toList qs)
    (ends : Breaks closing.toList) :
    Spells (Fragment.chars (.text opening :: (inner ++ .text middle :: more ++ [.text closing])))
      (callLexemes ls ms ns ps qs) := by
  have last : Fragment.chars [.text closing] = closing.toList := List.append_nil _
  have written : Fragment.chars (.text opening :: (inner ++ .text middle :: more ++ [.text closing])) =
      opening.toList ++ (inner.chars ++ (middle.toList ++ (more.chars ++ closing.toList))) := by
    rw [Fragment.chars_text, Fragment.chars_append, Fragment.chars_append, Fragment.chars_text, last, List.append_assoc,
      List.append_assoc]
  rw [written]
  exact (opened.append (first.append_settles (between.append (second.append_settles closed ends)) (breaks.append _))).spells

theorem spells {e : Expression} (safe : ∀ slot ∈ e.slots, slot.cast ∈ castTexts) : Spells e.fragment.chars e.lexemes := by
  have earlier : ∀ {base : Expression} {more : List Slot}, (∀ slot ∈ base.slots ++ more, slot.cast ∈ castTexts) →
      ∀ slot ∈ base.slots, slot.cast ∈ castTexts := fun all slot member => all slot (List.mem_append_left _ member)
  have last : ∀ {slots : List Slot} {slot : Slot}, (∀ s ∈ slots ++ [slot], s.cast ∈ castTexts) →
      Spells slot.fragment.chars slot.lexemes := fun all => Slot.spells _ (all _ (by simp))
  have comma : Settles ", ".toList [.mark ','] := settles_closed (by decide +kernel)
  have close : Settles ")".toList [.mark ')'] := settles_closed (by decide +kernel)
  induction e with
  | column name =>
    have chars : (fragment (column name)).chars = name.quoted.toList := List.append_nil _
    rw [chars]
    exact (settles_quoted name).spells
  | value slot => exact slot.spells (safe slot List.mem_cons_self)
  | concat base items ih =>
    exact spells_call (settles_closed (by decide +kernel)) (ih (earlier safe)) comma ⟨_, _, rfl, rfl⟩ (last safe) close
      ⟨_, _, rfl, rfl⟩
  | append base item ih =>
    exact spells_call (settles_closed (by decide +kernel)) (ih (earlier safe)) comma ⟨_, _, rfl, rfl⟩ (last safe) close
      ⟨_, _, rfl, rfl⟩
  | without base items ih =>
    have several := spells_slotList fun slot member => safe slot (List.mem_append_right _ member)
    exact spells_call (settles_closed (by decide +kernel)) (ih (earlier safe)) (settles_closed (by decide +kernel))
      ⟨_, _, rfl, rfl⟩ several (settles_closed (by decide +kernel)) ⟨_, _, rfl, rfl⟩
  | remove base item ih =>
    exact spells_call (settles_closed (by decide +kernel)) (ih (earlier safe)) comma ⟨_, _, rfl, rfl⟩ (last safe) close
      ⟨_, _, rfl, rfl⟩

end Expression

namespace Reader
open Sql.Reader Expression

variable {β : Type} {rest : List Lexeme}

/-- An expression and what is done with it. -/
def call (opening : List Lexeme) (base : Reader Expression) (middle : List Lexeme) (more : Reader β)
    (closing : List Lexeme) : Reader (Expression × β) := do
  expect opening
  let e ← base
  expect middle
  let b ← more
  expect closing
  return (e, b)

theorem call_run {opening middle closing ls ms : List Lexeme} {base : Reader Expression} {more : Reader β}
    {e : Expression} {b : β} (first : ∀ rest, base.run (ls ++ rest) = some (e, rest))
    (second : more.run (ms ++ (closing ++ rest)) = some (b, closing ++ rest)) :
    (call opening base middle more closing).run (callLexemes opening ls middle ms closing ++ rest) =
      some ((e, b), rest) := by
  have written : callLexemes opening ls middle ms closing ++ rest =
      opening ++ (ls ++ (middle ++ (ms ++ (closing ++ rest)))) := by
    simp [callLexemes]
  rw [written, call, run_bind_some (expect_run _ _), run_bind_some (first _), run_bind_some (expect_run _ _),
    run_bind_some second, run_bind_some (expect_run _ _)]
  rfl

theorem call_refuses {l m : Lexeme} (other : l ≠ m) {opening middle closing : List Lexeme} {base : Reader Expression}
    {more : Reader β} : (call (l :: opening) base middle more closing).run (m :: rest) = none := by
  rw [call, StateT.run_bind, expect_refuses other]
  rfl

/-- An expression, nested less deeply than `fuel`; the list of elements to leave out is no longer than that. -/
def expression : Nat → Reader Expression
  | 0 => failure
  | fuel + 1 =>
    (Expression.column <$> name) <|> (Expression.value <$> slot) <|>
    ((fun p => .concat p.1 p.2) <$> call concatOpening (expression fuel) [.mark ','] slot [.mark ')']) <|>
    ((fun p => .append p.1 p.2) <$> call appendOpening (expression fuel) [.mark ','] slot [.mark ')']) <|>
    ((fun p => .remove p.1 p.2) <$> call removeOpening (expression fuel) [.mark ','] slot [.mark ')']) <|>
    ((fun p => .without p.1 p.2) <$>
      call withoutOpening (expression fuel) withoutMiddle (list slot fuel) [.mark ')', .mark ')'])

end Reader

namespace Expression
open Reader Sql.Reader

/-- Expressions whose slots have no casts and that leave no empty list of elements out. -/
def Plain : Expression → Prop
  | column _ => True
  | value slot => slot.cast = ""
  | concat base items => base.Plain ∧ items.cast = ""
  | append base item => base.Plain ∧ item.cast = ""
  | without base items => base.Plain ∧ items ≠ [] ∧ ∀ slot ∈ items, slot.cast = ""
  | remove base item => base.Plain ∧ item.cast = ""

/-- How much reading an expression takes at most. -/
def size : Expression → Nat
  | column _ => 1
  | value _ => 1
  | concat base _ => base.size + 1
  | append base _ => base.size + 1
  | without base items => base.size + items.length + 1
  | remove base _ => base.size + 1

theorem size_le_lexemes (e : Expression) : e.size ≤ e.lexemes.length := by
  induction e with
  | column name => exact Nat.le_refl _
  | value slot => simp [size, lexemes, Slot.lexemes]
  | concat base items ih =>
    simp [size, lexemes, callLexemes, concatOpening]
    omega
  | append base item ih =>
    simp [size, lexemes, callLexemes, appendOpening]
    omega
  | remove base item ih =>
    simp [size, lexemes, callLexemes, removeOpening]
    omega
  | without base items ih =>
    have count : items.length ≤ (separated (items.map Slot.lexemes)).length := by
      have each := @count_le_separated (items.map Slot.lexemes) fun ls member => by
        obtain ⟨slot, _, rfl⟩ := List.mem_map.1 member
        simp [Slot.lexemes]
      rwa [List.length_map] at each
    simp [size, lexemes, callLexemes, withoutOpening]
    omega

theorem expression_run {e : Expression} (plain : e.Plain) {fuel : Nat} (enough : e.size ≤ fuel) (rest : List Lexeme) :
    (expression fuel).run (e.lexemes ++ rest) = some (e, rest) := by
  -- no word of a function is a name or a slot
  have called : ∀ {s : String} {others : Reader Expression} (rest : List Lexeme), s.toList.head? ≠ some '$' →
      ((Expression.column <$> name) <|> (Expression.value <$> slot) <|> others).run (word s :: rest) =
        others.run (word s :: rest) := by
    intro s others rest noSlot
    rw [run_orElse_none (run_map_none (name_refuses _ _)), run_orElse_none (run_map_none (slot_refuses noSlot _))]
  have skip : ∀ {s t : String} {γ : Type} {opening middle closing : List Lexeme} {base : Reader Expression}
      {more : Reader γ} {f : Expression × γ → Expression} {others : Reader Expression} (rest : List Lexeme), s ≠ t →
      ((f <$> call (word s :: opening) base middle more closing) <|> others).run (word t :: rest) =
        others.run (word t :: rest) :=
    fun _ other => run_orElse_none (run_map_none (call_refuses (word_ne other)))
  induction e generalizing fuel rest with
  | column c =>
    obtain ⟨fuel, rfl⟩ := Nat.exists_eq_add_of_le' enough
    exact run_orElse_some (run_map_some (name_run c rest))
  | value slot =>
    obtain ⟨fuel, rfl⟩ := Nat.exists_eq_add_of_le' enough
    exact (run_orElse_none (run_map_none (name_refuses _ _))).trans
      (run_orElse_some (run_map_some (slot_run plain rest)))
  | concat base items ih =>
    obtain ⟨fuel, rfl⟩ := Nat.exists_eq_add_of_le' (Nat.le_of_add_left_le enough)
    have inner : ∀ rest, (expression fuel).run (base.lexemes ++ rest) = some (base, rest) :=
      ih plain.1 (by simp [size] at enough; omega)
    exact (called _ (by decide +kernel)).trans (run_orElse_some (run_map_some (call_run inner (slot_run plain.2 _))))
  | append base item ih =>
    obtain ⟨fuel, rfl⟩ := Nat.exists_eq_add_of_le' (Nat.le_of_add_left_le enough)
    have inner : ∀ rest, (expression fuel).run (base.lexemes ++ rest) = some (base, rest) :=
      ih plain.1 (by simp [size] at enough; omega)
    exact (called _ (by decide +kernel)).trans ((skip _ (by decide)).trans
      (run_orElse_some (run_map_some (call_run inner (slot_run plain.2 _)))))
  | remove base item ih =>
    obtain ⟨fuel, rfl⟩ := Nat.exists_eq_add_of_le' (Nat.le_of_add_left_le enough)
    have inner : ∀ rest, (expression fuel).run (base.lexemes ++ rest) = some (base, rest) :=
      ih plain.1 (by simp [size] at enough; omega)
    exact (called _ (by decide +kernel)).trans ((skip _ (by decide)).trans ((skip _ (by decide)).trans
      (run_orElse_some (run_map_some (call_run inner (slot_run plain.2 _))))))
  | without base items ih =>
    obtain ⟨fuel, rfl⟩ := Nat.exists_eq_add_of_le' (Nat.le_of_add_left_le enough)
    obtain ⟨basePlain, filled, noCasts⟩ := plain
    have inner : ∀ rest, (expression fuel).run (base.lexemes ++ rest) = some (base, rest) :=
      ih basePlain (by simp [size] at enough; omega)
    have listed := @list_run _ ([.mark ')', .mark ')'] ++ rest) slot Slot.lexemes items filled
      (fun item member => slot_run (noCasts item member)) (by simp [NoComma]) fuel (by simp [size] at enough; omega)
    exact (called _ (by decide +kernel)).trans ((skip _ (by decide)).trans ((skip _ (by decide)).trans
      ((skip _ (by decide)).trans (run_map_some (call_run inner listed)))))

end Expression

/-! ### Updates -/

open Expression

def assignmentLexemes (pair : Identifier × Expression) : List Lexeme :=
  nameLexeme pair.1 :: .mark '=' :: pair.2.lexemes

namespace Reader
open Sql.Reader

def assignment (fuel : Nat) : Reader (Identifier × Expression) := do
  let column ← name
  expect [.mark '=']
  let e ← expression fuel
  return (column, e)

def update (fuel : Nat) : Reader Update := do
  expect [word "update"]
  let table ← name
  expect [word "set"]
  let assignments ← list (assignment fuel) fuel
  expect [word "where"]
  let keyColumn ← name
  expect [.mark '=']
  let key ← slot
  return { table, assignments, keyColumn, key }

end Reader

namespace Update
open Sql.Reader

def lexemes (update : Update) : List Lexeme :=
  word "update" :: nameLexeme update.table :: word "set" ::
    (separated (update.assignments.map assignmentLexemes) ++
      word "where" :: nameLexeme update.keyColumn :: .mark '=' :: update.key.lexemes)

/-- The update that a text stands for. -/
def read? (text : String) : Option Update := Sql.Reader.whole Reader.update text

/-- Updates whose text can be read: something is assigned, and no slot has a cast. -/
structure Plain (update : Update) : Prop where
  filled : update.assignments ≠ []
  expressions : ∀ pair ∈ update.assignments, pair.2.Plain
  key : update.key.cast = ""

theorem slots_plain {e : Expression} (plain : e.Plain) : ∀ slot ∈ e.slots, slot.cast ∈ castTexts := by
  have none : ∀ {slot : Slot}, slot.cast = "" → slot.cast ∈ castTexts := fun same => by simp [castTexts, same]
  induction e with
  | column name => simp [slots]
  | value slot =>
    intro s member
    rw [List.mem_singleton.1 member]
    exact none plain
  | without base items ih =>
    intro s member
    exact (List.mem_append.1 member).elim (ih plain.1 s) fun inside => none (plain.2.2 s inside)
  | concat base slot ih | append base slot ih | remove base slot ih =>
    intro s member
    refine (List.mem_append.1 member).elim (ih plain.1 s) fun inside => ?_
    rw [List.mem_singleton.1 inside]
    exact none plain.2

theorem spells {update : Update} (plain : update.Plain) : Spells update.fragment.chars update.lexemes := by
  have opening : Settles ("update " ++ update.table.quoted ++ " set ").toList
      [word "update", nameLexeme update.table, word "set"] := by
    have before : Settles "update ".toList [word "update"] := settles_closed (by decide +kernel)
    have after : Settles " set ".toList [word "set"] := settles_closed (by decide +kernel)
    rw [String.toList_append, String.toList_append]
    exact (before.append (settles_quoted update.table)).append after
  have condition : Settles (" where " ++ update.keyColumn.quoted ++ " = ").toList
      [word "where", nameLexeme update.keyColumn, .mark '='] := by
    have before : Settles " where ".toList [word "where"] := settles_closed (by decide +kernel)
    have after : Settles " = ".toList [.mark '='] := settles_closed (by decide +kernel)
    rw [String.toList_append, String.toList_append]
    exact (before.append (settles_quoted update.keyColumn)).append after
  have each : ∀ pair ∈ update.assignments,
      Spells (assignmentFragment pair.1 pair.2).chars (assignmentLexemes pair) := by
    intro pair member
    have set : Settles (pair.1.quoted ++ " = ").toList [nameLexeme pair.1, .mark '='] :=
      Test.settles_column pair.1 (by decide +kernel)
    exact set.append_spells (Expression.spells (slots_plain (plain.expressions pair member)))
  have key := update.key.spells (by simp [castTexts, plain.key])
  have breaks : Breaks (" where " ++ update.keyColumn.quoted ++ " = ").toList := by
    rw [String.toList_append, String.toList_append]
    exact Breaks.append (Breaks.append ⟨_, _, rfl, rfl⟩ _) _
  rw [fragment, Fragment.chars_text, Fragment.chars_append, Fragment.chars_text]
  exact opening.append_spells ((spells_join each).append (condition.append_spells key) (breaks.append _))

theorem read?_sql {update : Update} (plain : update.Plain) : read? update.sql = some update := by
  have assignments : update.assignments.length ≤ update.lexemes.length ∧
      ∀ pair ∈ update.assignments, pair.2.size ≤ update.lexemes.length := by
    have count := @count_le_separated (update.assignments.map assignmentLexemes) fun ls member => by
      obtain ⟨pair, _, rfl⟩ := List.mem_map.1 member
      simp [assignmentLexemes]
    have most : (separated (update.assignments.map assignmentLexemes)).length ≤ update.lexemes.length := by
      simp [lexemes]
      omega
    rw [List.length_map] at count
    refine ⟨Nat.le_trans count most, fun pair member => ?_⟩
    have own := length_le_separated (List.mem_map_of_mem (f := assignmentLexemes) member)
    have size := pair.2.size_le_lexemes
    simp [assignmentLexemes] at own
    omega
  have each : ∀ pair ∈ update.assignments, ∀ rest, (Reader.assignment update.lexemes.length).run
      (assignmentLexemes pair ++ rest) = some (pair, rest) := by
    intro pair member rest
    have inner := expression_run (plain.expressions pair member) (assignments.2 pair member) rest
    have written : assignmentLexemes pair ++ rest =
        nameLexeme pair.1 :: ([.mark '='] ++ (pair.2.lexemes ++ rest)) := rfl
    rw [written, Reader.assignment, run_bind_some (name_run _ _), run_bind_some (expect_run _ _), run_bind_some inner]
    rfl
  have whole : (Reader.update update.lexemes.length).run update.lexemes = some (update, []) := by
    have keyed : slot.run (update.key.lexemes ++ []) = some (update.key, []) := slot_run plain.key []
    have condition : ∀ rest, NoComma ([word "where"] ++ rest) := fun rest same => by cases Option.some.inj same
    have written : update.lexemes = [word "update"] ++ (nameLexeme update.table :: ([word "set"] ++
        (separated (update.assignments.map assignmentLexemes) ++ ([word "where"] ++
          (nameLexeme update.keyColumn :: ([.mark '='] ++ (update.key.lexemes ++ []))))))) := by
      simp [lexemes]
    generalize update.lexemes.length = fuel at assignments each ⊢
    rw [written, Reader.update, run_bind_some (expect_run _ _), run_bind_some (name_run _ _),
      run_bind_some (expect_run _ _), run_bind_some (list_run plain.filled each (condition _) assignments.1),
      run_bind_some (expect_run _ _), run_bind_some (name_run _ _), run_bind_some (expect_run _ _), run_bind_some keyed]
    rfl
  refine Sql.Reader.whole_run ?_ whole
  rw [sql, Fragment.toList_sql]
  exact spells plain

end Update

end RecordStore.Mutation
