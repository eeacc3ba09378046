import RecordStore.Adapter.Find
import RecordStore.Proofs.Query.Discipline
import RecordStore.Proofs.Query.SearchLexemes
import RecordStore.Proofs.Query.SearchText

/-!
# The window of keys

The conditions of a statement are what stands behind its "where" and before its order and its page. For a search with keys
they are read as a conjunction that starts with the test of the keys, so no row passes them that fails this test.
-/

namespace RecordStore.Sql

/-! ### Clauses -/

def whereLexeme : Lexeme := .word "where".toList

namespace Lexeme

/-- The words that clauses behind the conditions start with. -/
def endsConditions (l : Lexeme) : Bool := l == .word "order".toList || l == .word "limit".toList || l == .word "offset".toList

end Lexeme

/-- The lexemes of the conditions of a statement, if it has any. -/
def conditionLexemes? (ls : List Lexeme) : Option (List Lexeme) :=
  match ls.dropWhile (· != whereLexeme) with
  | [] => none
  | _ :: rest => some (rest.takeWhile fun l => !l.endsConditions)

def whereClause? (text : String) : Option (List Lexeme) := (lexemes? text.toList).bind conditionLexemes?

/-- Lexemes that stay within the conditions. -/
def Inner (ls : List Lexeme) : Prop := ∀ l ∈ ls, l.endsConditions = false

theorem conditionLexemes?_between {before inside after : List Lexeme} (early : ∀ l ∈ before, l ≠ whereLexeme)
    (inner : Inner inside) (ends : ∀ l ∈ after.head?, l.endsConditions = true) :
    conditionLexemes? (before ++ whereLexeme :: (inside ++ after)) = some inside := by
  have dropped : (before ++ whereLexeme :: (inside ++ after)).dropWhile (· != whereLexeme) =
      whereLexeme :: (inside ++ after) := by
    rw [List.dropWhile_append_of_pos (by simpa using early)]
    simp
  have taken : (inside ++ after).takeWhile (fun l => !l.endsConditions) = inside := by
    rw [List.takeWhile_append_of_pos fun l member => by simp [inner l member]]
    cases after with
    | nil => simp
    | cons l rest => simp [ends l rfl]
  rw [conditionLexemes?, dropped, ← taken]
  simp [taken]

/-! ### Conditions stay inside -/

section Inner
variable {ls ms : List Lexeme}

theorem inner_append (first : Inner ls) (second : Inner ms) : Inner (ls ++ ms) := fun l member =>
  (List.mem_append.1 member).elim (first l) (second l)

theorem inner_closed (h : ls.all (!·.endsConditions) = true) : Inner ls := by simpa [Inner] using h

theorem inner_slots {slots : List Slot} (safe : ∀ slot ∈ slots, slot.cast ∈ castTexts) : Inner (slotLexemes slots) := by
  rw [slotLexemes_eq]
  intro l member
  rcases mem_separated member with rfl | ⟨ls, among, inside⟩
  · rfl
  obtain ⟨slot, own, rfl⟩ := List.mem_map.1 among
  have cast : Inner (Slot.castLexemes slot.cast) := by
    have known := safe slot own
    simp only [castTexts, List.mem_cons, List.not_mem_nil, or_false] at known
    rcases known with none | int | bytes
    · rw [none]
      exact inner_closed (by decide +kernel)
    · rw [int]
      exact inner_closed (by decide +kernel)
    · rw [bytes]
      exact inner_closed (by decide +kernel)
  rcases List.mem_cons.1 inside with rfl | inside
  · simp [Lexeme.endsConditions]
  · exact cast l inside

theorem inner_test {t : Test} (safe : t.Safe) : Inner t.lexemes := by
  have operand : ∀ operand : Operand, Inner operand.lexemes := by
    intro operand
    unfold Operand.lexemes
    split <;> exact inner_closed rfl
  have opening : Inner t.opening := by
    cases t with
    | atLeast o _ => exact inner_append (operand o) (inner_closed rfl)
    | atMost o _ => exact inner_append (operand o) (inner_closed rfl)
    | _ => exact inner_closed rfl
  have closing : Inner t.closing := by cases t <;> exact inner_closed rfl
  exact inner_append opening (inner_append (inner_slots safe) closing)

theorem inner_join (connective : Connective) {parts : List (List Lexeme)} (each : ∀ ls ∈ parts, Inner ls) :
    Inner (connective.joinLexemes parts) := by
  have word : connective.lexeme.endsConditions = false := by cases connective <;> rfl
  cases parts with
  | nil => exact nofun
  | cons ls rest =>
    refine inner_append (each ls List.mem_cons_self) fun l member => ?_
    obtain ⟨ms, among, inside⟩ := List.mem_flatMap.1 member
    rcases List.mem_cons.1 inside with rfl | inside
    · exact word
    · exact each ms (List.mem_cons_of_mem _ among) l inside

mutual

theorem inner_condition : ∀ {c : Condition}, c.Readable → Inner c.lexemes
  | .test _, h => inner_test h
  | .joined connective _, h => by
    rw [Condition.lexemes]
    have parts := inner_join connective (inner_conditions h.2)
    exact inner_append (@inner_closed [.mark '('] rfl) (inner_append parts (inner_closed rfl))
  | .negated inner, h => by
    rw [Condition.lexemes]
    have own := inner_condition (c := inner) h
    exact inner_append (@inner_closed [notLexeme, .mark '('] rfl) (inner_append own (inner_closed rfl))

theorem inner_conditions : ∀ {cs : List Condition}, Condition.AllReadable cs → ∀ ls ∈ Condition.lexemesEach cs, Inner ls
  | [], _ => nofun
  | _ :: _, h => List.forall_mem_cons.2 ⟨inner_condition h.1, inner_conditions h.2⟩

end

theorem inner_filter {cs : List Condition} (readable : ∀ c ∈ cs, c.Readable) :
    Inner (Connective.all.joinLexemes (Condition.lexemesEach cs)) := by
  refine inner_join .all fun ls member => ?_
  rw [Condition.lexemesEach_eq] at member
  obtain ⟨c, inside, rfl⟩ := List.mem_map.1 member
  exact inner_condition (readable c inside)

end Inner

namespace Formula

/-- The first of the formulas that are joined by "and". -/
def firstConjunct : Formula → Formula
  | both first _ => first.firstConjunct
  | f => f

theorem firstConjunct_foldl (f : Formula) (rest : List Formula) : (rest.foldl both f).firstConjunct = f.firstConjunct := by
  induction rest generalizing f with
  | nil => rfl
  | cons g rest ih => exact ih (both f g)

/-- What a formula holds of, its first conjunct holds of. -/
theorem firstConjunct_truth {assign : List Lexeme → Truth} {f : Formula} (holds : f.truth assign = .yes) :
    f.firstConjunct.truth assign = .yes := by
  induction f with
  | both first second ih _ =>
    apply ih
    unfold truth at holds
    cases found : first.truth assign with
    | yes => rfl
    | _ => cases other : second.truth assign <;> simp [found, other, Truth.both] at holds
  | _ => exact holds

end Formula

end RecordStore.Sql

namespace RecordStore.Query
open Sql Binding

variable {type : RecordType}

/-! ### The test of the keys -/

def placeText (n : Nat) : String := "$" ++ toString n

/-- The test that a row has one of the first so many values as its key. -/
def keyTestText (type : RecordType) (count : Nat) : String :=
  type.key.quoted ++ " in (" ++ ", ".intercalate ((List.range' 1 count).map placeText) ++ ")"

def keyTest (type : RecordType) (count : Nat) : Test := .oneOf type.key (slotsFrom 1 count)

theorem safe_keyTest (type : RecordType) (count : Nat) : (keyTest type count).Safe := fun slot member => by
  rw [cast_slotsFrom member]
  simp [castTexts]

theorem toList_keyTestText (type : RecordType) (count : Nat) :
    (keyTestText type count).toList = (keyTest type count).fragment.chars := by
  have places : ((slotsFrom 1 count).map Slot.fragment).map Fragment.sql = (List.range' 1 count).map placeText := by
    rw [slotsFrom, List.map_map, List.map_map]
    refine List.map_congr_left fun n _ => ?_
    simp [Slot.fragment, Fragment.sql, Piece.sql, placeText, String.join]
  rw [keyTestText, ← places]
  simp only [String.toList_append, ← chars_join, keyTest, Test.fragment, Fragment.chars_append, Fragment.ofText,
    Fragment.ofSlots]
  simp [Fragment.chars, Piece.sql]

theorem lexemes?_keyTestText (type : RecordType) (count : Nat) :
    lexemes? (keyTestText type count).toList = some (keyTest type count).lexemes := by
  rw [toList_keyTestText]
  exact (Test.spells (safe_keyTest type count)).lexemes?

/-- The conditions of a statement, read by the precedence of SQL, start with the test of the given keys. They are the first
values of the statement, and whatever else is asked for, only rows that this test holds of pass. -/
def Windowed (type : RecordType) (ids : List Value) (sql : String) (params : List Value) : Prop :=
  ∃ clause formula test stored more, whereClause? sql = some clause ∧ readFrom {} clause = some formula ∧
    lexemes? (keyTestText type ids.length).toList = some test ∧ formula.firstConjunct = .test test ∧
    ids.mapM Value.encoded = .ok stored ∧ params = stored ++ more ∧
    ∀ assign, formula.truth assign = .yes → assign test = .yes

theorem windowed_of_clause {ids params stored more : List Value} {sql : String} {filter : List Condition}
    (clause : whereClause? sql = some (Connective.all.joinLexemes
      (Condition.lexemesEach (.test (keyTest type ids.length) :: filter))))
    (readable : ∀ c ∈ filter, c.Readable) (encoded : ids.mapM Value.encoded = .ok stored) (grown : params = stored ++ more) :
    Windowed type ids sql params := by
  have all : ∀ c ∈ Condition.test (keyTest type ids.length) :: filter, c.Readable :=
    List.forall_mem_cons.2 ⟨safe_keyTest type ids.length, readable⟩
  have fills := @Condition.fills_join .all _ (List.cons_ne_nil _ _) (Condition.readsAs_each (Condition.allReadable_iff.2 all))
  have first : (Connective.all.joinFormulas (Condition.formulaEach (.test (keyTest type ids.length) :: filter))).firstConjunct =
      .test (keyTest type ids.length).lexemes := Formula.firstConjunct_foldl _ _
  refine ⟨_, _, _, stored, more, clause, fills.readFrom, lexemes?_keyTestText type ids.length, first, encoded, grown, ?_⟩
  intro assign holds
  have passed := Formula.firstConjunct_truth holds
  rwa [first] at passed

/-! ### Searches -/

theorem where_ne_projection (projection : Projection) : ∀ l ∈ projection.lexemes, l ≠ whereLexeme := by
  cases projection with
  | everything => simp [Projection.lexemes, whereLexeme]
  | columns names =>
    intro l member
    rcases mem_separated member with rfl | ⟨ls, among, inside⟩
    · nofun
    · obtain ⟨name, _, rfl⟩ := List.mem_map.1 among
      rw [List.mem_singleton.1 inside]
      nofun

theorem ends_behind (keys : List SortKey) (page : Page) :
    ∀ l ∈ (orderLexemes keys ++ page.lexemes).head?, l.endsConditions = true := by
  have count : ∀ word n, (Lexeme.word word.toList).endsConditions = true → ∀ ls : List Lexeme,
      (∀ l ∈ ls.head?, l.endsConditions = true) → ∀ l ∈ (countLexemes word n ++ ls).head?, l.endsConditions = true := by
    intro word n ends ls behind
    unfold countLexemes
    split
    · exact behind
    · simpa using ends
  have paged := count "limit" page.limit rfl _ (count "offset" page.offset rfl [] (by simp))
  rw [List.append_nil] at paged
  unfold orderLexemes
  split
  · exact paged
  · simp [Lexeme.endsConditions]

namespace Search

variable {search : Search}

theorem whereClause?_select (some : search.conditions ≠ []) (readable : ∀ c ∈ search.conditions, c.Readable) :
    whereClause? search.selectSql = Option.some (Connective.all.joinLexemes (Condition.lexemesEach search.conditions)) := by
  have whole : search.selectLexemes = (.word "select".toList :: (search.projection.lexemes ++
      [.word "from".toList, nameLexeme search.table])) ++ whereLexeme ::
      (Connective.all.joinLexemes (Condition.lexemesEach search.conditions) ++
        (orderLexemes search.order ++ search.page.lexemes)) := by
    rw [selectLexemes, sourceLexemes, whereLexemes, if_neg (by simpa using some)]
    simp [whereLexeme]
  rw [whereClause?, lexemes?_select readable, Option.bind_some, whole]
  refine conditionLexemes?_between ?_ (inner_filter readable) (ends_behind _ _)
  have projected := where_ne_projection search.projection
  intro l member
  rcases List.mem_cons.1 member with rfl | member
  · simp [whereLexeme]
  · rcases List.mem_append.1 member with inside | source
    · exact projected l inside
    · simp only [List.mem_cons, List.not_mem_nil, or_false] at source
      rcases source with rfl | rfl
      · simp [whereLexeme]
      · nofun

theorem whereClause?_count (some : search.conditions ≠ []) (readable : ∀ c ∈ search.conditions, c.Readable) :
    whereClause? search.countSql = Option.some (Connective.all.joinLexemes (Condition.lexemesEach search.conditions)) := by
  have whole : search.countLexemes = [.word "select".toList, .word "count".toList, .mark '(', .mark '*', .mark ')',
      .word "from".toList, nameLexeme search.table] ++ whereLexeme ::
      (Connective.all.joinLexemes (Condition.lexemesEach search.conditions) ++ []) := by
    rw [countLexemes, sourceLexemes, whereLexemes, if_neg (by simpa using some)]
    simp [whereLexeme]
  rw [whereClause?, lexemes?_count readable, Option.bind_some, whole]
  refine conditionLexemes?_between ?_ (inner_filter readable) (by simp)
  simp [whereLexeme, nameLexeme]

end Search

/-- A search with keys binds them first, and its first condition tests them. -/
theorem search_with_keys {keys options : Value} {ids : List Value} {search : Search} {params : ParameterList}
    (listed : keys.elements? = some ids) (ran : (Query.search type (some keys) options).runFrom [] = (.ok search, params)) :
    ∃ stored more, search.conditions = .test (keyTest type ids.length) :: search.filter ∧
      ids.mapM Value.encoded = .ok stored ∧ params = stored ++ more := by
  have parts := search_parts ran
  obtain ⟨middle, entries, bound, _, compiled⟩ := parts.bound
  obtain ⟨items, slots, elements, same, each⟩ := bindKeys_ok bound
  obtain rfl : items = ids := Option.some.inj ((Value.elements_ok elements).symm.trans listed)
  obtain ⟨stored, encoded, rfl, bound⟩ := mapM_bindEncoded each
  have grows := (extends_conditions type).2.1 entries middle
  rw [compiled, bound, List.nil_append] at grows
  obtain ⟨more, grown⟩ := grows
  refine ⟨stored, more, ?_, encoded, grown.symm⟩
  rw [Search.conditions, same, parts.keyColumn]
  rfl

theorem findStatements_windowed {keys options : Value} {ids : List Value} {statements : Adapter.FindStatements}
    (listed : keys.elements? = some ids) (built : Adapter.findStatements type keys options = .ok statements) :
    Windowed type ids statements.select statements.params ∧ Windowed type ids statements.count statements.params := by
  unfold Adapter.findStatements at built
  rw [Value.isNull_of_elements listed, if_neg (by simp)] at built
  rcases ran : (search type (some keys) options).runFrom [] with ⟨outcome, params⟩
  rw [ran] at built
  obtain ⟨search, rfl, rfl⟩ := map_ok built
  have readable := (counted_search ran).readable
  obtain ⟨stored, more, conditions, encoded, grown⟩ := search_with_keys listed ran
  have some : search.conditions ≠ [] := by simp [conditions]
  have select := search.whereClause?_select some readable
  have count := search.whereClause?_count some readable
  rw [conditions] at select count readable
  have filter := (List.forall_mem_cons.1 readable).2
  exact ⟨windowed_of_clause select filter encoded grown, windowed_of_clause count filter encoded grown⟩

end RecordStore.Query
