import RecordStore.Proofs.Sql.Precedence
import RecordStore.Query.Find

/-!
# The lexemes of a search

Both statements of a search are cut into words, marks, the names of its parts and the lexemes of its conditions, which
follow the only "where" that stands outside parentheses.
-/

namespace RecordStore.Sql

section Tails
variable {cs ds : List Char} {ls ms : List Lexeme}

/-- A text that may stand behind any other: it is empty or starts with no word. -/
structure Trails (cs : List Char) (ls : List Lexeme) : Prop where
  spells : Spells cs ls
  starts : cs = [] ∨ Breaks cs

theorem trails_nil : Trails [] [] := ⟨settles_nil.spells, .inl rfl⟩

theorem Trails.parts (h : Trails ds ms) {rest : List Char} (follows : Parts rest) : Parts (ds ++ rest) := by
  rcases h.starts with rfl | breaks
  · exact follows
  · exact breaks.parts rest

theorem Spells.trailed (first : Spells cs ls) (second : Trails ds ms) : Spells (cs ++ ds) (ls ++ ms) := by
  intro done rest follows
  rw [List.append_assoc, first done (second.parts follows), second.spells _ follows, List.reverse_append,
    List.append_assoc]

theorem Trails.append (first : Trails cs ls) (second : Trails ds ms) : Trails (cs ++ ds) (ls ++ ms) := by
  refine ⟨first.spells.trailed second, ?_⟩
  rcases first.starts with rfl | breaks
  · exact second.starts
  · exact .inr (breaks.append ds)

end Tails

/-! ### Pieces -/

theorem chars_join (separator : String) (fragments : List Fragment) :
    (Fragment.join separator fragments).chars = (separator.intercalate (fragments.map Fragment.sql)).toList := by
  induction fragments with
  | nil => simp [Fragment.join, Fragment.chars]
  | cons f rest ih =>
    cases rest with
    | nil => rw [List.map_singleton, String.intercalate_singleton, Fragment.toList_sql, Fragment.join]
    | cons g rest =>
      have more : (Fragment.join separator (f :: g :: rest)).chars =
          f.chars ++ (separator.toList ++ (Fragment.join separator (g :: rest)).chars) := by
        rw [← Fragment.chars_text, ← Fragment.chars_append]
        rfl
      have apart : separator.intercalate ((f :: g :: rest).map Fragment.sql) =
          f.sql ++ separator ++ separator.intercalate ((g :: rest).map Fragment.sql) := String.intercalate_cons_cons
      rw [more, ih, apart, String.toList_append, String.toList_append, Fragment.toList_sql, List.append_assoc]

theorem toList_intercalate (separator : String) (texts : List String) :
    (separator.intercalate texts).toList = (Fragment.join separator (texts.map Fragment.ofText)).chars := by
  have own : (Fragment.sql ∘ Fragment.ofText : String → String) = id := by
    funext s
    simp [Fragment.sql, Fragment.ofText, Piece.sql, String.join]
  rw [chars_join, List.map_map, own, List.map_id]

theorem spells_number (n : Nat) : Spells (toString n).toList [.word (Nat.toDigits 10 n)] := by
  have digits : (toString n).toList = Nat.toDigits 10 n := by
    rw [show toString n = Nat.repr n from rfl, Nat.repr, String.toList_ofList]
  rw [digits]
  refine spells_word Nat.toDigits_ne_nil fun c member => ?_
  simp [isLexemeChar, Char.isAlphanum, isDigit_of_mem_toDigits member]

end RecordStore.Sql

namespace RecordStore.Query
open Sql

namespace Projection

def lexemes : Projection → List Lexeme
  | everything => [.mark '*']
  | columns names => separated (names.map fun name => [nameLexeme name])

theorem spells (projection : Projection) : Spells projection.fragment.chars projection.lexemes := by
  cases projection with
  | everything => exact spells_closed (by decide +kernel)
  | columns names =>
    refine spells_join fun name _ => ?_
    simpa [Fragment.ofIdentifier, Fragment.chars, Piece.sql] using (settles_quoted name).spells

end Projection

/-! ### Order and page -/

theorem chars_clause {text : String} (nonempty : text ≠ "") : (Search.clause text).chars = " ".toList ++ text.toList := by
  rw [Search.clause, if_neg (by simpa using nonempty)]
  simp [Fragment.ofText, Fragment.chars, Piece.sql]

namespace SortKey

def lexemes (key : SortKey) : List Lexeme := key.operand.lexemes ++ [.word key.direction.word.toList]

theorem spells (key : SortKey) : Spells key.text.toList key.lexemes := by
  have word : Spells (" " ++ key.direction.word).toList [.word key.direction.word.toList] := by
    cases key.direction <;> exact spells_closed (by decide +kernel)
  have whole : key.text.toList = key.operand.text.toList ++ (" " ++ key.direction.word).toList := by
    simp only [text, String.toList_append, List.append_assoc]
  rw [whole]
  exact key.operand.settles.append_spells word

end SortKey

def orderLexemes (keys : List SortKey) : List Lexeme :=
  if keys.isEmpty then []
  else .word "order".toList :: .word "by".toList :: separated (keys.map SortKey.lexemes)

theorem trails_order (keys : List SortKey) : Trails (Search.clause (orderText keys)).chars (orderLexemes keys) := by
  cases keys with
  | nil => exact trails_nil
  | cons key rest =>
    have words : Settles " order by ".toList [.word "order".toList, .word "by".toList] := settles_closed (by decide +kernel)
    have listed : Spells (", ".intercalate ((key :: rest).map SortKey.text)).toList
        (separated ((key :: rest).map SortKey.lexemes)) := by
      rw [toList_intercalate, List.map_map]
      refine spells_join fun key _ => ?_
      simpa [Fragment.ofText, Fragment.chars, Piece.sql] using key.spells
    have whole : (Search.clause (orderText (key :: rest))).chars =
        " order by ".toList ++ (", ".intercalate ((key :: rest).map SortKey.text)).toList := by
      rw [chars_clause (by simp [orderText]), orderText, if_neg (by simp), String.toList_append]
      rfl
    rw [whole]
    exact ⟨words.append_spells listed, .inr ⟨_, _, rfl, rfl⟩⟩

/-- The lexemes of a count behind its word. A count of zero is left out. -/
def countLexemes (word : String) (n : Nat) : List Lexeme := if n = 0 then [] else [.word word.toList, .word (Nat.toDigits 10 n)]

def countChars (word : String) (n : Nat) : List Char :=
  if n = 0 then [] else " ".toList ++ ((word ++ " ").toList ++ (toString n).toList)

theorem trails_count {word : String} (h : (" " ++ word ++ " ").toList.foldl Lexing.step {} = ⟨[.word word.toList], .nothing⟩)
    (n : Nat) : Trails (countChars word n) (countLexemes word n) := by
  unfold countChars countLexemes
  by_cases zero : n = 0
  · rw [if_pos zero, if_pos zero]
    exact trails_nil
  · rw [if_neg zero, if_neg zero, ← List.append_assoc, ← String.toList_append, ← String.append_assoc]
    have opened : Settles (" " ++ word ++ " ").toList [.word word.toList] := settles_closed h
    refine ⟨opened.append_spells (spells_number n), .inr ?_⟩
    rw [String.append_assoc, String.toList_append, List.append_assoc]
    exact ⟨' ', _, rfl, rfl⟩

namespace Page

def lexemes (page : Page) : List Lexeme := countLexemes "limit" page.limit ++ countLexemes "offset" page.offset

theorem chars_clause_text (page : Page) :
    (Search.clause page.text).chars = countChars "limit" page.limit ++ countChars "offset" page.offset := by
  obtain ⟨limit, offset⟩ := page
  unfold countChars text parts
  by_cases noLimit : limit = 0 <;> by_cases noOffset : offset = 0
  · subst noLimit noOffset
    rfl
  · simp only [noLimit, noOffset, if_true, if_false, List.nil_append, String.intercalate_singleton]
    rw [chars_clause (by simp), String.toList_append]
    rfl
  · simp only [noLimit, noOffset, if_true, if_false, List.append_nil, String.intercalate_singleton]
    rw [chars_clause (by simp), String.toList_append]
    rfl
  · simp only [noLimit, noOffset, if_false, List.cons_append, List.nil_append, String.intercalate_cons_cons,
      String.intercalate_singleton]
    rw [chars_clause (by simp)]
    simp only [String.toList_append, List.append_assoc]
    rfl

theorem trails (page : Page) : Trails (Search.clause page.text).chars page.lexemes := by
  rw [chars_clause_text]
  exact (trails_count (by decide +kernel) _).append (trails_count (by decide +kernel) _)

end Page

/-! ### Statements -/

namespace Search

/-- What the conditions of a search are cut into, behind the word that opens them. -/
def whereLexemes (search : Search) : List Lexeme :=
  if search.conditions.isEmpty then []
  else .word "where".toList :: Connective.all.joinLexemes (Condition.lexemesEach search.conditions)

def sourceLexemes (search : Search) : List Lexeme :=
  .word "from".toList :: nameLexeme search.table :: search.whereLexemes

def selectLexemes (search : Search) : List Lexeme :=
  .word "select".toList :: (search.projection.lexemes ++ search.sourceLexemes ++ orderLexemes search.order ++
    search.page.lexemes)

def countLexemes (search : Search) : List Lexeme :=
  .word "select".toList :: .word "count".toList :: .mark '(' :: .mark '*' :: .mark ')' :: search.sourceLexemes

variable {search : Search}

theorem trails_where (readable : ∀ c ∈ search.conditions, c.Readable) :
    Trails search.whereClause.chars search.whereLexemes := by
  unfold whereClause whereLexemes Condition.whereFragment?
  cases none : search.conditions.isEmpty with
  | true => exact trails_nil
  | false =>
    have opened : Settles " where ".toList [.word "where".toList] := settles_closed (by decide +kernel)
    have joined := Condition.spells_joinFragments .all (Condition.allReadable_iff.2 readable)
    exact ⟨opened.append_spells joined, .inr ⟨_, _, rfl, rfl⟩⟩

theorem trails_source (readable : ∀ c ∈ search.conditions, c.Readable) :
    Trails search.source.chars search.sourceLexemes := by
  have opened : Settles " from ".toList [.word "from".toList] := settles_closed (by decide +kernel)
  have table := opened.append (settles_quoted search.table)
  rw [source, Fragment.chars_text, String.toList_append]
  refine ⟨table.append_spells (trails_where readable).spells, .inr ⟨' ', _, rfl, rfl⟩⟩

theorem lexemes?_select (readable : ∀ c ∈ search.conditions, c.Readable) :
    lexemes? search.selectSql.toList = some search.selectLexemes := by
  have opened : Settles "select ".toList [.word "select".toList] := settles_closed (by decide +kernel)
  have columns := opened.append_spells search.projection.spells
  have whole := ((columns.trailed (trails_source readable)).trailed (trails_order search.order)).trailed search.page.trails
  rw [selectSql, Fragment.toList_sql, selectFragment, Fragment.chars_append, Fragment.chars_append, Fragment.chars_append,
    Fragment.chars_text]
  exact whole.lexemes?

theorem lexemes?_count (readable : ∀ c ∈ search.conditions, c.Readable) :
    lexemes? search.countSql.toList = some search.countLexemes := by
  have opened : Spells "select count(*)".toList
      [.word "select".toList, .word "count".toList, .mark '(', .mark '*', .mark ')'] := spells_closed (by decide +kernel)
  rw [countSql, Fragment.toList_sql, countFragment, Fragment.chars_text]
  exact (opened.trailed (trails_source readable)).lexemes?

end Search

end RecordStore.Query
