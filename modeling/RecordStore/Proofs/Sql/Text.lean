import RecordStore.Proofs.Number.Numeral
import RecordStore.Proofs.Sql.Formula
import RecordStore.Sql.Condition

/-!
# The text of tests

Every test is written as one operand: its text is cut into lexemes that start like no formula and close the
parentheses that they open. Only the casts of slots are text that a test does not fix itself, so they have to
be among those that elements of arrays get.
-/

namespace RecordStore.Sql

namespace Fragment

def chars (fragment : Fragment) : List Char := fragment.flatMap fun piece => piece.sql.toList

theorem toList_sql (fragment : Fragment) : fragment.sql.toList = fragment.chars := by
  rw [sql, String.toList_join, List.flatMap_map]
  rfl

theorem chars_append (first second : Fragment) : chars (first ++ second) = first.chars ++ second.chars :=
  List.flatMap_append

theorem chars_text (s : String) (rest : Fragment) : chars (.text s :: rest) = s.toList ++ chars rest := rfl

theorem chars_slot (number : Nat) (rest : Fragment) :
    chars (.slot number :: rest) = '$' :: Nat.toDigits 10 number ++ chars rest := by
  have digits : (toString number).toList = Nat.toDigits 10 number := by
    rw [show toString number = Nat.repr number from rfl, Nat.repr, String.toList_ofList]
  change ("$" ++ toString number).toList ++ chars rest = _
  rw [String.toList_append, digits]
  rfl

end Fragment

/-! ### Slots -/

/-- The casts that elements of arrays get. -/
def castTexts : List String := ["", "::int", "::bytea"]

namespace Slot

def castLexemes (cast : String) : List Lexeme := (lexemes? cast.toList).getD []

def lexemes (slot : Slot) : List Lexeme := .word ('$' :: Nat.toDigits 10 slot.number) :: castLexemes slot.cast

theorem chars_fragment (slot : Slot) :
    slot.fragment.chars = '$' :: Nat.toDigits 10 slot.number ++ slot.cast.toList := by
  unfold fragment
  split
  · rename_i none
    rw [Fragment.chars_slot, String.isEmpty_iff.1 none]
    rfl
  · rw [Fragment.chars_slot, Fragment.chars_text]
    simp [Fragment.chars]

theorem spells (slot : Slot) (safe : slot.cast ∈ castTexts) : Spells slot.fragment.chars slot.lexemes := by
  have number : Spells ('$' :: Nat.toDigits 10 slot.number) [.word ('$' :: Nat.toDigits 10 slot.number)] := by
    refine spells_word (by simp) fun c hc => ?_
    rcases List.mem_cons.1 hc with rfl | digit
    · rfl
    · simp [isLexemeChar, Char.isAlphanum, isDigit_of_mem_toDigits digit]
  rw [chars_fragment, lexemes]
  simp only [castTexts, List.mem_cons, List.not_mem_nil, or_false] at safe
  rcases safe with none | int | bytes
  · rw [none, show "".toList = [] from rfl, List.append_nil]
    exact number
  · rw [int]
    exact number.append (spells_closed (by decide +kernel)) ⟨_, _, rfl, rfl⟩
  · rw [bytes]
    exact number.append (spells_closed (by decide +kernel)) ⟨_, _, rfl, rfl⟩

theorem depthFrom?_lexemes (slot : Slot) (safe : slot.cast ∈ castTexts) (depth : Nat) :
    depthFrom? depth slot.lexemes = some depth := by
  have number : depthFrom? depth [.word ('$' :: Nat.toDigits 10 slot.number)] = some depth := by
    simp [depthFrom?, Reading.depthAfter, Lexeme.isEnd, Lexeme.isAnd, Lexeme.isOr, Lexeme.isClose, Lexeme.isOpen]
  have cast : depthFrom? depth (castLexemes slot.cast) = some depth := by
    simp only [castTexts, List.mem_cons, List.not_mem_nil, or_false] at safe
    rcases safe with none | int | bytes
    · rw [none]
      rfl
    · rw [int]
      cases depth <;> rfl
    · rw [bytes]
      cases depth <;> rfl
  rw [lexemes, ← List.singleton_append, depthFrom?_append, number]
  exact cast

end Slot

/-- Lexemes with a comma between each two parts. -/
def separated : List (List Lexeme) → List Lexeme
  | [] => []
  | [ls] => ls
  | ls :: rest => ls ++ .mark ',' :: separated rest

theorem mem_separated {parts : List (List Lexeme)} {l : Lexeme} (member : l ∈ separated parts) :
    l = .mark ',' ∨ ∃ ls ∈ parts, l ∈ ls := by
  induction parts with
  | nil => cases member
  | cons ls rest ih =>
    cases rest with
    | nil => exact .inr ⟨ls, List.mem_cons_self, member⟩
    | cons next rest =>
      rcases List.mem_append.1 member with inside | later
      · exact .inr ⟨ls, List.mem_cons_self, inside⟩
      · rcases List.mem_cons.1 later with comma | later
        · exact .inl comma
        · rcases ih later with comma | ⟨ms, among, inside⟩
          · exact .inl comma
          · exact .inr ⟨ms, List.mem_cons_of_mem _ among, inside⟩

theorem spells_join {α : Type} {fragment : α → Fragment} {lexemes : α → List Lexeme} {as : List α}
    (each : ∀ a ∈ as, Spells (fragment a).chars (lexemes a)) :
    Spells (Fragment.join ", " (as.map fragment)).chars (separated (as.map lexemes)) := by
  induction as with
  | nil => exact settles_nil.spells
  | cons a rest ih =>
    have first := each a List.mem_cons_self
    cases rest with
    | nil => exact first
    | cons b rest =>
      have others := ih fun c member => each c (List.mem_cons_of_mem _ member)
      have between : Settles ", ".toList [.mark ','] := settles_closed (by decide +kernel)
      have written : (Fragment.join ", " ((a :: b :: rest).map fragment)).chars =
          (fragment a).chars ++ (", ".toList ++ (Fragment.join ", " ((b :: rest).map fragment)).chars) := by
        rw [← Fragment.chars_text, ← Fragment.chars_append]
        rfl
      rw [written]
      exact first.append (between.append_spells others) ⟨_, _, rfl, rfl⟩

/-- The lexemes of slots with commas between them. -/
def slotLexemes : List Slot → List Lexeme
  | [] => []
  | [slot] => slot.lexemes
  | slot :: rest => slot.lexemes ++ .mark ',' :: slotLexemes rest

theorem slotLexemes_eq (slots : List Slot) : slotLexemes slots = separated (slots.map Slot.lexemes) := by
  induction slots with
  | nil => rfl
  | cons slot rest ih =>
    cases rest with
    | nil => rfl
    | cons next rest => exact congrArg (slot.lexemes ++ Lexeme.mark ',' :: ·) ih

theorem spells_slots {slots : List Slot} (safe : ∀ slot ∈ slots, slot.cast ∈ castTexts) :
    Spells (Fragment.ofSlots slots).chars (slotLexemes slots) := by
  rw [slotLexemes_eq]
  exact spells_join fun slot member => slot.spells (safe slot member)

theorem depthFrom?_slots {slots : List Slot} (safe : ∀ slot ∈ slots, slot.cast ∈ castTexts) (depth : Nat) :
    depthFrom? depth (slotLexemes slots) = some depth := by
  induction slots with
  | nil => rfl
  | cons slot rest ih =>
    have first := slot.depthFrom?_lexemes (safe slot List.mem_cons_self) depth
    cases rest with
    | nil => exact first
    | cons next rest =>
      have others := ih fun s hs => safe s (List.mem_cons_of_mem _ hs)
      have comma : ∀ ls, depthFrom? depth (.mark ',' :: ls) = depthFrom? depth ls := by
        intro ls
        cases depth <;> rfl
      rw [slotLexemes, depthFrom?_append, first, Option.bind_some, comma, others]
      simp

/-! ### Tests -/

def nameLexeme (column : Identifier) : Lexeme := .name column.text.toList

def lengthLexemes (column : Identifier) : List Lexeme :=
  [.word "coalesce".toList, .mark '(', .word "array_length".toList, .mark '(', nameLexeme column, .mark ',',
    .word ['1'], .mark ')', .mark ',', .word ['0'], .mark ')']

theorem settles_quoted (column : Identifier) : Settles column.quoted.toList [nameLexeme column] := by
  have chars : column.quoted.toList = '"' :: (column.text.toList ++ ['"']) := by
    simp [Identifier.quoted, String.toList_append]
  rw [chars]
  exact settles_name (identifier_avoids column rfl (by decide))

theorem settles_length (column : Identifier) : Settles (lengthText column).toList (lengthLexemes column) := by
  have before : Settles "coalesce(array_length(".toList
      [.word "coalesce".toList, .mark '(', .word "array_length".toList, .mark '('] := settles_closed (by decide +kernel)
  have after : Settles ", 1), 0)".toList [.mark ',', .word ['1'], .mark ')', .mark ',', .word ['0'], .mark ')'] :=
    settles_closed (by decide +kernel)
  have chars : (lengthText column).toList =
      "coalesce(array_length(".toList ++ column.quoted.toList ++ ", 1), 0)".toList := by
    unfold lengthText
    simp only [String.toList_append]
  rw [chars]
  exact (before.append (settles_quoted column)).append after

namespace Operand

def lexemes (operand : Operand) : List Lexeme :=
  if operand.isLength then lengthLexemes operand.column else [nameLexeme operand.column]

theorem settles (operand : Operand) : Settles operand.text.toList operand.lexemes := by
  unfold text lexemes
  split
  · exact settles_length operand.column
  · exact settles_quoted operand.column

end Operand

namespace Test

/-- The slots of a test. -/
def slots : Test → List Slot
  | equal _ value => [value]
  | oneOf _ values => values
  | holdsAll _ values => values
  | atLeast _ bound => [bound]
  | atMost _ bound => [bound]
  | like _ pattern => [pattern]
  | anyLike _ pattern => [pattern]
  | _ => []

def Safe (t : Test) : Prop := ∀ slot ∈ t.slots, slot.cast ∈ castTexts

def opening : Test → List Lexeme
  | always => [.word "true".toList]
  | never => [.word "false".toList]
  | equal column _ => [nameLexeme column, .mark '=']
  | oneOf column _ => [nameLexeme column, .word "in".toList, .mark '(']
  | holdsAll column _ => [nameLexeme column, .mark '@', .mark '>', .word "array".toList, .mark '[']
  | atLeast operand _ => operand.lexemes ++ [.mark '>', .mark '=']
  | atMost operand _ => operand.lexemes ++ [.mark '<', .mark '=']
  | isSet column => [nameLexeme column, .word "is".toList, .word "not".toList, .word "null".toList]
  | isUnset column => [nameLexeme column, .word "is".toList, .word "null".toList]
  | hasElements column => lengthLexemes column ++ [.mark '>', .word ['0']]
  | hasNoElements column => lengthLexemes column ++ [.mark '=', .word ['0']]
  | like column _ => [nameLexeme column, .word "ilike".toList]
  | anyLike column _ =>
    [.word "exists".toList, .mark '(', .word "select".toList, .word ['1'], .word "from".toList, .word "unnest".toList,
      .mark '(', nameLexeme column, .mark ')', .word "as".toList, .word ['x'], .word "where".toList, .word ['x'],
      .mark ':', .mark ':', .word "text".toList, .word "ilike".toList]

def closing : Test → List Lexeme
  | oneOf .. => [.mark ')']
  | holdsAll .. => [.mark ']']
  | anyLike .. => [.mark ')']
  | _ => []

def lexemes (t : Test) : List Lexeme := t.opening ++ (slotLexemes t.slots ++ t.closing)

section Spelling
variable {before after : String} {ls ms : List Lexeme} {slots : List Slot}

theorem settles_column (column : Identifier) (h : after.toList.foldl Lexing.step {} = ⟨ms.reverse, .nothing⟩) :
    Settles (column.quoted ++ after).toList (nameLexeme column :: ms) := by
  rw [String.toList_append]
  exact (settles_quoted column).append (settles_closed h)

theorem spells_column (column : Identifier) (h : Sql.lexemes? after.toList = some ms) :
    Spells (column.quoted ++ after).toList (nameLexeme column :: ms) := by
  rw [String.toList_append]
  exact (settles_quoted column).append_spells (spells_closed h)

theorem spells_then_slot {slot : Slot} (opened : Settles before.toList ls)
    (safe : ∀ slot' ∈ [slot], slot'.cast ∈ castTexts) :
    Spells (Fragment.ofText before ++ slot.fragment).chars (ls ++ (slotLexemes [slot] ++ [])) := by
  rw [Fragment.chars_append, List.append_nil]
  refine Settles.append_spells ?_ (slot.spells (safe slot List.mem_cons_self))
  simpa [Fragment.ofText, Fragment.chars, Piece.sql] using opened

theorem spells_around_slots (opened : Settles before.toList ls) (safe : ∀ slot ∈ slots, slot.cast ∈ castTexts)
    (closed : Settles after.toList ms) (breaks : Breaks after.toList) :
    Spells (Fragment.ofText before ++ Fragment.ofSlots slots ++ Fragment.ofText after).chars
      (ls ++ (slotLexemes slots ++ ms)) := by
  have first : Settles (Fragment.ofText before).chars ls := by
    simpa [Fragment.ofText, Fragment.chars, Piece.sql] using opened
  have last : Settles (Fragment.ofText after).chars ms := by
    simpa [Fragment.ofText, Fragment.chars, Piece.sql] using closed
  rw [Fragment.chars_append, Fragment.chars_append, List.append_assoc]
  refine (first.append ((spells_slots safe).append_settles last ?_)).spells
  simpa [Fragment.ofText, Fragment.chars, Piece.sql] using breaks

end Spelling

theorem spells_text {s : String} {ls : List Lexeme} (h : Spells s.toList ls) :
    Spells (Fragment.ofText s).chars (ls ++ ([] ++ [])) := by
  simpa [Fragment.ofText, Fragment.chars, Piece.sql] using h

theorem settles_operand (operand : Operand) {after : String} {ms : List Lexeme}
    (h : after.toList.foldl Lexing.step {} = ⟨ms.reverse, .nothing⟩) :
    Settles (operand.text ++ after).toList (operand.lexemes ++ ms) := by
  rw [String.toList_append]
  exact operand.settles.append (settles_closed h)

theorem spells_length (column : Identifier) {after : String} {ms : List Lexeme}
    (h : Sql.lexemes? after.toList = some ms) :
    Spells (lengthText column ++ after).toList (lengthLexemes column ++ ms) := by
  rw [String.toList_append]
  exact (settles_length column).append_spells (spells_closed h)

theorem settles_unnest (column : Identifier) :
    Settles ("exists (select 1 from unnest(" ++ column.quoted ++ ") as x where x::text ilike ").toList
      (opening (anyLike column default)) := by
  have before : Settles "exists (select 1 from unnest(".toList
      [.word "exists".toList, .mark '(', .word "select".toList, .word ['1'], .word "from".toList,
        .word "unnest".toList, .mark '('] := settles_closed (by decide +kernel)
  have after : Settles ") as x where x::text ilike ".toList
      [.mark ')', .word "as".toList, .word ['x'], .word "where".toList, .word ['x'], .mark ':', .mark ':',
        .word "text".toList, .word "ilike".toList] := settles_closed (by decide +kernel)
  rw [String.toList_append, String.toList_append]
  exact (before.append (settles_quoted column)).append after

theorem spells {t : Test} (safe : t.Safe) : Spells t.fragment.chars t.lexemes := by
  have parenthesis : Settles ")".toList [.mark ')'] := settles_closed (by decide +kernel)
  have bracket : Settles "]".toList [.mark ']'] := settles_closed (by decide +kernel)
  cases t with
  | always => exact spells_text (spells_closed (by decide +kernel))
  | never => exact spells_text (spells_closed (by decide +kernel))
  | equal column value => exact spells_then_slot (settles_column column (by decide +kernel)) safe
  | oneOf column values =>
    exact spells_around_slots (settles_column column (by decide +kernel)) safe parenthesis ⟨_, _, rfl, rfl⟩
  | holdsAll column values =>
    exact spells_around_slots (settles_column column (by decide +kernel)) safe bracket ⟨_, _, rfl, rfl⟩
  | atLeast operand bound => exact spells_then_slot (settles_operand operand (by decide +kernel)) safe
  | atMost operand bound => exact spells_then_slot (settles_operand operand (by decide +kernel)) safe
  | isSet column => exact spells_text (spells_column column (by decide +kernel))
  | isUnset column => exact spells_text (spells_column column (by decide +kernel))
  | hasElements column => exact spells_text (spells_length column (by decide +kernel))
  | hasNoElements column => exact spells_text (spells_length column (by decide +kernel))
  | like column pattern => exact spells_then_slot (settles_column column (by decide +kernel)) safe
  | anyLike column pattern =>
    exact @spells_around_slots _ _ _ _ [pattern] (settles_unnest column) safe parenthesis ⟨_, _, rfl, rfl⟩

/-! ### Tests are operands -/

theorem depthFrom?_lexemes {t : Test} (safe : t.Safe) (depth : Nat) (opens : depthFrom? 0 t.opening = some depth)
    (closes : depthFrom? depth t.closing = some 0) : depthFrom? 0 t.lexemes = some 0 := by
  rw [lexemes, depthFrom?_append, opens, Option.bind_some, depthFrom?_append, depthFrom?_slots safe]
  exact closes

theorem depthFrom?_operand (operand : Operand) (ls : List Lexeme) :
    depthFrom? 0 (operand.lexemes ++ ls) = depthFrom? 0 ls := by
  unfold Operand.lexemes
  cases operand.isLength <;> rfl

theorem starts (t : Test) : ∀ l ∈ t.lexemes.head?, l.isNot = false ∧ l.isOpen = false ∧ l.isEnd = false := by
  intro l hl
  cases t with
  | atLeast operand bound =>
    obtain ⟨column, isLength⟩ := operand
    cases isLength <;> cases hl <;> exact ⟨rfl, rfl, rfl⟩
  | atMost operand bound =>
    obtain ⟨column, isLength⟩ := operand
    cases isLength <;> cases hl <;> exact ⟨rfl, rfl, rfl⟩
  | _ =>
    cases hl
    exact ⟨rfl, rfl, rfl⟩

theorem isTest {t : Test} (safe : t.Safe) : IsTest t.lexemes where
  nonempty := by cases t <;> simp [lexemes, opening, lengthLexemes]
  starts := t.starts
  closed := by
    cases t with
    | oneOf column values => exact depthFrom?_lexemes safe 1 rfl rfl
    | anyLike column pattern => exact depthFrom?_lexemes safe 1 rfl rfl
    | atLeast operand bound => exact depthFrom?_lexemes safe 0 (depthFrom?_operand operand _) rfl
    | atMost operand bound => exact depthFrom?_lexemes safe 0 (depthFrom?_operand operand _) rfl
    | _ => exact depthFrom?_lexemes safe 0 rfl rfl

end Test

end RecordStore.Sql
