import RecordStore.Proofs.Sql.Text

/-!
# Reading lexemes

Readers take parts of a statement off the front of its lexemes: fixed words, names, slots, and lists with commas
between their elements. What is written for such a part is read as that part, whatever follows it.
-/

namespace RecordStore.Sql

abbrev word (s : String) : Lexeme := .word s.toList

theorem word_ne {s t : String} (other : s ≠ t) : word s ≠ word t := by
  intro same
  exact other (String.toList_inj.1 (Lexeme.word.inj same))

abbrev Reader := StateT (List Lexeme) Option

namespace Reader

variable {α β : Type} {input middle rest : List Lexeme}

theorem run_bind_some {read : Reader α} {f : α → Reader β} {a : α} (first : read.run input = some (a, middle)) :
    (read >>= f).run input = (f a).run middle := by
  rw [StateT.run_bind, first]
  rfl

theorem run_bind_none {read : Reader α} {f : α → Reader β} (refused : read.run input = none) :
    (read >>= f).run input = none := by
  rw [StateT.run_bind, refused]
  rfl

theorem run_map_some {read : Reader α} {f : α → β} {a : α} (first : read.run input = some (a, middle)) :
    (f <$> read).run input = some (f a, middle) := by
  rw [StateT.run_map, first]
  rfl

theorem run_map_none {read : Reader α} {f : α → β} (refused : read.run input = none) : (f <$> read).run input = none := by
  rw [StateT.run_map, refused]
  rfl

theorem run_orElse (first second : Reader α) :
    (first <|> second).run input = (first.run input <|> second.run input) := rfl

theorem run_orElse_none {first second : Reader α} (refused : first.run input = none) :
    (first <|> second).run input = second.run input := by
  rw [run_orElse, refused]
  rfl

theorem run_orElse_some {first second : Reader α} {a : α} (read : first.run input = some (a, rest)) :
    (first <|> second).run input = some (a, rest) := by
  rw [run_orElse, read]
  rfl

/-! ### Words, names and slots -/

/-- Takes lexemes that have to come next. -/
def expect (ls : List Lexeme) : Reader Unit := fun input =>
  if ls.isPrefixOf input then some ((), input.drop ls.length) else none

theorem expect_run (ls rest : List Lexeme) : (expect ls).run (ls ++ rest) = some ((), rest) := by
  have before : ls.isPrefixOf (ls ++ rest) = true := List.isPrefixOf_iff_prefix.2 (List.prefix_append _ _)
  change (if ls.isPrefixOf (ls ++ rest) = true then some ((), (ls ++ rest).drop ls.length) else none) = _
  rw [if_pos before, List.drop_left]

theorem expect_refuses {l m : Lexeme} (other : l ≠ m) (ls rest : List Lexeme) :
    (expect (l :: ls)).run (m :: rest) = none := by
  have noPrefix : (l :: ls).isPrefixOf (m :: rest) = false := by
    rw [List.isPrefixOf_cons_cons, beq_eq_false_iff_ne.2 other, Bool.false_and]
  change (if (l :: ls).isPrefixOf (m :: rest) = true then _ else none) = _
  rw [noPrefix]
  rfl

def name : Reader Identifier
  | .name cs :: rest => (Identifier.ofText? (String.ofList cs)).map (·, rest)
  | _ => none

theorem name_run (column : Identifier) (rest : List Lexeme) :
    name.run (nameLexeme column :: rest) = some (column, rest) := by
  change (Identifier.ofText? (String.ofList column.text.toList)).map (·, rest) = _
  rw [String.ofList_toList, Identifier.ofText?, dif_pos column.valid]
  rfl

theorem name_refuses (w : List Char) (rest : List Lexeme) : name.run (.word w :: rest) = none := rfl

/-- A slot stands by itself: what is cast cannot be read. -/
def slot : Reader Slot
  | .word (c :: digits) :: rest =>
    if c = '$' ∧ digits.all Char.isDigit then some (⟨natOfDigits digits, ""⟩, rest) else none
  | _ => none

theorem slot_run {slot : Slot} (plain : slot.cast = "") (rest : List Lexeme) :
    Reader.slot.run (slot.lexemes ++ rest) = some (slot, rest) := by
  obtain ⟨n, cast⟩ := slot
  obtain rfl : cast = "" := plain
  have digits : (Nat.toDigits 10 n).all Char.isDigit = true :=
    List.all_eq_true.2 fun c member => isDigit_of_mem_toDigits member
  change (if _ ∧ (Nat.toDigits 10 n).all Char.isDigit = true then
    some (Slot.mk (natOfDigits (Nat.toDigits 10 n)) "", rest) else none) = _
  rw [if_pos ⟨rfl, digits⟩, natOfDigits_toDigits]

theorem slot_refuses {w : List Char} (noSlot : w.head? ≠ some '$') (rest : List Lexeme) :
    slot.run (.word w :: rest) = none := by
  cases w with
  | nil => rfl
  | cons c digits =>
    have other : c ≠ '$' := fun same => noSlot (by rw [same]; rfl)
    exact if_neg fun both => other both.1

/-! ### Lists -/

/-- Whether a comma comes next, which is taken then. -/
def comma : Reader Bool
  | [] => some (false, [])
  | l :: rest => if l = .mark ',' then some (true, rest) else some (false, l :: rest)

/-- Elements with commas between them, at most `fuel` many. -/
def list (read : Reader α) : Nat → Reader (List α)
  | 0 => failure
  | fuel + 1 => do
    let a ← read
    if ← comma then return a :: (← list read fuel) else return [a]

end Reader

theorem separated_cons (ls ms : List Lexeme) (rest : List (List Lexeme)) :
    separated (ls :: ms :: rest) = ls ++ .mark ',' :: separated (ms :: rest) := rfl

theorem length_le_separated {parts : List (List Lexeme)} {ls : List Lexeme} (member : ls ∈ parts) :
    ls.length ≤ (separated parts).length := by
  induction parts with
  | nil => cases member
  | cons first rest ih =>
    cases rest with
    | nil =>
      obtain rfl := List.mem_singleton.1 member
      exact Nat.le_refl _
    | cons next rest =>
      rw [separated_cons, List.length_append, List.length_cons]
      rcases List.mem_cons.1 member with rfl | later
      · omega
      · have inside := ih later
        omega

theorem count_le_separated {parts : List (List Lexeme)} (filled : ∀ ls ∈ parts, 1 ≤ ls.length) :
    parts.length ≤ (separated parts).length := by
  induction parts with
  | nil => exact Nat.le_refl _
  | cons first rest ih =>
    have one := filled first List.mem_cons_self
    have others := ih fun ls member => filled ls (List.mem_cons_of_mem _ member)
    cases rest with
    | nil => exact one
    | cons next rest =>
      simp only [separated_cons, List.length_append, List.length_cons] at others ⊢
      omega

def NoComma (rest : List Lexeme) : Prop := rest.head? ≠ some (.mark ',')

namespace Reader

variable {α : Type} {rest : List Lexeme}

theorem comma_run (follows : NoComma rest) : comma.run rest = some (false, rest) := by
  cases rest with
  | nil => rfl
  | cons l rest => exact if_neg fun same => follows (by rw [same]; rfl)

theorem list_run {read : Reader α} {write : α → List Lexeme} {as : List α} (nonempty : as ≠ [])
    (each : ∀ a ∈ as, ∀ rest, read.run (write a ++ rest) = some (a, rest)) (follows : NoComma rest) {fuel : Nat}
    (enough : as.length ≤ fuel) : (list read fuel).run (separated (as.map write) ++ rest) = some (as, rest) := by
  induction as generalizing fuel with
  | nil => exact absurd rfl nonempty
  | cons a others ih =>
    obtain ⟨less, rfl⟩ : ∃ n, fuel = n + 1 := Nat.exists_eq_succ_of_ne_zero (by simp at enough; omega)
    have first := each a List.mem_cons_self
    rw [list]
    cases others with
    | nil =>
      rw [List.map_singleton, separated, run_bind_some (first rest), run_bind_some (comma_run follows)]
      rfl
    | cons b more =>
      have later : (list read less).run (separated ((b :: more).map write) ++ rest) = some (b :: more, rest) :=
        ih (by simp) (fun c member => each c (List.mem_cons_of_mem _ member)) (by simpa using enough)
      have next : comma.run (.mark ',' :: (separated ((b :: more).map write) ++ rest)) =
          some (true, separated ((b :: more).map write) ++ rest) := rfl
      have written : separated ((a :: b :: more).map write) ++ rest =
          write a ++ (.mark ',' :: (separated ((b :: more).map write) ++ rest)) := by
        simp [separated]
      rw [written, run_bind_some (first _), run_bind_some next]
      exact run_bind_some later

theorem list_refuses {read : Reader α} {input : List Lexeme} (refused : read.run input = none) (fuel : Nat) :
    (list read fuel).run input = none := by
  cases fuel with
  | zero => rfl
  | succ fuel => exact run_bind_none refused

end Reader

/-! ### Writing lists -/

theorem spells_slotList {slots : List Slot} (safe : ∀ slot ∈ slots, slot.cast ∈ castTexts) :
    Spells (Fragment.ofSlots slots).chars (separated (slots.map Slot.lexemes)) := by
  rw [← slotLexemes_eq]
  exact spells_slots safe

/-! ### Whole texts -/

/-- What a text is read as to its end; reading gets to know how many lexemes there are. -/
def Reader.whole {α : Type} (read : Nat → Reader α) (text : String) : Option α := do
  let ls ← lexemes? text.toList
  match ← (read ls.length).run ls with
  | (a, []) => return a
  | _ => none

theorem Reader.whole_run {α : Type} {read : Nat → Reader α} {text : String} {ls : List Lexeme} {a : α}
    (spells : Spells text.toList ls) (reads : (read ls.length).run ls = some (a, [])) :
    Reader.whole read text = some a := by
  rw [Reader.whole, spells.lexemes?, Option.bind_eq_bind, Option.bind_some, reads]
  rfl

theorem Reader.whole_refuses {α : Type} {read : Nat → Reader α} {text : String} {ls : List Lexeme}
    (spells : Spells text.toList ls) (refused : (read ls.length).run ls = none) : Reader.whole read text = none := by
  rw [Reader.whole, spells.lexemes?, Option.bind_eq_bind, Option.bind_some, refused]
  rfl

end RecordStore.Sql
