import RecordStore.Proofs.Sql.Lexeme

/-!
# What stands in quotes

Names stand in double quotes, and nothing else does. However such a text is put together, its lexemes that were in quotes
are names.
-/

namespace RecordStore.Sql

/-- Texts in which names stand in quotes and nothing else does. -/
inductive QuotesNames : List Char → Prop where
  | nil : QuotesNames []
  | plain {c : Char} {cs : List Char} (noQuote : c ≠ '"') (rest : QuotesNames cs) : QuotesNames (c :: cs)
  | name (name : Identifier) {cs : List Char} (rest : QuotesNames cs) : QuotesNames ('"' :: (name.text.toList ++ '"' :: cs))

theorem QuotesNames.append {cs ds : List Char} (first : QuotesNames cs) (second : QuotesNames ds) : QuotesNames (cs ++ ds) := by
  induction first with
  | nil => exact second
  | plain noQuote _ ih => exact .plain noQuote ih
  | name own _ ih =>
    rw [List.cons_append, List.append_assoc]
    exact .name own ih

theorem quotesNames_of_plain {cs : List Char} (noQuotes : ∀ c ∈ cs, c ≠ '"') : QuotesNames cs := by
  induction cs with
  | nil => exact .nil
  | cons c rest ih =>
    exact .plain (noQuotes c List.mem_cons_self) (ih fun d member => noQuotes d (List.mem_cons_of_mem _ member))

theorem quotesNames_quoted (name : Identifier) : QuotesNames name.quoted.toList := by
  have written : name.quoted.toList = '"' :: (name.text.toList ++ '"' :: []) := by
    simp [Identifier.quoted, String.toList_append]
  rw [written]
  exact .name name .nil

/-! ### Lexemes in quotes -/

/-- Whether all names among lexemes are texts that may be names. -/
def NamesAccepted (ls : List Lexeme) : Prop := ∀ cs, .name cs ∈ ls → IsNameText (String.ofList cs)

/-- The quotes of a text are closed, and what stands in them are texts that may be names. -/
def QuotedAccepted (sql : String) : Prop := ∃ ls, lexemes? sql.toList = some ls ∧ NamesAccepted ls

section Lexing
variable {done : List Lexeme} {reading : Partial} {c : Char}

theorem NamesAccepted.word (known : NamesAccepted done) (read : List Char) : NamesAccepted (.word read :: done) := by
  intro cs member
  rcases List.mem_cons.1 member with same | earlier
  · cases same
  · exact known cs earlier

theorem NamesAccepted.mark (known : NamesAccepted done) (c : Char) : NamesAccepted (.mark c :: done) := by
  intro cs member
  rcases List.mem_cons.1 member with same | earlier
  · cases same
  · exact known cs earlier

theorem NamesAccepted.name (known : NamesAccepted done) (name : Identifier) :
    NamesAccepted (.name name.text.toList :: done) := by
  intro cs member
  rcases List.mem_cons.1 member with same | earlier
  · rw [Lexeme.name.inj same, String.ofList_toList]
    exact name.isName
  · exact known cs earlier

theorem NamesAccepted.reverse (known : NamesAccepted done) : NamesAccepted done.reverse :=
  fun cs member => known cs (List.mem_reverse.1 member)

/-- Whether what is being read is no name. -/
def Partial.IsOutside : Partial → Prop
  | .name _ => False
  | .nothing | .word _ => True

theorem namesAccepted_outside (known : NamesAccepted done) (noQuote : c ≠ '"') :
    NamesAccepted (Lexing.outside done c).done ∧ (Lexing.outside done c).reading.IsOutside := by
  unfold Lexing.outside
  rw [if_neg noQuote]
  split
  · exact ⟨known, trivial⟩
  split
  · exact ⟨known, trivial⟩
  · exact ⟨known.mark c, trivial⟩

/-- A character outside quotes ends no name. -/
theorem namesAccepted_step (known : NamesAccepted done) (outside : reading.IsOutside) (noQuote : c ≠ '"') :
    NamesAccepted (Lexing.step ⟨done, reading⟩ c).done ∧ (Lexing.step ⟨done, reading⟩ c).reading.IsOutside := by
  cases reading with
  | nothing => exact namesAccepted_outside known noQuote
  | name read => exact outside.elim
  | word read =>
    simp only [Lexing.step]
    split
    · exact ⟨known, trivial⟩
    · exact namesAccepted_outside (known.word _) noQuote

theorem step_opens (known : NamesAccepted done) (outside : reading.IsOutside) :
    ∃ before, Lexing.step ⟨done, reading⟩ '"' = ⟨before, .name []⟩ ∧ NamesAccepted before := by
  cases reading with
  | nothing => exact ⟨done, rfl, known⟩
  | name read => exact outside.elim
  | word read => exact ⟨.word read.reverse :: done, rfl, known.word _⟩

theorem QuotesNames.lexFrom {cs : List Char} (quotes : QuotesNames cs) (known : NamesAccepted done)
    (outside : reading.IsOutside) : ∃ ls, lexFrom ⟨done, reading⟩ cs = some ls ∧ NamesAccepted ls := by
  induction quotes generalizing done reading with
  | nil =>
    cases reading with
    | nothing => exact ⟨_, rfl, known.reverse⟩
    | name read => exact outside.elim
    | word read => exact ⟨_, rfl, (known.word _).reverse⟩
  | @plain c cs noQuote _ ih =>
    obtain ⟨accepted, still⟩ := namesAccepted_step known outside noQuote
    exact ih accepted still
  | @name own cs _ ih =>
    obtain ⟨before, opened, accepted⟩ := step_opens known outside
    have inside : ∀ c ∈ own.text.toList, c ≠ '"' := identifier_avoids own rfl (by decide)
    have closed : Lexing.step ⟨before, .name own.text.toList.reverse⟩ '"' = ⟨.name own.text.toList :: before, .nothing⟩ := by
      simp [Lexing.step]
    rw [Sql.lexFrom, opened, lexFrom_nameChars inside, Sql.lexFrom, List.append_nil, closed]
    exact ih (accepted.name own) trivial

end Lexing

theorem QuotesNames.accepted {sql : String} (quotes : QuotesNames sql.toList) : QuotedAccepted sql := by
  have nothing : NamesAccepted [] := fun _ member => absurd member List.not_mem_nil
  exact quotes.lexFrom nothing trivial

end RecordStore.Sql
