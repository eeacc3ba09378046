import RecordStore.Proofs.Schema.Naming
import RecordStore.Sql.Fragment

/-!
# The lexemes of statement text

Statement text is cut into names in quotes, words and single marks; blanks only separate. A piece of text
that ends outside every lexeme `Settles` into certain lexemes wherever it stands; one that ends in a word
only `Spells` them, which takes that nothing behind it lengthens the word.
-/

namespace RecordStore.Sql

inductive Lexeme where
  | name (chars : List Char)
  | word (chars : List Char)
  | mark (c : Char)
  deriving DecidableEq

def isLexemeChar (c : Char) : Bool := c.isAlphanum || c == '_' || c == '$'

def isSpace (c : Char) : Bool := c == ' ' || c == '\t' || c == '\n' || c == '\r'

/-- The lexeme that is being read, its characters in reverse. -/
inductive Partial where
  | nothing
  | name (read : List Char)
  | word (read : List Char)
  deriving DecidableEq

/-- The lexemes that are done, the last one first, and the one that is being read. -/
structure Lexing where
  done : List Lexeme := []
  reading : Partial := .nothing
  deriving DecidableEq

namespace Lexing

def outside (done : List Lexeme) (c : Char) : Lexing :=
  if c = '"' then ⟨done, .name []⟩
  else if isLexemeChar c then ⟨done, .word [c]⟩
  else if isSpace c then ⟨done, .nothing⟩
  else ⟨.mark c :: done, .nothing⟩

def step (state : Lexing) (c : Char) : Lexing :=
  match state.reading with
  | .nothing => outside state.done c
  | .name read => if c = '"' then ⟨.name read.reverse :: state.done, .nothing⟩ else ⟨state.done, .name (c :: read)⟩
  | .word read =>
    if isLexemeChar c then ⟨state.done, .word (c :: read)⟩ else outside (.word read.reverse :: state.done) c

/-- The lexemes at the end of the text; a name has to be closed. -/
def finish? (state : Lexing) : Option (List Lexeme) :=
  match state.reading with
  | .nothing => some state.done.reverse
  | .name _ => none
  | .word read => some (.word read.reverse :: state.done).reverse

end Lexing

def lexFrom (state : Lexing) : List Char → Option (List Lexeme)
  | [] => state.finish?
  | c :: rest => lexFrom (state.step c) rest

/-- The lexemes of a text, if every name in it is closed. -/
def lexemes? (cs : List Char) : Option (List Lexeme) := lexFrom {} cs

/-! ### Texts and what they are cut into -/

/-- A text is cut into the lexemes wherever it stands. -/
def Settles (cs : List Char) (ls : List Lexeme) : Prop :=
  ∀ (done : List Lexeme) (rest : List Char),
    lexFrom ⟨done, .nothing⟩ (cs ++ rest) = lexFrom ⟨ls.reverse ++ done, .nothing⟩ rest

/-- A text that lengthens no word before it. -/
def Parts (rest : List Char) : Prop := ∀ c ∈ rest.head?, isLexemeChar c = false

/-- A text is cut into the lexemes where nothing lengthens its last word. -/
def Spells (cs : List Char) (ls : List Lexeme) : Prop :=
  ∀ (done : List Lexeme) {rest : List Char}, Parts rest →
    lexFrom ⟨done, .nothing⟩ (cs ++ rest) = lexFrom ⟨ls.reverse ++ done, .nothing⟩ rest

section Texts
variable {cs ds : List Char} {ls ms : List Lexeme}

theorem Settles.spells (h : Settles cs ls) : Spells cs ls := fun done _ _ => h done _

theorem Settles.append (first : Settles cs ls) (second : Settles ds ms) : Settles (cs ++ ds) (ls ++ ms) := by
  intro done rest
  rw [List.append_assoc, first done, second, List.reverse_append, List.append_assoc]

theorem Settles.append_spells (first : Settles cs ls) (second : Spells ds ms) : Spells (cs ++ ds) (ls ++ ms) := by
  intro done rest follows
  rw [List.append_assoc, first done, second _ follows, List.reverse_append, List.append_assoc]

/-- A text whose first character lengthens no word. -/
def Breaks (ds : List Char) : Prop := ∃ d rest, ds = d :: rest ∧ isLexemeChar d = false

theorem Breaks.append (h : Breaks cs) (ds : List Char) : Breaks (cs ++ ds) := by
  obtain ⟨c, more, rfl, noWord⟩ := h
  exact ⟨c, more ++ ds, rfl, noWord⟩

theorem Breaks.parts (h : Breaks ds) (rest : List Char) : Parts (ds ++ rest) := by
  obtain ⟨d, more, rfl, noWord⟩ := h
  intro c hc
  obtain rfl : d = c := Option.some.inj hc
  exact noWord

theorem Spells.append_settles (first : Spells cs ls) (second : Settles ds ms) (breaks : Breaks ds) :
    Settles (cs ++ ds) (ls ++ ms) := by
  intro done rest
  rw [List.append_assoc, first done (breaks.parts rest), second, List.reverse_append, List.append_assoc]

theorem Spells.append (first : Spells cs ls) (second : Spells ds ms) (breaks : Breaks ds) :
    Spells (cs ++ ds) (ls ++ ms) := by
  intro done rest follows
  rw [List.append_assoc, first done (breaks.parts rest), second _ follows, List.reverse_append, List.append_assoc]

theorem settles_nil : Settles [] [] := fun _ _ => rfl

theorem Spells.lexemes? (h : Spells cs ls) : lexemes? cs = some ls := by
  have cut := @h [] [] (by simp [Parts])
  rw [List.append_nil, List.append_nil] at cut
  rw [Sql.lexemes?, cut]
  simp [lexFrom, Lexing.finish?]

end Texts

/-! ### Closed texts -/

theorem step_frame (done base : List Lexeme) (reading : Partial) (c : Char) :
    Lexing.step ⟨done ++ base, reading⟩ c =
      ⟨(Lexing.step ⟨done, reading⟩ c).done ++ base, (Lexing.step ⟨done, reading⟩ c).reading⟩ := by
  have outside : ∀ done, Lexing.outside (done ++ base) c =
      ⟨(Lexing.outside done c).done ++ base, (Lexing.outside done c).reading⟩ := by
    intro done
    unfold Lexing.outside
    split
    · rfl
    split
    · rfl
    split <;> rfl
  cases reading with
  | nothing => exact outside done
  | name read =>
    simp only [Lexing.step]
    split <;> rfl
  | word read =>
    simp only [Lexing.step]
    split
    · rfl
    · exact outside (.word read.reverse :: done)

theorem lexFrom_foldl (cs rest : List Char) (done base : List Lexeme) (reading : Partial) :
    lexFrom ⟨done ++ base, reading⟩ (cs ++ rest) =
      lexFrom ⟨(cs.foldl Lexing.step ⟨done, reading⟩).done ++ base, (cs.foldl Lexing.step ⟨done, reading⟩).reading⟩
        rest := by
  induction cs generalizing done reading with
  | nil => rfl
  | cons c cs ih =>
    rw [List.cons_append, lexFrom, step_frame, ih]
    rfl

theorem settles_closed {cs : List Char} {ls : List Lexeme} (h : cs.foldl Lexing.step {} = ⟨ls.reverse, .nothing⟩) :
    Settles cs ls := by
  intro done rest
  have cut := lexFrom_foldl cs rest [] done .nothing
  rw [h] at cut
  exact cut

/-! ### Words and names -/

theorem lexFrom_wordChars {cs : List Char} (inside : ∀ c ∈ cs, isLexemeChar c = true) (done : List Lexeme)
    (read rest : List Char) :
    lexFrom ⟨done, .word read⟩ (cs ++ rest) = lexFrom ⟨done, .word (cs.reverse ++ read)⟩ rest := by
  induction cs generalizing read with
  | nil => rfl
  | cons c cs ih =>
    have step : Lexing.step ⟨done, .word read⟩ c = ⟨done, .word (c :: read)⟩ := if_pos (inside c List.mem_cons_self)
    rw [List.cons_append, lexFrom, step, ih fun d hd => inside d (List.mem_cons_of_mem _ hd), List.reverse_cons,
      List.append_assoc]
    rfl

theorem lexFrom_wordEnd {rest : List Char} (done : List Lexeme) (read : List Char) (follows : Parts rest) :
    lexFrom ⟨done, .word read⟩ rest = lexFrom ⟨.word read.reverse :: done, .nothing⟩ rest := by
  cases rest with
  | nil => rfl
  | cons c rest =>
    have step : Lexing.step ⟨done, .word read⟩ c = Lexing.step ⟨.word read.reverse :: done, .nothing⟩ c := by
      simp [Lexing.step, follows c rfl]
    rw [lexFrom, step, lexFrom]

theorem spells_word {cs : List Char} (nonempty : cs ≠ []) (inside : ∀ c ∈ cs, isLexemeChar c = true) :
    Spells cs [.word cs] := by
  intro done rest follows
  obtain ⟨c, more, rfl⟩ := List.exists_cons_of_ne_nil nonempty
  have first := inside c List.mem_cons_self
  have noQuote : c ≠ '"' := by
    rintro rfl
    exact absurd first (by decide)
  have step : Lexing.step ⟨done, .nothing⟩ c = ⟨done, .word [c]⟩ := by
    simp [Lexing.step, Lexing.outside, noQuote, first]
  rw [List.cons_append, lexFrom, step, lexFrom_wordChars fun d hd => inside d (List.mem_cons_of_mem _ hd),
    lexFrom_wordEnd _ _ follows]
  simp

theorem lexFrom_nameChars {cs : List Char} (inside : ∀ c ∈ cs, c ≠ '"') (done : List Lexeme)
    (read rest : List Char) :
    lexFrom ⟨done, .name read⟩ (cs ++ rest) = lexFrom ⟨done, .name (cs.reverse ++ read)⟩ rest := by
  induction cs generalizing read with
  | nil => rfl
  | cons c cs ih =>
    have step : Lexing.step ⟨done, .name read⟩ c = ⟨done, .name (c :: read)⟩ :=
      if_neg (inside c List.mem_cons_self)
    rw [List.cons_append, lexFrom, step, ih fun d hd => inside d (List.mem_cons_of_mem _ hd), List.reverse_cons,
      List.append_assoc]
    rfl

theorem spells_closed {cs : List Char} {ls : List Lexeme} (h : lexemes? cs = some ls) : Spells cs ls := by
  intro done rest follows
  have whole := lexFrom_foldl cs [] [] [] .nothing
  rw [List.append_nil, List.append_nil, List.append_nil] at whole
  have cut := lexFrom_foldl cs rest [] done .nothing
  rw [lexemes?, whole] at h
  rw [List.nil_append] at cut
  rw [cut]
  generalize cs.foldl Lexing.step ⟨[], .nothing⟩ = state at h
  obtain ⟨read, reading⟩ := state
  cases reading with
  | nothing =>
    rw [← Option.some.inj h, List.reverse_reverse]
  | name read => cases h
  | word last =>
    rw [lexFrom_wordEnd _ _ follows, ← Option.some.inj h, List.reverse_reverse]
    rfl

theorem settles_name {cs : List Char} (inside : ∀ c ∈ cs, c ≠ '"') : Settles ('"' :: (cs ++ ['"'])) [.name cs] := by
  intro done rest
  have opened : Lexing.step ⟨done, .nothing⟩ '"' = ⟨done, .name []⟩ := rfl
  have closed : ∀ read, Lexing.step ⟨done, .name read⟩ '"' = ⟨.name read.reverse :: done, .nothing⟩ := fun _ => rfl
  rw [List.cons_append, List.append_assoc, lexFrom, opened, lexFrom_nameChars inside, List.cons_append, lexFrom,
    closed]
  simp

/-- Identifiers have nothing but word characters in them, and perhaps a line end at the end. -/
theorem identifier_chars (name : Identifier) : ∀ c ∈ name.text.toList, isIdentifierChar c = true ∨ c = '\n' := by
  intro c member
  obtain ⟨-, word | ⟨cs, ended, word⟩⟩ := name.isName
  · exact .inl ((isIdentifierChar_iff c).2 (word.chars c member))
  · rw [ended] at member
    rcases List.mem_append.1 member with inside | lineEnd
    · exact .inl ((isIdentifierChar_iff c).2 (word.chars c inside))
    · exact .inr (List.mem_singleton.1 lineEnd)

theorem identifier_avoids (name : Identifier) {c : Char} (noWord : isIdentifierChar c = false) (noEnd : c ≠ '\n') :
    ∀ d ∈ name.text.toList, d ≠ c := by
  rintro d hd rfl
  rcases identifier_chars name d hd with word | lineEnd
  · rw [noWord] at word
    cases word
  · exact noEnd lineEnd

end RecordStore.Sql
