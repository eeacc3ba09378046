import RecordStore.Proofs.Sql.Text

/-!
# Conditions are read as they were built

Joined and negated conditions stand in parentheses and tests are operands, so every part of a condition is
an operand wherever it stands. `read?_joinFragments` concludes that conditions joined by "and" are read as
the formula of their conjunction.
-/

namespace RecordStore.Sql

namespace Connective

def lexeme : Connective → Lexeme
  | all => andLexeme
  | any => orLexeme

def formula : Connective → Formula → Formula → Formula
  | all => .both
  | any => .either

def truth : Connective → Truth → Truth → Truth
  | all => Truth.both
  | any => Truth.either

theorem truth_assoc (connective : Connective) (a b c : Truth) :
    connective.truth (connective.truth a b) c = connective.truth a (connective.truth b c) := by
  cases connective with
  | all => exact Truth.both_assoc a b c
  | any => exact Truth.either_assoc a b c

theorem truth_formula (connective : Connective) (assign : List Lexeme → Truth) (f g : Formula) :
    (connective.formula f g).truth assign = connective.truth (f.truth assign) (g.truth assign) := by
  cases connective <;> rfl

def joinFormulas (connective : Connective) : List Formula → Formula
  | [] => .test []
  | f :: rest => rest.foldl connective.formula f

def joinLexemes (connective : Connective) : List (List Lexeme) → List Lexeme
  | [] => []
  | first :: rest => first ++ rest.flatMap (connective.lexeme :: ·)

theorem settles_word (connective : Connective) : Settles connective.word.toList [connective.lexeme] := by
  cases connective with
  | all => exact settles_closed (by decide +kernel)
  | any => exact settles_closed (by decide +kernel)

theorem breaks_word (connective : Connective) : Breaks connective.word.toList := by
  cases connective <;> exact ⟨_, _, rfl, rfl⟩

end Connective

namespace Condition

mutual

def lexemes : Condition → List Lexeme
  | test t => t.lexemes
  | joined connective parts => .mark '(' :: (connective.joinLexemes (lexemesEach parts) ++ [.mark ')'])
  | negated inner => notLexeme :: .mark '(' :: (lexemes inner ++ [.mark ')'])

def lexemesEach : List Condition → List (List Lexeme)
  | [] => []
  | part :: rest => lexemes part :: lexemesEach rest

end

mutual

/-- The formula that a condition stands for. -/
def formula : Condition → Formula
  | test t => .test t.lexemes
  | joined connective parts => connective.joinFormulas (formulaEach parts)
  | negated inner => .opposite (formula inner)

def formulaEach : List Condition → List Formula
  | [] => []
  | part :: rest => formula part :: formulaEach rest

end

mutual

/-- Conditions whose text can be read: nothing is joined of no parts, and tests have safe casts. -/
def Readable : Condition → Prop
  | test t => t.Safe
  | joined _ parts => parts ≠ [] ∧ AllReadable parts
  | negated inner => Readable inner

def AllReadable : List Condition → Prop
  | [] => True
  | part :: rest => Readable part ∧ AllReadable rest

end

theorem allReadable_iff {cs : List Condition} : AllReadable cs ↔ ∀ c ∈ cs, c.Readable := by
  induction cs with
  | nil => simp [AllReadable]
  | cons c rest ih => simp [AllReadable, ih]

theorem lexemesEach_eq (cs : List Condition) : lexemesEach cs = cs.map lexemes := by
  induction cs with
  | nil => rfl
  | cons c rest ih => rw [lexemesEach, ih, List.map_cons]

theorem formulaEach_eq (cs : List Condition) : formulaEach cs = cs.map formula := by
  induction cs with
  | nil => rfl
  | cons c rest ih => rw [formulaEach, ih, List.map_cons]

/-! ### Conditions are written as their lexemes -/

theorem chars_parentheses (opening : String) (inside : Fragment) :
    Fragment.chars (.text opening :: (inside ++ [.text ")"])) = opening.toList ++ (inside.chars ++ [')']) := by
  rw [Fragment.chars_text, Fragment.chars_append]
  rfl

theorem spells_parentheses {opening : String} {inside : Fragment} {ls ms : List Lexeme}
    (opened : Settles opening.toList ls) (h : Spells inside.chars ms) :
    Settles (Fragment.chars (.text opening :: (inside ++ [.text ")"]))) (ls ++ (ms ++ [.mark ')'])) := by
  have closed : Settles [')'] [.mark ')'] := settles_closed (by decide +kernel)
  rw [chars_parentheses]
  exact opened.append (h.append_settles closed ⟨_, _, rfl, rfl⟩)

mutual

theorem spells_fragment : ∀ {c : Condition}, c.Readable → Spells c.fragment.chars c.lexemes
  | test _, h => Test.spells h
  | joined connective parts, h => by
    have opened : Settles "(".toList [.mark '('] := settles_closed (by decide +kernel)
    rw [fragment, lexemes]
    exact (spells_parentheses opened (spells_joinFragments connective h.2)).spells
  | negated inner, h => by
    have opened : Settles "not (".toList [notLexeme, .mark '('] := settles_closed (by decide +kernel)
    rw [fragment, lexemes]
    exact (spells_parentheses opened (spells_fragment (c := inner) h)).spells

theorem spells_joinFragments (connective : Connective) : ∀ {parts : List Condition}, AllReadable parts →
    Spells (joinFragments connective.word parts).chars (connective.joinLexemes (lexemesEach parts))
  | [], _ => settles_nil.spells
  | [part], h => by
    have only : connective.joinLexemes (lexemesEach [part]) = part.lexemes := List.append_nil _
    rw [joinFragments, only]
    exact spells_fragment h.1
  | part :: next :: rest, h => by
    have first := spells_fragment h.1
    have others := spells_joinFragments connective h.2
    rw [joinFragments, Fragment.chars_append, Fragment.chars_text, lexemesEach]
    · exact first.append (connective.settles_word.append_spells others)
        (connective.breaks_word.append _)
    · simp

end

/-! ### Lexemes are read as the formula -/

theorem fills_join {connective : Connective} {parts : List Condition} (nonempty : parts ≠ [])
    (read : ∀ p ∈ parts, ReadsAs p.lexemes p.formula) :
    Fills (connective.joinLexemes (lexemesEach parts)) (connective.joinFormulas (formulaEach parts)) := by
  obtain ⟨first, rest, rfl⟩ := List.exists_cons_of_ne_nil nonempty
  have pairs : ∀ p ∈ (first.lexemes, first.formula) :: rest.map (fun c => (c.lexemes, c.formula)),
      ReadsAs p.1 p.2 := by
    intro p hp
    rw [← List.map_cons (f := fun c => (lexemes c, formula c))] at hp
    obtain ⟨c, member, rfl⟩ := List.mem_map.1 hp
    exact read c member
  rw [lexemesEach_eq, formulaEach_eq, List.map_cons, List.map_cons, Connective.joinLexemes, Connective.joinFormulas,
    List.flatMap_map]
  cases connective with
  | all =>
    have filled := fills_and pairs
    rw [List.flatMap_map, List.map_map] at filled
    exact filled
  | any =>
    have filled := fills_or pairs
    rw [List.flatMap_map, List.map_map] at filled
    exact filled

mutual

theorem readsAs_lexemes : ∀ {c : Condition}, c.Readable → ReadsAs c.lexemes c.formula
  | test _, h => readsAs_test (Test.isTest h)
  | joined connective parts, h => by
    rw [lexemes, formula]
    exact (fills_join h.1 (readsAs_each h.2)).readsAs
  | negated inner, h => by
    rw [lexemes, formula]
    exact (readsAs_lexemes (c := inner) h).fills.readsAs_not

theorem readsAs_each : ∀ {parts : List Condition}, AllReadable parts → ∀ p ∈ parts, ReadsAs p.lexemes p.formula
  | [], _ => by simp
  | part :: rest, h => by
    intro p hp
    rcases List.mem_cons.1 hp with same | later
    · rw [same]
      exact readsAs_lexemes h.1
    · exact readsAs_each h.2 p later

end

/-- Conditions that are joined by "and" without parentheses are read as the formula of their conjunction. -/
theorem read?_joinFragments {cs : List Condition} (nonempty : cs ≠ []) (readable : ∀ c ∈ cs, c.Readable) :
    Formula.read? (Fragment.sql (joinFragments Connective.all.word cs)) =
      some (Connective.all.joinFormulas (formulaEach cs)) := by
  have all := allReadable_iff.2 readable
  rw [Formula.read?, Fragment.toList_sql, (spells_joinFragments .all all).lexemes?]
  exact (fills_join nonempty (readsAs_each all)).readFrom

/-! ### Truth -/

variable (assign : List Lexeme → Truth)

def truth? (connective : Connective) (cs : List Condition) : Option Truth :=
  Truth.join? connective.truth (cs.map fun c => c.formula.truth assign)

theorem truth_joinFormulas (connective : Connective) {cs : List Condition} (nonempty : cs ≠ []) :
    some ((connective.joinFormulas (formulaEach cs)).truth assign) = truth? assign connective cs := by
  obtain ⟨first, rest, rfl⟩ := List.exists_cons_of_ne_nil nonempty
  rw [formulaEach_eq, List.map_cons, Connective.joinFormulas,
    truth_foldl connective.truth_assoc (connective.truth_formula assign), truth?, ← List.map_cons (f := formula),
    List.map_map]
  rfl

end Condition

end RecordStore.Sql
