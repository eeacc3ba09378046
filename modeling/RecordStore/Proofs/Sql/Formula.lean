import RecordStore.Proofs.Sql.Lexeme

/-!
# Formulas read from lexemes

The truth of a row's conditions has three values. A formula is read from lexemes by the precedence of SQL:
"not" binds tighter than "and", "and" tighter than "or", and parentheses override. What is neither one of
these words nor a parenthesis around an operand belongs to a test, which the reader takes as it stands.
-/

namespace RecordStore.Sql

inductive Truth where
  | no
  | unknown
  | yes
  deriving DecidableEq

namespace Truth

def both : Truth → Truth → Truth
  | no, _ => no
  | _, no => no
  | unknown, _ => unknown
  | _, unknown => unknown
  | yes, yes => yes

def either : Truth → Truth → Truth
  | yes, _ => yes
  | _, yes => yes
  | unknown, _ => unknown
  | _, unknown => unknown
  | no, no => no

def opposite : Truth → Truth
  | no => yes
  | unknown => unknown
  | yes => no

theorem both_assoc (a b c : Truth) : (a.both b).both c = a.both (b.both c) := by
  cases a <;> cases b <;> cases c <;> rfl

theorem either_assoc (a b c : Truth) : (a.either b).either c = a.either (b.either c) := by
  cases a <;> cases b <;> cases c <;> rfl

/-- Two truths as one, each of which may be missing. -/
def merge (combine : Truth → Truth → Truth) : Option Truth → Option Truth → Option Truth
  | none, second => second
  | first, none => first
  | some a, some b => some (combine a b)

/-- One truth from several, if there are any. -/
def join? (combine : Truth → Truth → Truth) : List Truth → Option Truth
  | [] => none
  | t :: rest => merge combine (some t) (join? combine rest)

section Join
variable {combine : Truth → Truth → Truth}

theorem merge_assoc (assoc : ∀ a b c, combine (combine a b) c = combine a (combine b c)) (a b c : Option Truth) :
    merge combine (merge combine a b) c = merge combine a (merge combine b c) := by
  cases a with
  | none => rfl
  | some a =>
    cases b with
    | none => rfl
    | some b =>
      cases c with
      | none => rfl
      | some c => exact congrArg some (assoc a b c)

theorem join?_append (assoc : ∀ a b c, combine (combine a b) c = combine a (combine b c)) (ts us : List Truth) :
    join? combine (ts ++ us) = merge combine (join? combine ts) (join? combine us) := by
  induction ts with
  | nil => rfl
  | cons t ts ih => rw [List.cons_append, join?, join?, ih, merge_assoc assoc]

end Join

end Truth

inductive Formula where
  | test (lexemes : List Lexeme)
  | opposite (inner : Formula)
  | both (first second : Formula)
  | either (first second : Formula)
  deriving DecidableEq

namespace Formula

/-- The truth of a formula whose tests have the given truths. -/
def truth (assign : List Lexeme → Truth) : Formula → Truth
  | test lexemes => assign lexemes
  | opposite inner => (inner.truth assign).opposite
  | both first second => (first.truth assign).both (second.truth assign)
  | either first second => (first.truth assign).either (second.truth assign)

def negate : Nat → Formula → Formula
  | 0, f => f
  | n + 1, f => negate n (opposite f)

def join? (combine : Formula → Formula → Formula) (first : Option Formula) (second : Formula) : Formula :=
  match first with
  | none => second
  | some f => combine f second

end Formula

/-- What has been read inside one pair of parentheses: the alternatives before the last "or", the formulas
joined by "and" since then, and how often "not" came before the next operand. -/
structure Level where
  alternatives : Option Formula := none
  factors : Option Formula := none
  negations : Nat := 0

namespace Level

def add (level : Level) (f : Formula) : Level :=
  { level with factors := some (Formula.join? .both level.factors (f.negate level.negations)), negations := 0 }

def formula? (level : Level) : Option Formula :=
  level.factors.map fun f => Formula.join? .either level.alternatives f

end Level

/-- Where the reader stands: before an operand, inside a test with some parentheses open, or after an
operand in parentheses. -/
inductive Stand where
  | operand
  | test (depth : Nat) (read : List Lexeme)
  | after

structure Reading where
  level : Level := {}
  outer : List Level := []
  stand : Stand := .operand

namespace Lexeme

def isAnd (l : Lexeme) : Bool := l == .word "and".toList

def isOr (l : Lexeme) : Bool := l == .word "or".toList

def isNot (l : Lexeme) : Bool := l == .word "not".toList

def isOpen (l : Lexeme) : Bool := l == .mark '('

def isClose (l : Lexeme) : Bool := l == .mark ')'

def isEnd (l : Lexeme) : Bool := l.isAnd || l.isOr || l.isClose

end Lexeme

namespace Reading

def goOn? (level : Level) (outer : List Level) (l : Lexeme) : Option Reading :=
  if l.isAnd then some ⟨level, outer, .operand⟩
  else if l.isOr then level.formula?.map fun f => ⟨{ alternatives := some f }, outer, .operand⟩
  else if l.isClose then
    match level.formula?, outer with
    | some f, up :: outer => some ⟨up.add f, outer, .after⟩
    | _, _ => none
  else none

/-- How many parentheses are open inside a test after one more lexeme. -/
def depthAfter (depth : Nat) (l : Lexeme) : Nat :=
  if l.isOpen then depth + 1 else if l.isClose then depth - 1 else depth

def step? (state : Reading) (l : Lexeme) : Option Reading :=
  match state.stand with
  | .operand =>
    if l.isNot then some ⟨{ state.level with negations := state.level.negations + 1 }, state.outer, .operand⟩
    else if l.isOpen then some ⟨{}, state.level :: state.outer, .operand⟩
    else if l.isEnd then none
    else some ⟨state.level, state.outer, .test 0 [l]⟩
  | .test depth read =>
    if depth = 0 && l.isEnd then goOn? (state.level.add (.test read.reverse)) state.outer l
    else some ⟨state.level, state.outer, .test (depthAfter depth l) (l :: read)⟩
  | .after => goOn? state.level state.outer l

/-- The formula at the end of the text, where every parenthesis has to be closed. -/
def finish? (state : Reading) : Option Formula :=
  match state.outer, state.stand with
  | [], .test 0 read => (state.level.add (.test read.reverse)).formula?
  | [], .after => state.level.formula?
  | _, _ => none

end Reading

def readFrom (state : Reading) : List Lexeme → Option Formula
  | [] => state.finish?
  | l :: rest => (state.step? l).bind (readFrom · rest)

namespace Formula

/-- The formula that statement text stands for. -/
def read? (text : String) : Option Formula := (lexemes? text.toList).bind (readFrom {})

end Formula

/-- "not" is read before "and", and "and" before "or". -/
example : Formula.read? "not a = $1 and b or (c or d in (1, 2)) and e is not null" =
    some (.either (.both (.opposite (.test [.word ['a'], .mark '=', .word ['$', '1']])) (.test [.word ['b']]))
      (.both (.either (.test [.word ['c']])
          (.test [.word ['d'], .word ['i', 'n'], .mark '(', .word ['1'], .mark ',', .word ['2'], .mark ')']))
        (.test [.word ['e'], .word ['i', 's'], .word "not".toList, .word "null".toList]))) := by
  decide

/-! ### Operands -/

/-- Lexemes that an operand can end before. -/
def Stops (rest : List Lexeme) : Prop := ∀ l ∈ rest.head?, l.isEnd = true

/-- How many parentheses are open after some more lexemes of a test; none if the test ends before. -/
def depthFrom? (depth : Nat) : List Lexeme → Option Nat
  | [] => some depth
  | l :: rest => if depth = 0 && l.isEnd then none else depthFrom? (Reading.depthAfter depth l) rest

theorem depthFrom?_append (depth : Nat) (ls ms : List Lexeme) :
    depthFrom? depth (ls ++ ms) = (depthFrom? depth ls).bind (depthFrom? · ms) := by
  induction ls generalizing depth with
  | nil => rfl
  | cons l ls ih =>
    rw [List.cons_append, depthFrom?, depthFrom?]
    split
    · rfl
    · exact ih _

/-- Lexemes that are read as one test. -/
structure IsTest (ls : List Lexeme) : Prop where
  starts : ∀ l ∈ ls.head?, l.isNot = false ∧ l.isOpen = false ∧ l.isEnd = false
  nonempty : ls ≠ []
  closed : depthFrom? 0 ls = some 0

/-- From before a formula, the reader gets behind it. -/
def ReadsAs (ls : List Lexeme) (f : Formula) : Prop :=
  ∀ (level : Level) (outer : List Level) {rest : List Lexeme}, Stops rest →
    readFrom ⟨level, outer, .operand⟩ (ls ++ rest) = readFrom ⟨level.add f, outer, .after⟩ rest

theorem readFrom_step {state next : Reading} {l : Lexeme} (rest : List Lexeme) (h : state.step? l = some next) :
    readFrom state (l :: rest) = readFrom next rest := by
  rw [readFrom, h]
  rfl

theorem readFrom_test {ls : List Lexeme} {depth left : Nat} (h : depthFrom? depth ls = some left) (level : Level)
    (outer : List Level) (read rest : List Lexeme) :
    readFrom ⟨level, outer, .test depth read⟩ (ls ++ rest) =
      readFrom ⟨level, outer, .test left (ls.reverse ++ read)⟩ rest := by
  induction ls generalizing depth read with
  | nil =>
    cases h
    rfl
  | cons l ls ih =>
    rw [depthFrom?] at h
    split at h
    · cases h
    · rename_i goesOn
      have step : Reading.step? ⟨level, outer, .test depth read⟩ l =
          some ⟨level, outer, .test (Reading.depthAfter depth l) (l :: read)⟩ := by
        simp only [Reading.step?, goesOn, Bool.false_eq_true, if_false]
      rw [List.cons_append, readFrom_step _ step, ih h, List.reverse_cons, List.append_assoc]
      rfl

theorem readFrom_testEnd {rest : List Lexeme} (stops : Stops rest) (level : Level) (outer : List Level)
    (read : List Lexeme) :
    readFrom ⟨level, outer, .test 0 read⟩ rest = readFrom ⟨level.add (.test read.reverse), outer, .after⟩ rest := by
  cases rest with
  | nil => cases outer <;> rfl
  | cons l rest =>
    have ends := stops l rfl
    rw [readFrom, readFrom]
    simp only [Reading.step?, ends, decide_true, Bool.and_self, if_true]

theorem readsAs_test {ls : List Lexeme} (h : IsTest ls) : ReadsAs ls (.test ls) := by
  intro level outer rest stops
  obtain ⟨l, more, rfl⟩ := List.exists_cons_of_ne_nil h.nonempty
  obtain ⟨noNot, noOpen, noEnd⟩ := h.starts l rfl
  have step : Reading.step? ⟨level, outer, .operand⟩ l = some ⟨level, outer, .test 0 [l]⟩ := by
    simp only [Reading.step?, noNot, noOpen, noEnd, Bool.false_eq_true, if_false]
  have closed := h.closed
  have noClose : l.isClose = false := by
    simp only [Lexeme.isEnd, Bool.or_eq_false_iff] at noEnd
    exact noEnd.2
  have stays : Reading.depthAfter 0 l = 0 := by simp [Reading.depthAfter, noOpen, noClose]
  rw [depthFrom?, noEnd, Bool.and_false, if_neg (by simp), stays] at closed
  rw [List.cons_append, readFrom_step _ step, readFrom_test closed, readFrom_testEnd stops]
  simp

/-! ### Joined and negated operands -/

/-- From the start of a pair of parentheses, the reader gets to a level that holds the formula. -/
def Fills (ls : List Lexeme) (f : Formula) : Prop :=
  ∀ (outer : List Level) {rest : List Lexeme}, Stops rest →
    ∃ level : Level, level.formula? = some f ∧
      readFrom ⟨{}, outer, .operand⟩ (ls ++ rest) = readFrom ⟨level, outer, .after⟩ rest

def andLexeme : Lexeme := .word "and".toList

def orLexeme : Lexeme := .word "or".toList

def notLexeme : Lexeme := .word "not".toList

theorem stops_cons {l : Lexeme} {rest : List Lexeme} (h : l.isEnd = true) : Stops (l :: rest) := by
  intro m hm
  obtain rfl : l = m := Option.some.inj hm
  exact h

theorem stops_more {l : Lexeme} (isEnd : l.isEnd = true) (parts : List (List Lexeme × Formula)) {rest : List Lexeme}
    (stops : Stops rest) : Stops (parts.flatMap (fun p => l :: p.1) ++ rest) := by
  cases parts with
  | nil => exact stops
  | cons p parts => exact stops_cons isEnd

theorem readFrom_and (f : Formula) (parts : List (List Lexeme × Formula))
    (read : ∀ p ∈ parts, ReadsAs p.1 p.2) (outer : List Level) {rest : List Lexeme} (stops : Stops rest) :
    readFrom ⟨{ factors := some f }, outer, .after⟩ (parts.flatMap (fun p => andLexeme :: p.1) ++ rest) =
      readFrom ⟨{ factors := some ((parts.map (·.2)).foldl .both f) }, outer, .after⟩ rest := by
  induction parts generalizing f with
  | nil => rfl
  | cons p parts ih =>
    have step : ∀ level, Reading.step? ⟨level, outer, .after⟩ andLexeme = some ⟨level, outer, .operand⟩ := fun _ => rfl
    rw [List.flatMap_cons, List.append_assoc, List.cons_append, readFrom_step _ (step _),
      read p List.mem_cons_self _ _ (stops_more rfl parts stops)]
    exact ih (.both f p.2) fun p hp => read p (List.mem_cons_of_mem _ hp)

theorem readFrom_or {level : Level} {f : Formula} (held : level.formula? = some f)
    (parts : List (List Lexeme × Formula)) (read : ∀ p ∈ parts, ReadsAs p.1 p.2) (outer : List Level)
    {rest : List Lexeme} (stops : Stops rest) :
    ∃ level' : Level, level'.formula? = some ((parts.map (·.2)).foldl .either f) ∧
      readFrom ⟨level, outer, .after⟩ (parts.flatMap (fun p => orLexeme :: p.1) ++ rest) =
        readFrom ⟨level', outer, .after⟩ rest := by
  induction parts generalizing level f with
  | nil => exact ⟨level, held, rfl⟩
  | cons p parts ih =>
    have step : Reading.step? ⟨level, outer, .after⟩ orLexeme =
        some ⟨{ alternatives := some f }, outer, .operand⟩ := by
      change (level.formula?.map _) = _
      rw [held]
      rfl
    have added : (Level.add { alternatives := some f } p.2).formula? = some (.either f p.2) := rfl
    obtain ⟨level', formula, more⟩ := ih added fun p hp => read p (List.mem_cons_of_mem _ hp)
    refine ⟨level', formula, ?_⟩
    rw [List.flatMap_cons, List.append_assoc, List.cons_append, readFrom_step _ step,
      read p List.mem_cons_self _ _ (stops_more rfl parts stops)]
    exact more

theorem fills_and {first : List Lexeme × Formula} {parts : List (List Lexeme × Formula)}
    (read : ∀ p ∈ first :: parts, ReadsAs p.1 p.2) :
    Fills (first.1 ++ parts.flatMap fun p => andLexeme :: p.1) ((parts.map (·.2)).foldl .both first.2) := by
  intro outer rest stops
  refine ⟨{ factors := some ((parts.map (·.2)).foldl .both first.2) }, rfl, ?_⟩
  rw [List.append_assoc, read first List.mem_cons_self _ _ (stops_more rfl parts stops)]
  exact readFrom_and first.2 parts (fun p hp => read p (List.mem_cons_of_mem _ hp)) outer stops

theorem fills_or {first : List Lexeme × Formula} {parts : List (List Lexeme × Formula)}
    (read : ∀ p ∈ first :: parts, ReadsAs p.1 p.2) :
    Fills (first.1 ++ parts.flatMap fun p => orLexeme :: p.1) ((parts.map (·.2)).foldl .either first.2) := by
  intro outer rest stops
  rw [List.append_assoc, read first List.mem_cons_self _ _ (stops_more rfl parts stops)]
  exact readFrom_or rfl parts (fun p hp => read p (List.mem_cons_of_mem _ hp)) outer stops

theorem ReadsAs.fills {ls : List Lexeme} {f : Formula} (h : ReadsAs ls f) : Fills ls f :=
  fun outer _ stops => ⟨Level.add {} f, rfl, h {} outer stops⟩

theorem Fills.readsAs {ls : List Lexeme} {f : Formula} (h : Fills ls f) :
    ReadsAs (.mark '(' :: (ls ++ [.mark ')'])) f := by
  intro level outer rest _
  have enter : Reading.step? ⟨level, outer, .operand⟩ (.mark '(') = some ⟨{}, level :: outer, .operand⟩ := rfl
  have closing : Stops (.mark ')' :: rest) := stops_cons rfl
  obtain ⟨inner, formula, inside⟩ := h (level :: outer) closing
  have leave : Reading.step? ⟨inner, level :: outer, .after⟩ (.mark ')') = some ⟨level.add f, outer, .after⟩ := by
    simp only [Reading.step?, Reading.goOn?, formula]
    rfl
  rw [List.cons_append, readFrom_step _ enter, List.append_assoc, List.singleton_append, inside,
    readFrom_step _ leave]

theorem Fills.readsAs_not {ls : List Lexeme} {f : Formula} (h : Fills ls f) :
    ReadsAs (notLexeme :: .mark '(' :: (ls ++ [.mark ')'])) (.opposite f) := by
  intro level outer rest stops
  have turn : Reading.step? ⟨level, outer, .operand⟩ notLexeme =
      some ⟨{ level with negations := level.negations + 1 }, outer, .operand⟩ := rfl
  rw [List.cons_append, readFrom_step _ turn, h.readsAs _ _ stops]
  rfl

theorem Fills.readFrom {ls : List Lexeme} {f : Formula} (h : Fills ls f) : readFrom {} ls = some f := by
  obtain ⟨level, formula, whole⟩ := @h [] [] (by simp [Stops])
  rw [List.append_nil] at whole
  rw [whole]
  exact formula

/-! ### Truth of joined formulas -/

section Truth
variable {combine : Truth → Truth → Truth} (assoc : ∀ a b c, combine (combine a b) c = combine a (combine b c))
  {assign : List Lexeme → Truth}
include assoc

theorem foldl_join? (t : Truth) (rest : List Truth) : some (rest.foldl combine t) = Truth.join? combine (t :: rest) := by
  induction rest generalizing t with
  | nil => rfl
  | cons u rest ih =>
    calc some ((u :: rest).foldl combine t)
        = Truth.merge combine (Truth.merge combine (some t) (some u)) (Truth.join? combine rest) := ih (combine t u)
      _ = Truth.join? combine (t :: u :: rest) := Truth.merge_assoc assoc ..

theorem truth_foldl {join : Formula → Formula → Formula}
    (joins : ∀ f g, (join f g).truth assign = combine (f.truth assign) (g.truth assign)) (f : Formula)
    (rest : List Formula) :
    some ((rest.foldl join f).truth assign) = Truth.join? combine ((f :: rest).map (·.truth assign)) := by
  have truths : (rest.foldl join f).truth assign = (rest.map (·.truth assign)).foldl combine (f.truth assign) := by
    induction rest generalizing f with
    | nil => rfl
    | cons g rest ih => rw [List.foldl_cons, ih, joins, List.map_cons, List.foldl_cons]
  rw [truths, foldl_join? assoc]
  rfl

end Truth

end RecordStore.Sql
