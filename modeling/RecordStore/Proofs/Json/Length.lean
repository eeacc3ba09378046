import RecordStore.Json.Reader
import RecordStore.Proofs.Error.Outcome
import RecordStore.Proofs.Text.Points

/-!
# Texts are shorter than what stands for them

A JSON text that stands for a text holds the quotes as well, so no text stands for itself. The reader of tokens never has
more of a text than code points it has read, and a text is the value only where it is the one token.
-/

namespace RecordStore.Json

/-! ### Tokens -/

/-- How many code points a token accounts for at least, one quote of a text included. -/
def Token.span : Token → Nat
  | .scalar (.text s) => s.points.length + 1
  | _ => 0

def totalSpan : List Token → Nat
  | [] => 0
  | t :: rest => t.span + totalSpan rest

/-- What has been read of the token at a position, the opening quote included. -/
def Position.span : Position → Nat
  | .between => 0
  | .word _ => 0
  | .string read _ => read.length + 1
  | .escape read _ => read.length + 1
  | .hex read _ _ => read.length + 1

namespace TokenState

def span (state : TokenState) : Nat := totalSpan state.tokens + state.position.span

theorem span_wordValue? {word : List Char} {v : Value} (value : wordValue? word = some v) : (Token.scalar v).span = 0 := by
  unfold wordValue? at value
  repeat' split at value
  case isFalse =>
    unfold numberOf? at value
    obtain ⟨n, _, value⟩ := Option.bind_eq_some_iff.1 value
    split at value
    · split at value
      · cases value
        rfl
      · cases value
    · cases value
      rfl
  all_goals
    cases value
    rfl

theorem span_outside? {tokens : List Token} {c : Char} {next : TokenState} (step : outside? tokens c = some next) :
    next.span ≤ totalSpan tokens + 1 := by
  unfold outside? at step
  split at step
  · cases step
    exact Nat.le_succ _
  split at step
  · cases step
    exact Nat.le_refl _
  split at step
  · cases step
    exact Nat.le_succ _
  obtain ⟨t, mark, rfl⟩ := Option.map_eq_some_iff.1 step
  have none : t.span = 0 := by
    unfold punctuation? at mark
    repeat' split at mark
    all_goals
      cases mark
      try rfl
  show totalSpan (t :: tokens) + 0 ≤ _
  rw [totalSpan, none, Nat.zero_add]
  exact Nat.le_succ _

theorem span_finishWord? {tokens finished : List Token} {read : List Char}
    (finish : finishWord? tokens read = some finished) : totalSpan finished = totalSpan tokens := by
  obtain ⟨v, value, rfl⟩ := Option.map_eq_some_iff.1 finish
  rw [totalSpan, span_wordValue? value, Nat.zero_add]

theorem length_push (read : List CodePoint) (p : CodePoint) : (CodePoint.push read p).length ≤ read.length + 1 := by
  unfold CodePoint.push
  split
  · exact Nat.le_refl _
  · split
    · exact Nat.le_succ _
    · exact Nat.le_refl _

/-- A character adds at most one to what has been read. -/
theorem span_stepChar? {state next : TokenState} {c : Char} (step : state.stepChar? c = some next) :
    next.span ≤ state.span + 1 := by
  obtain ⟨tokens, position⟩ := state
  unfold stepChar? at step
  cases position with
  | between => exact span_outside? step
  | word read =>
    dsimp only at step
    split at step
    · cases step
      exact Nat.le_succ _
    · obtain ⟨finished, finish, step⟩ := Option.bind_eq_some_iff.1 step
      have grown := span_outside? step
      rwa [span_finishWord? finish] at grown
  | string read escaped =>
    dsimp only at step
    split at step
    · cases step
      exact Nat.le_succ _
    split at step
    · cases step
      simp only [span, totalSpan, Token.span, Position.span, Text.points_ofPoints, List.length_reverse]
      omega
    split at step
    · cases step
    · cases step
      exact Nat.le_refl _
  | escape read escaped =>
    dsimp only at step
    split at step
    · cases step
      exact Nat.le_succ _
    · obtain ⟨d, _, rfl⟩ := Option.map_eq_some_iff.1 step
      exact Nat.le_refl _
  | hex read escaped digits =>
    dsimp only at step
    split at step
    · cases step
    · cases step
      show totalSpan tokens + ((if escaped then _ else _ :: read).length + 1) ≤ totalSpan tokens + (read.length + 1) + 1
      split
      · exact Nat.add_le_add_left (Nat.succ_le_succ (length_push ..)) _
      · exact Nat.le_refl _
    · cases step
      exact Nat.le_succ _

theorem span_step? {state next : TokenState} {p : CodePoint} (step : state.step? p = some next) :
    next.span ≤ state.span + 1 := by
  cases p with
  | char c => exact span_stepChar? step
  | half s =>
    unfold step? at step
    dsimp only at step
    split at step
    · rename_i read escaped inside
      cases step
      rw [span, span, inside]
      exact Nat.le_refl _
    · cases step

end TokenState

theorem totalSpan_append (tokens others : List Token) :
    totalSpan (tokens ++ others) = totalSpan tokens + totalSpan others := by
  induction tokens with
  | nil => exact (Nat.zero_add _).symm
  | cons t rest ih => rw [List.cons_append, totalSpan, totalSpan, ih, Nat.add_assoc]

theorem totalSpan_reverse (tokens : List Token) : totalSpan tokens.reverse = totalSpan tokens := by
  induction tokens with
  | nil => rfl
  | cons t rest ih =>
    rw [List.reverse_cons, totalSpan_append, ih, Nat.add_comm]
    rfl

theorem totalSpan_scanFrom (state : TokenState) (points : List CodePoint) :
    totalSpan (scanFrom state points).1 ≤ state.span + points.length := by
  induction points generalizing state with
  | nil =>
    have read : totalSpan state.tokens ≤ state.span := Nat.le_add_right ..
    rw [scanFrom]
    cases finish : state.finish? with
    | none => rwa [totalSpan_reverse]
    | some tokens =>
      unfold TokenState.finish? at finish
      split at finish
      · cases finish
        rwa [totalSpan_reverse]
      · obtain ⟨finished, word, rfl⟩ := Option.map_eq_some_iff.1 finish
        rwa [totalSpan_reverse, TokenState.span_finishWord? word]
      · cases finish
  | cons p rest ih =>
    rw [scanFrom]
    cases step : state.step? p with
    | none =>
      rw [totalSpan_reverse, TokenState.span]
      omega
    | some next =>
      have grown := TokenState.span_step? step
      have later := ih next
      rw [List.length_cons]
      dsimp only
      omega

theorem totalSpan_scan (t : Text) : totalSpan (scan t).1 ≤ t.points.length := by
  have read := totalSpan_scanFrom {} t.points
  rwa [show TokenState.span {} = 0 from rfl, Nat.zero_add] at read

/-! ### Values -/

/-- A reader of values by the tokens it has taken: none, some of an unfinished value, or all of one. -/
inductive Reading : List Token → ValueState → Prop
  | start : Reading [] {}
  | inside {taken : List Token} {frames : List Frame} {expected : Expected} (opened : frames ≠ []) :
      Reading taken ⟨frames, expected, none⟩
  | scalar {v : Value} {expected : Expected} : Reading [.scalar v] ⟨[], expected, some v⟩
  | composed {taken : List Token} {frames : List Frame} {expected : Expected} {v : Value} (other : ∀ s, v ≠ .text s) :
      Reading taken ⟨frames, expected, some v⟩

namespace ValueState
variable {taken : List Token} {frames : List Frame} {state next : ValueState} {t : Token}

theorem reading_add? {v : Value} (other : ∀ s, v ≠ .text s) (added : add? frames v = some next) : Reading taken next := by
  unfold add? at added
  split at added
  · cases added
    exact .composed other
  · cases added
    exact .inside (List.cons_ne_nil _ _)
  · cases added
    exact .inside (List.cons_ne_nil _ _)
  · cases added

theorem reading_close? (closed : close? frames t = some next) : Reading taken next := by
  unfold close? at closed
  split at closed
  · exact reading_add? (by simp) closed
  · exact reading_add? (by simp) closed
  · cases closed

theorem reading_startValue? (opened : frames ≠ []) (started : startValue? frames t = some next) : Reading taken next := by
  unfold startValue? at started
  split at started
  · cases started
    exact .inside (List.cons_ne_nil _ _)
  · cases started
    exact .inside (List.cons_ne_nil _ _)
  · unfold add? at started
    split at started
    · exact absurd rfl opened
    · cases started
      exact .inside (List.cons_ne_nil _ _)
    · cases started
      exact .inside (List.cons_ne_nil _ _)
    · cases started
  · cases started

theorem reading_startKey? (opened : frames ≠ []) (started : startKey? frames t = some next) : Reading taken next := by
  unfold startKey? at started
  split at started
  · cases started
    exact .inside opened
  · cases started

theorem reading_inside {expected : Expected} (opened : frames ≠ [])
    (step : step? ⟨frames, expected, none⟩ t = some next) : Reading taken next := by
  unfold step? at step
  rw [if_neg (by simp)] at step
  dsimp only at step
  split at step
  · exact reading_startValue? opened step
  · exact reading_close? step
  · exact reading_startValue? opened step
  · exact reading_startKey? opened step
  · exact reading_close? step
  · exact reading_startKey? opened step
  · split at step
    · cases step
      exact .inside (List.cons_ne_nil _ _)
    · cases step
  · cases step
  · split at step
    · cases step
      exact .inside (List.cons_ne_nil _ _)
    · cases step
      exact .inside (List.cons_ne_nil _ _)
    · cases step
  · exact reading_close? step

theorem reading_step? (reading : Reading taken state) (step : state.step? t = some next) :
    Reading (taken ++ [t]) next := by
  cases reading with
  | start =>
    change startValue? [] t = some next at step
    cases t with
    | scalar v =>
      cases step
      exact .scalar
    | openList =>
      cases step
      exact .inside (List.cons_ne_nil _ _)
    | openMap =>
      cases step
      exact .inside (List.cons_ne_nil _ _)
    | _ => cases step
  | inside opened => exact reading_inside opened step
  | scalar => cases step
  | composed _ => cases step

theorem reading_run {nesting : Option Nat} {tokens : List Token} (reading : Reading taken state)
    (ran : tokens.foldlM (stepWithin nesting) state = .ok next) : Reading (taken ++ tokens) next := by
  induction tokens generalizing taken state with
  | nil =>
    cases ran
    rwa [List.append_nil]
  | cons t rest ih =>
    rw [List.foldlM_cons] at ran
    obtain ⟨middle, stepped, ran⟩ := bind_ok ran
    unfold stepWithin at stepped
    split at stepped
    · cases stepped
    · rename_i after step
      split at stepped
      · cases stepped
        rw [List.append_cons]
        exact ih (reading_step? reading step) ran
      · cases stepped

end ValueState

/-- No JSON text stands for itself. -/
theorem read_ne_self (nesting : Option Nat) (s : Text) : read nesting s ≠ .ok (.text s) := by
  intro same
  unfold read at same
  dsimp only at same
  obtain ⟨state, ran, same⟩ := bind_ok same
  have reading := ValueState.reading_run .start ran
  have result : state.result = some (.text s) := by
    cases found : state.result with
    | none =>
      rw [found] at same
      cases same
    | some v =>
      rw [found] at same
      dsimp only at same
      split at same
      · rw [pure_ok same]
      · cases same
  rw [List.nil_append] at reading
  -- lists and maps that are closed are no texts, so the text was a token, and nothing may follow it
  have one : (scan s).1 = [.scalar (.text s)] := by
    generalize (scan s).1 = tokens at reading
    cases reading with
    | start => cases result
    | inside _ => cases result
    | scalar =>
      cases result
      rfl
    | composed other => exact absurd (Option.some.inj result) (other s)
  have short := totalSpan_scan s
  rw [one] at short
  exact absurd short (Nat.not_succ_le_self _)

end RecordStore.Json
