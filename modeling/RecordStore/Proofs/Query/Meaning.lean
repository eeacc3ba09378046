import RecordStore.Proofs.Query.Safety

/-!
# What a filter means

`meaning` is the truth of a filter by recursion on the filter alone: entries all have to hold, "and" and
"or" join the children that ask for anything, "not" turns its child around, and what asks for nothing is
left out. `conditions_meaning` shows that the statement text of a filter, read by the precedence of SQL,
has this truth whatever the tests in it are worth.
-/

namespace RecordStore.Query
open Sql Binding

section Meaning
variable (type : RecordType) (assign : List Lexeme → Truth)

def testTruth (test : Condition) : Truth := assign ((lexemes? test.sql.toList).getD [])

/-- What one entry means, by what its value means as a filter and as filters to join. -/
def operatorMeaning (operator : Operator) (v : Value) (children : Binding (List Truth))
    (inner : Binding (Option Truth)) : Binding (Option Truth) :=
  if v.isNull then pure none
  else
    match columnConditions type operator, operator with
    | some compile, _ => do return Truth.join? Truth.both ((← compile v).map (testTruth assign))
    | none, .either => do return Truth.join? Truth.either (← children)
    | none, .negation => do return (← inner).map Truth.opposite
    | none, _ => do return Truth.join? Truth.both (← children)

mutual

/-- The truth of a filter, if it asks for anything. -/
def meaning : Value → Binding (Option Truth)
  | .map entries => entryMeaning entries
  | v => if v.holds then Binding.misuse (.notMap v.shape) else return none

def entryMeaning : List (Value × Value) → Binding (Option Truth)
  | [] => return none
  | (key, v) :: rest => do
    let operator ← Operator.ofValue key
    let first ← operatorMeaning type assign operator v (childMeanings v) (meaning v)
    let others ← entryMeaning rest
    return Truth.merge Truth.both first others

/-- The truths of the filters under "and" and "or" that ask for anything. -/
def childMeanings : Value → Binding (List Truth)
  | .map entries => do return (← entryMeaning entries).toList
  | .list items => itemMeanings items
  | .tuple items => itemMeanings items
  | v => do
    let _ ← emptyFilters (← v.elements)
    return []

def itemMeanings : List Value → Binding (List Truth)
  | [] => return []
  | v :: rest => do
    let first ← meaning v
    let others ← itemMeanings rest
    return first.toList ++ others

end

theorem meaning_other {v : Value} (noMap : ∀ entries, v = .map entries → False) :
    meaning type assign v = if v.holds then Binding.misuse (.notMap v.shape) else pure none := by
  rw [meaning]
  exact noMap

theorem childMeanings_other {v : Value} (noMap : ∀ entries, v = .map entries → False)
    (noList : ∀ items, v = .list items → False) (noTuple : ∀ items, v = .tuple items → False) :
    childMeanings type assign v = (do
      let _ ← emptyFilters (← (liftM v.elements : Binding (List Value)))
      return []) := by
  rw [childMeanings]
  · exact noMap
  · exact noList
  · exact noTuple

end Meaning

/-! ### Runs that agree -/

/-- Whenever the first succeeds, the second does on the same values, with what is read off its result. -/
def Agrees {α β : Type} (read : α → β) (build : Binding α) (meant : Binding β) : Prop :=
  ∀ values a after, build.runFrom values = (.ok a, after) → meant.runFrom values = (.ok (read a), after)

section Agrees
variable {α β γ δ : Type}

theorem agrees_pure {read : α → β} {a : α} {b : β} (h : read a = b) : Agrees read (pure a) (pure b) := by
  intro values c after ran
  obtain ⟨rfl, rfl⟩ := pure_runFrom_ok ran
  rw [h]
  rfl

theorem agrees_bind {read : α → β} {readNext : γ → δ} {build : Binding α} {meant : Binding β} {f : α → Binding γ}
    {g : β → Binding δ} (first : Agrees read build meant) (next : ∀ a, Agrees readNext (f a) (g (read a))) :
    Agrees readNext (build >>= f) (meant >>= g) := by
  intro values c after ran
  obtain ⟨a, middle, ranFirst, ranNext⟩ := bind_runFrom_ok ran
  rw [runFrom_bind_of_ok (first values a middle ranFirst)]
  exact next a middle c after ranNext

theorem agrees_self (build : Binding α) : Agrees id build build := fun _ _ _ ran => ran

end Agrees

/-! ### Truth of compiled filters -/

section Truth
variable {type : RecordType} {assign : List Lexeme → Truth}

def truths (assign : List Lexeme → Truth) (cs : List Condition) : List Truth := cs.map (·.formula.truth assign)

theorem truths_append (cs ds : List Condition) : truths assign (cs ++ ds) = truths assign cs ++ truths assign ds :=
  List.map_append

theorem truth?_append (cs ds : List Condition) :
    Condition.truth? assign .all (cs ++ ds) =
      Truth.merge Truth.both (Condition.truth? assign .all cs) (Condition.truth? assign .all ds) := by
  rw [Condition.truth?, List.map_append]
  exact Truth.join?_append Truth.both_assoc ..

theorem truth?_joined? (connective : Connective) (parts : List Condition) :
    Condition.truth? assign .all (Condition.joined? connective parts) =
      Truth.join? connective.truth (truths assign parts) := by
  unfold Condition.joined?
  split
  · rename_i none
    rw [List.isEmpty_iff.1 none]
    rfl
  · rename_i some
    exact Condition.truth_joinFormulas assign connective (by simpa using some)

theorem truth_conjunction? (cs : List Condition) :
    (Condition.conjunction? cs).map (·.formula.truth assign) = Condition.truth? assign .all cs := by
  unfold Condition.conjunction?
  split
  · rfl
  · rfl
  · rename_i some _
    exact Condition.truth_joinFormulas assign .all (by simpa using some)

theorem truths_conjunction? (cs : List Condition) :
    truths assign (Condition.conjunction? cs).toList = (Condition.truth? assign .all cs).toList := by
  rw [← truth_conjunction?]
  cases Condition.conjunction? cs <;> rfl

theorem truth?_negated (cs : List Condition) :
    Condition.truth? assign .all ((Condition.conjunction? cs).map .negated).toList =
      (Condition.truth? assign .all cs).map Truth.opposite := by
  rw [← truth_conjunction? cs]
  cases Condition.conjunction? cs <;> rfl

theorem testTruth_eq {cs : List Condition} (tests : AreTests cs) : cs.map (testTruth assign) = truths assign cs := by
  refine List.map_congr_left fun c hc => ?_
  obtain ⟨t, rfl, safe⟩ := tests c hc
  rw [testTruth, Condition.sql, Fragment.toList_sql, Condition.fragment, (Test.spells safe).lexemes?]
  rfl

theorem agrees_operator (operator : Operator) {v : Value} {childTruths : Binding (List Truth)}
    {innerTruth : Binding (Option Truth)} (child : Agrees (truths assign) (children type v) childTruths)
    (inner : Agrees (Condition.truth? assign .all) (conditions type v) innerTruth) :
    Agrees (Condition.truth? assign .all) (operatorConditions type operator v)
      (operatorMeaning type assign operator v childTruths innerTruth) := by
  have columns : ∀ {compile}, columnConditions type operator = some compile →
      Agrees (Condition.truth? assign .all) (compile v)
        (do return Truth.join? Truth.both ((← compile v).map (testTruth assign))) := by
    intro compile h values cs after ran
    rw [runFrom_bind_of_ok ran, testTruth_eq (yields_columnConditions h v values cs after ran)]
    rfl
  have joined : ∀ connective : Connective, Agrees (Condition.truth? assign .all)
      (do return Condition.joined? connective (← children type v))
      (do return Truth.join? connective.truth (← childTruths)) :=
    fun connective => agrees_bind child fun parts => agrees_pure (truth?_joined? connective parts)
  unfold operatorConditions operatorMeaning
  cases v.isNull with
  | true => exact agrees_pure rfl
  | false =>
    rw [if_neg (by simp), if_neg (by simp)]
    cases operator with
    | every => exact joined .all
    | either => exact joined .any
    | negation => exact agrees_bind inner fun cs => agrees_pure (truth?_negated cs)
    | _ => exact columns rfl

/-- Compiling a filter yields conditions of the truth that the filter has. -/
theorem agrees_conditions (type : RecordType) (assign : List Lexeme → Truth) :
    (∀ v, Agrees (Condition.truth? assign .all) (conditions type v) (meaning type assign v)) ∧
      (∀ entries, Agrees (Condition.truth? assign .all) (entryConditions type entries)
        (entryMeaning type assign entries)) ∧
      (∀ v, Agrees (truths assign) (children type v) (childMeanings type assign v)) ∧
      (∀ items, Agrees (truths assign) (childConditions type items) (itemMeanings type assign items)) := by
  apply conditions.mutual_induct
  case case1 =>
    intro entries ih
    rwa [conditions, meaning]
  case case2 =>
    intro v noMap holds values cs after ran
    rw [conditions_other noMap, if_pos holds] at ran
    cases ran
  case case3 =>
    intro v noMap empty
    rw [conditions_other noMap, meaning_other type assign noMap, if_neg empty, if_neg empty]
    exact agrees_pure rfl
  case case4 =>
    intro entries ih
    rw [children, childMeanings]
    exact agrees_bind ih fun cs => agrees_pure (truths_conjunction? cs)
  case case5 =>
    intro items ih
    rwa [children, childMeanings]
  case case6 =>
    intro items ih
    rwa [children, childMeanings]
  case case7 =>
    intro v noMap noList noTuple
    rw [children_other noMap noList noTuple, childMeanings_other type assign noMap noList noTuple]
    refine agrees_bind (agrees_self _) fun items values cs after ran => ?_
    obtain rfl : cs = [] := yields_emptyFilters items values cs after ran
    exact runFrom_bind_of_ok ran _
  case case8 =>
    rw [childConditions, itemMeanings]
    exact agrees_pure rfl
  case case9 =>
    intro v rest ih ihRest
    rw [childConditions, itemMeanings]
    refine agrees_bind ih fun first => agrees_bind ihRest fun others => agrees_pure ?_
    rw [truths_append, truths_conjunction?]
  case case10 =>
    rw [entryConditions, entryMeaning]
    exact agrees_pure rfl
  case case11 =>
    intro key v rest ihRest ihChildren ihInner
    rw [entryConditions_cons, entryMeaning]
    refine agrees_bind (agrees_self _) fun operator => ?_
    refine agrees_bind (agrees_operator operator ihChildren ihInner) fun first => ?_
    exact agrees_bind ihRest fun others => agrees_pure (truth?_append first others)

end Truth

/-- The text of a filter, read by the precedence of SQL, has the truth that the filter has by itself; a
filter that asks for nothing has neither. -/
theorem conditions_meaning (type : RecordType) (assign : List Lexeme → Truth) {v : Value}
    {values after : ParameterList} {cs : List Condition}
    (ran : (conditions type v).runFrom values = (.ok cs, after)) :
    ∃ truth : Option Truth, (meaning type assign v).runFrom values = (.ok truth, after) ∧
      (whereText? cs).map (fun text => (Formula.read? text).map (·.truth assign)) = truth.map some := by
  refine ⟨_, (agrees_conditions type assign).1 v values cs after ran, ?_⟩
  have readable := (yields_readable type).1 v values cs after ran
  unfold whereText? Condition.whereFragment?
  split
  · rename_i none
    rw [List.isEmpty_iff.1 none]
    rfl
  · rename_i some
    have nonempty : cs ≠ [] := by simpa using some
    rw [← Condition.truth_joinFormulas assign .all nonempty, Option.map_some, Option.map_some, Option.map_some,
      Condition.read?_joinFragments nonempty readable]
    rfl

/-- A filter with all connectives, in which one child and one entry ask for nothing. -/
def nestedSample : Value :=
  .map [(.text "or", .list [.map [(.text "match", .map [(.text "heading", .text "a")])], .map [],
      .map [(.text "not", .map [(.text "match", .map [(.text "heading", .list [.text "b", .null])]),
        (.text "exists", .map [(.text "labels", .bool true)])])]]),
    (.text "range", .null), (.text "contains", .map [(.text "labels", .text "x")])]

/-- Headings are unknown, and every other test holds. -/
def headingsUnknown (test : List Lexeme) : Truth := if .name "heading".toList ∈ test then .unknown else .yes

theorem nestedSample_meaning : ∃ cs after,
    (conditions articleSample nestedSample).runFrom [.int 7] = (.ok cs, after) ∧
      whereText? cs = some ("(\"heading\" = $2 or not ((\"heading\" in ($3, $4) and " ++
        "coalesce(array_length(\"labels\", 1), 0) > 0))) and " ++
        "exists (select 1 from unnest(\"labels\") as x where x::text ilike $5)") ∧
      ∃ truth : Option Truth, (meaning articleSample headingsUnknown nestedSample).runFrom [.int 7] = (.ok truth, after) ∧
        (whereText? cs).map (fun text => (Formula.read? text).map (·.truth headingsUnknown)) = truth.map some :=
  ⟨_, _, rfl, rfl, conditions_meaning articleSample headingsUnknown rfl⟩

end RecordStore.Query
