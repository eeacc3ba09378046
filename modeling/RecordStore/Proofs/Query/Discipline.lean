import RecordStore.Proofs.Query.Inlined
import RecordStore.Proofs.Query.Safety
import RecordStore.Proofs.Sql.Clean

/-!
# Placeholders over whole runs

Steps of any kind, some of which may fail, on one list of values: the list only grows, a step that succeeds
numbers the values that it appends, and all numbers that are handed out over a run go up.
-/

namespace RecordStore.Query
open Sql Binding

/-! ### Compiling only appends -/

section Growth
variable {type : RecordType}

theorem extends_matchTest (name value : Value) : Extends (matchTest type name value) := by
  refine extends_bind (extends_adapter _) fun (column, field) => ?_
  dsimp only
  cases field.isArray with
  | true =>
    rw [if_pos rfl]
    split
    · exact extends_pure _
    · exact extends_bind (extends_mapM extends_bindElement _) fun _ => extends_pure _
  | false =>
    rw [if_neg (by simp)]
    split
    · exact extends_pure _
    · exact extends_bind (extends_mapM extends_bindEncoded _) fun _ => extends_pure _
    · exact extends_bind (extends_bindEncoded value) fun _ => extends_pure _

theorem extends_rangeEnd (bound : Value) (test : Slot → Test) : Extends (rangeEnd bound test) := by
  unfold rangeEnd
  split
  · exact extends_pure _
  · exact extends_bind (extends_bindEncoded bound) fun _ => extends_pure _

theorem extends_rangeTests (name bounds : Value) : Extends (rangeTests type name bounds) := by
  rw [rangeTests_eq]
  refine extends_bind (extends_outcome _) fun (lower, upper) => ?_
  refine extends_bind (extends_adapter _) fun (column, field) => ?_
  refine extends_bind (extends_rangeEnd lower _) fun least => ?_
  exact extends_bind (extends_rangeEnd upper _) fun most => extends_pure _

theorem extends_containsTest (name value : Value) : Extends (containsTest type name value) := by
  refine extends_bind (extends_adapter _) fun field => extends_bind (extends_adapter _) fun column => ?_
  refine extends_bind (extends_misuse _) fun shown => ?_
  exact extends_bind (extends_slot _ _) fun pattern => extends_pure _

theorem extends_eachEntry {rule : Value → Value → Binding (List Test)}
    (h : ∀ name value, Extends (rule name value)) (v : Value) : Extends (eachEntry rule v) := by
  refine extends_bind (extends_misuse _) fun entries => ?_
  exact extends_bind (extends_mapM (fun e => h e.1 e.2) entries) fun tests => extends_pure _

theorem extends_columnConditions {operator : Operator} {compile : Value → Binding (List Condition)}
    (h : columnConditions type operator = some compile) (v : Value) : Extends (compile v) := by
  have single : ∀ {build : Binding Test}, Extends build → Extends (do pure [← build]) :=
    fun grows => extends_bind grows fun _ => extends_pure _
  obtain ⟨rule, column, rfl⟩ := columnConditions_rule h
  refine extends_eachEntry (fun name value => ?_) v
  cases column with
  | fits => exact single (extends_matchTest name value)
  | within => exact extends_rangeTests name value
  | present => exact single (extends_adapter _)
  | contains => exact single (extends_containsTest name value)

theorem extends_operatorConditions (operator : Operator) {v : Value} (children : Extends (children type v))
    (inner : Extends (conditions type v)) : Extends (operatorConditions type operator v) := by
  have columns : ∀ {compile}, columnConditions type operator = some compile → Extends (compile v) :=
    fun h => extends_columnConditions h v
  unfold operatorConditions
  cases v.isNull with
  | true => exact extends_pure _
  | false =>
    rw [if_neg (by simp)]
    cases operator with
    | every => exact extends_bind children fun _ => extends_pure _
    | either => exact extends_bind children fun _ => extends_pure _
    | negation => exact extends_bind inner fun _ => extends_pure _
    | _ => exact columns rfl

theorem extends_emptyFilters (items : List Value) : Extends (emptyFilters items) := by
  induction items with
  | nil => exact extends_pure _
  | cons v rest ih =>
    rw [emptyFilters]
    split
    · exact fun values => List.prefix_refl values
    · exact ih

theorem extends_conditions (type : RecordType) :
    (∀ v, Extends (conditions type v)) ∧ (∀ entries, Extends (entryConditions type entries)) ∧
      (∀ v, Extends (children type v)) ∧ (∀ items, Extends (childConditions type items)) := by
  apply conditions.mutual_induct
  case case1 =>
    intro entries ih
    rwa [conditions]
  case case2 =>
    intro v noMap holds
    rw [conditions_other noMap, if_pos holds]
    exact fun values => List.prefix_refl values
  case case3 =>
    intro v noMap empty
    rw [conditions_other noMap, if_neg empty]
    exact extends_pure _
  case case4 =>
    intro entries ih
    rw [children]
    exact extends_bind ih fun _ => extends_pure _
  case case5 =>
    intro items ih
    rwa [children]
  case case6 =>
    intro items ih
    rwa [children]
  case case7 =>
    intro v noMap noList noTuple
    rw [children_other noMap noList noTuple]
    exact extends_bind (extends_misuse _) extends_emptyFilters
  case case8 =>
    rw [childConditions]
    exact extends_pure _
  case case9 =>
    intro v rest ih ihRest
    rw [childConditions]
    exact extends_bind ih fun _ => extends_bind ihRest fun _ => extends_pure _
  case case10 =>
    rw [entryConditions]
    exact extends_pure _
  case case11 =>
    intro key v rest ihRest ihChildren ihInner
    rw [entryConditions_cons]
    refine extends_bind (extends_adapter _) fun operator => ?_
    refine extends_bind (extends_operatorConditions operator ihChildren ihInner) fun first => ?_
    exact extends_bind ihRest fun others => extends_pure _

end Growth

/-! ### Steps -/

/-- What can be done with one list of values: a value is bound as it is with the cast that some value gets,
or in its stored form, or as an element of an array; or a filter is compiled, to one text or to several. -/
inductive Step where
  | bind (value castAs : Value)
  | bindValue (value : Value)
  | bindElement (value : Value)
  | compile (type : RecordType) (filter : Value)
  | compileFragments (type : RecordType) (filter : Value)

namespace Step

/-- The texts that a step returns. -/
def build : Step → Binding (List String)
  | bind value castAs => do return [Fragment.sql (← Sql.bind value (elementCast castAs)).fragment]
  | bindValue value => do return [Fragment.sql (← Sql.bindEncoded value).fragment]
  | bindElement value => do return [Fragment.sql (← Sql.bindElement value).fragment]
  | compile type filter => do return (whereText? (← conditions type filter)).toList
  | compileFragments type filter => do return (← conditions type filter).map Condition.sql

/-- The texts that a step should return, with the values in their places. -/
def model : Step → Outcome (List Inlined)
  | bind value castAs => return [.value value :: castParts (elementCast castAs)]
  | bindValue value => do return [← encodedPart value]
  | bindElement value => do return [← elementPart value]
  | compile type filter => do
    let parts ← filterParts type filter
    return if parts.isEmpty then [] else [.join " and " parts]
  | compileFragments type filter => filterParts type filter

theorem extends_build (step : Step) : Extends step.build := by
  cases step with
  | bind value castAs => exact extends_bind (extends_slot _ _) fun _ => extends_pure _
  | bindValue value => exact extends_bind (extends_bindEncoded value) fun _ => extends_pure _
  | bindElement value => exact extends_bind (extends_bindElement value) fun _ => extends_pure _
  | compile type filter => exact extends_bind ((extends_conditions type).1 filter) fun _ => extends_pure _
  | compileFragments type filter => exact extends_bind ((extends_conditions type).1 filter) fun _ => extends_pure _

/-- What a step did: its texts are those that it should return with the appended values numbered. -/
def Numbered (values after : ParameterList) (texts : List String) (model : Outcome (List Inlined)) : Prop :=
  ∃ parts, model = .ok parts ∧ after = values ++ Inlined.allValues parts ∧
    texts = (Inlined.numberedEach (values.length + 1) parts).map Fragment.sql ∧ ∀ part ∈ parts, part.Clean

theorem clean_parts (next : Nat) {parts : List Inlined}
    (clean : ∀ f ∈ Inlined.numberedEach next parts, f.Clean) : ∀ part ∈ parts, part.Clean := by
  induction parts generalizing next with
  | nil => simp
  | cons p rest ih =>
    intro part member
    rcases List.mem_cons.1 member with rfl | later
    · exact Inlined.clean_of_numbered next (clean _ List.mem_cons_self)
    · exact ih _ (fun f hf => clean f (List.mem_cons_of_mem _ hf)) part later

theorem numbered_slot {build : Binding Slot} {model : Outcome Inlined} (writes : WritesOne Slot.fragment build model)
    (safe : Yields (fun slot => slot.cast ∈ castTexts) build) {values after : ParameterList} {texts : List String}
    (ran : (do return [Fragment.sql (← build).fragment] : Binding (List String)).runFrom values = (.ok texts, after)) :
    Numbered values after texts (do return [← model]) := by
  obtain ⟨slot, middle, bound, ran⟩ := bind_runFrom_ok ran
  obtain ⟨rfl, rfl⟩ := pure_runFrom_ok ran
  obtain ⟨part, made, appended, fit⟩ := writes values slot middle bound
  have single : Inlined.numberedEach (values.length + 1) [part] = [slot.fragment] := congrArg ([·]) fit.symm
  refine ⟨[part], by rw [made]; rfl, by simpa [Inlined.allValues] using appended, by rw [single]; rfl, ?_⟩
  refine clean_parts (values.length + 1) ?_
  rw [single]
  exact fun f hf => List.mem_singleton.1 hf ▸ Slot.clean (safe values slot middle bound)

theorem numbered_conditions {type : RecordType} {filter : Value} {values after : ParameterList} {cs : List Condition}
    (ran : (conditions type filter).runFrom values = (.ok cs, after)) :
    ∃ parts, filterParts type filter = .ok parts ∧ after = values ++ Inlined.allValues parts ∧
      cs.map Condition.fragment = Inlined.numberedEach (values.length + 1) parts ∧ (∀ part ∈ parts, part.Clean) ∧
      ∀ c ∈ cs, c.Readable := by
  obtain ⟨parts, made, appended, fit⟩ := (writes_conditions type).1 filter values cs after ran
  have readable := (yields_readable type).1 filter values cs after ran
  refine ⟨parts, made, appended, fit, clean_parts (values.length + 1) ?_, readable⟩
  rw [← fit]
  intro f hf
  obtain ⟨c, member, rfl⟩ := List.mem_map.1 hf
  exact Condition.clean_fragment (readable c member)

theorem numbered_build (step : Step) {values after : ParameterList} {texts : List String}
    (ran : step.build.runFrom values = (.ok texts, after)) : Numbered values after texts step.model := by
  cases step with
  | bind value castAs => exact numbered_slot (writes_bind value _) (yields_bind_safe value (elementCast_safe castAs)) ran
  | bindValue value => exact numbered_slot (writes_bindEncoded value) (yields_bindEncoded value) ran
  | bindElement value => exact numbered_slot (writes_bindElement value) (yields_bindElement value) ran
  | compileFragments type filter =>
    obtain ⟨cs, middle, compiled, ran⟩ := bind_runFrom_ok ran
    obtain ⟨rfl, rfl⟩ := pure_runFrom_ok ran
    obtain ⟨parts, made, appended, fit, clean, _⟩ := numbered_conditions compiled
    refine ⟨parts, made, appended, ?_, clean⟩
    rw [← fit, List.map_map]
    rfl
  | compile type filter =>
    obtain ⟨cs, middle, compiled, ran⟩ := bind_runFrom_ok ran
    obtain ⟨rfl, rfl⟩ := pure_runFrom_ok ran
    obtain ⟨parts, made, appended, fit, clean, readable⟩ := numbered_conditions compiled
    have whole : Inlined.numbered (values.length + 1) (.join " and " parts) =
        Condition.joinFragments Connective.all.word cs := by
      rw [Inlined.numbered_join, joinFragments_eq, fit]
      rfl
    have joinClean : (Inlined.join " and " parts).Clean := by
      refine Inlined.clean_of_numbered (values.length + 1) ?_
      rw [whole]
      exact Condition.clean_joinFragments .all (Condition.allReadable_iff.2 readable)
    cases parts with
    | nil =>
      obtain rfl : cs = [] := List.map_eq_nil_iff.1 fit
      exact ⟨[], by rw [model, made]; rfl, appended, rfl, by simp⟩
    | cons p rest =>
      have nonempty : cs ≠ [] := by
        rintro rfl
        cases fit
      refine ⟨[.join " and " (p :: rest)], by rw [model, made]; rfl, ?_, ?_, by simpa using joinClean⟩
      · rw [appended, ← Inlined.values_join " and "]
        simp [Inlined.allValues]
      · rw [whereText?, Condition.whereFragment?, if_neg (by simpa using nonempty), Inlined.numberedEach, whole]
        rfl

end Step

theorem placeholders_numbered {parts : List Inlined} (clean : ∀ part ∈ parts, part.Clean) (next : Nat) :
    ((Inlined.numberedEach next parts).map Fragment.sql).flatMap placeholders =
      List.range' next (Inlined.allValues parts).length := by
  rw [← Inlined.slots_numberedEach, List.flatMap_map]
  induction parts generalizing next with
  | nil => rfl
  | cons p rest ih =>
    rw [Inlined.numberedEach, List.flatMap_cons, List.flatMap_cons,
      placeholders_sql (Inlined.clean_numbered (clean p List.mem_cons_self) next),
      ih fun part member => clean part (List.mem_cons_of_mem _ member)]

theorem resolved_each {parts : List Inlined} (clean : ∀ part ∈ parts, part.Clean) (before after : List Value) :
    ((Inlined.numberedEach (before.length + 1) parts).map Fragment.sql).map
        (resolved (before ++ (Inlined.allValues parts ++ after))) = parts.map Inlined.spots := by
  induction parts generalizing before with
  | nil => rfl
  | cons p rest ih =>
    have first := Inlined.resolved_numbered (clean p List.mem_cons_self) before (Inlined.allValues rest ++ after)
    have others := ih (fun part member => clean part (List.mem_cons_of_mem _ member)) (before ++ p.values)
    have whole : before ++ (Inlined.allValues (p :: rest) ++ after) =
        before ++ (p.values ++ (Inlined.allValues rest ++ after)) := by simp [Inlined.allValues]
    rw [List.length_append, Nat.add_right_comm, List.append_assoc] at others
    rw [Inlined.numberedEach, List.map_cons, List.map_cons, whole, first, others]
    rfl

/-! ### Runs -/

/-- One step of a run: the values before and after it, and the texts that it returned unless it failed. -/
structure Turn where
  step : Step
  before : ParameterList
  result : Outcome (List String)
  after : ParameterList

namespace Turn

def numbers (turn : Turn) : List Nat :=
  match turn.result with
  | .ok texts => texts.flatMap placeholders
  | .error _ => []

end Turn

/-- Steps one after the other on one list of values; a failure stops none of those behind it. -/
def trace (values : ParameterList) : List Step → List Turn
  | [] => []
  | step :: rest =>
    let (result, after) := step.build.runFrom values
    ⟨step, values, result, after⟩ :: trace after rest

def finalValues (values : ParameterList) (steps : List Step) : ParameterList :=
  steps.foldl (fun values step => (step.build.runFrom values).2) values

theorem extends_finalValues (values : ParameterList) (steps : List Step) : values <+: finalValues values steps := by
  induction steps generalizing values with
  | nil => exact List.prefix_refl values
  | cons step rest ih => exact (step.extends_build values).trans (ih _)

/-- Every step runs on a list that the run before it has only appended to, and so does the run behind it. -/
theorem trace_turn {values : ParameterList} {steps : List Step} {turn : Turn} (member : turn ∈ trace values steps) :
    turn.step.build.runFrom turn.before = (turn.result, turn.after) ∧ values <+: turn.before ∧
      turn.after <+: finalValues values steps := by
  induction steps generalizing values with
  | nil => cases member
  | cons step rest ih =>
    rcases List.mem_cons.1 member with rfl | later
    · exact ⟨rfl, List.prefix_refl values, extends_finalValues _ rest⟩
    · obtain ⟨ran, kept, grows⟩ := ih later
      exact ⟨ran, (step.extends_build values).trans kept, grows⟩

theorem turn_discipline {step : Step} {values after : ParameterList} {texts : List String}
    (ran : step.build.runFrom values = (.ok texts, after)) :
    texts.flatMap placeholders = List.range' (values.length + 1) (after.length - values.length) ∧
      ∃ parts, step.model = .ok parts ∧ after = values ++ Inlined.allValues parts ∧
        texts.map (resolved after) = parts.map Inlined.spots := by
  obtain ⟨parts, made, appended, written, clean⟩ := step.numbered_build ran
  have count : after.length - values.length = (Inlined.allValues parts).length := by
    rw [appended, List.length_append, Nat.add_sub_cancel_left]
  have placed := resolved_each clean values []
  rw [List.append_nil, ← appended] at placed
  rw [count, written]
  exact ⟨placeholders_numbered clean _, parts, made, appended, placed⟩

theorem turn_numbers {step : Step} {values after : ParameterList} {result : Outcome (List String)}
    (ran : step.build.runFrom values = (result, after)) :
    (Turn.mk step values result after).numbers.Pairwise (· < ·) ∧
      ∀ n ∈ (Turn.mk step values result after).numbers, values.length < n ∧ n ≤ after.length := by
  unfold Turn.numbers
  cases result with
  | error e => simp
  | ok texts =>
    dsimp only
    rw [(turn_discipline ran).1]
    refine ⟨List.pairwise_lt_range', fun n member => ?_⟩
    have grown := (step.extends_build values).length_le
    rw [ran] at grown
    rw [List.mem_range'_1] at member
    dsimp only at grown
    omega

/-- All numbers that are handed out over a run go up, and lie above the values at its start. -/
theorem trace_numbers (values : ParameterList) (steps : List Step) :
    ((trace values steps).flatMap Turn.numbers).Pairwise (· < ·) ∧
      ∀ n ∈ (trace values steps).flatMap Turn.numbers, values.length < n := by
  induction steps generalizing values with
  | nil => simp [trace]
  | cons step rest ih =>
    rcases ran : step.build.runFrom values with ⟨result, after⟩
    obtain ⟨increasing, between⟩ := turn_numbers ran
    obtain ⟨others, above⟩ := ih after
    have grown := (step.extends_build values).length_le
    rw [ran] at grown
    have head : trace values (step :: rest) = ⟨step, values, result, after⟩ :: trace after rest := by
      rw [trace, ran]
    rw [head, List.flatMap_cons]
    constructor
    · refine List.pairwise_append.2 ⟨increasing, others, fun n own m later => ?_⟩
      -- later steps start from a list that this step has left
      have reached := (between n own).2
      have start := above m later
      omega
    · intro n member
      rcases List.mem_append.1 member with own | later
      · exact (between n own).1
      · exact Nat.lt_of_le_of_lt grown (above n later)

/-- The discipline of placeholders. Over a run of any steps, values stay where they are; a step that
succeeds returns texts whose placeholders are the numbers of the values that it appended, in their order, each
standing where its value belongs; and the numbers of the whole run go up. -/
theorem trace_discipline (values : ParameterList) (steps : List Step) :
    (∀ turn ∈ trace values steps,
      values <+: turn.before ∧ turn.before <+: turn.after ∧ turn.after <+: finalValues values steps ∧
        ∀ texts, turn.result = .ok texts →
          texts.flatMap placeholders =
              List.range' (turn.before.length + 1) (turn.after.length - turn.before.length) ∧
            ∃ parts, turn.step.model = .ok parts ∧ turn.after = turn.before ++ Inlined.allValues parts ∧
              texts.map (resolved turn.after) = parts.map Inlined.spots) ∧
      ((trace values steps).flatMap Turn.numbers).Pairwise (· < ·) := by
  refine ⟨fun turn member => ?_, (trace_numbers values steps).1⟩
  obtain ⟨ran, kept, grows⟩ := trace_turn member
  have appends := turn.step.extends_build turn.before
  rw [ran] at appends
  refine ⟨kept, appends, grows, fun texts succeeded => ?_⟩
  rw [succeeded] at ran
  exact turn_discipline ran

/-- An element, a filter that fails at its second field, and a filter that succeeds. -/
def stepsSample : List Step :=
  [.bindElement (.int 3),
    .compile articleSample (.map [(.text "match", .map [(.text "heading", .text "a"), (.text "views", .int 1)])]),
    .compile articleSample (.map [(.text "match", .map [(.text "labels", .text "b")]),
      (.text "not", .map [(.text "match", .map [(.text "slug", .list [.int 5, .null])])])])]

theorem stepsSample_numbers :
    (trace [] stepsSample).map (fun turn => (turn.result.toOption, turn.numbers, turn.after.length)) =
        [(some ["$1::int"], [1], 1), (none, [], 2),
          (some ["\"labels\" @> array[$3] and not (\"slug\" in ($4, $5))"], [3, 4, 5], 5)] ∧
      ((trace [] stepsSample).flatMap Turn.numbers).Pairwise (· < ·) :=
  ⟨rfl, (trace_discipline [] stepsSample).2⟩

end RecordStore.Query
