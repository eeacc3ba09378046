import RecordStore.Proofs.Error.Outcome
import RecordStore.Proofs.Query.Filter
import RecordStore.Proofs.Sql.Binding
import RecordStore.Proofs.Sql.Numbering
import RecordStore.Proofs.Value.Access

/-!
# Filters with values in their places

`filterParts` writes the conditions of a filter with every value standing where it belongs, and knows of no
numbers. `writes_conditions` shows that compiling appends exactly these values, in their order, and that the
text of the conditions is this one with its values numbered on from the list.
-/

namespace RecordStore.Query
open Sql Binding

/-! ### Texts with values -/

def castParts (cast : String) : Inlined := if cast.isEmpty then [] else [.text cast]

def encodedPart (v : Value) : Outcome Inlined := do return [.value (← v.encoded)]

def elementPart (v : Value) : Outcome Inlined := do return .value (← v.encoded) :: castParts (elementCast v)

def around (before : String) (inside : Inlined) (after : String) : Inlined := .text before :: (inside ++ [.text after])

def matchParts (type : RecordType) (name value : Value) : Outcome Inlined := do
  let (column, field) ← type.column name
  if field.isArray then
    match value.sequence?.getD [value] with
    | [] => return [.text "true"]
    | values => return around (column.quoted ++ " @> array[") (.join ", " (← values.mapM elementPart)) "]"
  else
    match value.sequence? with
    | some [] => return [.text "false"]
    | some values => return around (column.quoted ++ " in (") (.join ", " (← values.mapM encodedPart)) ")"
    | none => return .text (column.quoted ++ " = ") :: (← encodedPart value)

def endParts (bound : Value) (before : String) : Outcome (List Inlined) :=
  if bound.isNull then return [] else do return [.text before :: (← encodedPart bound)]

def rangeParts (type : RecordType) (name bounds : Value) : Outcome (List Inlined) := do
  let (lower, upper) ← rangeEnds name bounds
  let (column, field) ← type.column name
  let operand : Operand := ⟨column, field.isArray⟩
  let least ← endParts lower (operand.text ++ " >= ")
  let most ← endParts upper (operand.text ++ " <= ")
  return least ++ most

def existsParts (type : RecordType) (name wanted : Value) : Outcome Inlined := do
  let (column, field) ← type.column name
  return if field.isArray then [.text (lengthText column ++ if wanted.holds then " > 0" else " = 0")]
    else [.text (column.quoted ++ if wanted.holds then " is not null" else " is null")]

def containsParts (type : RecordType) (name value : Value) : Outcome Inlined := do
  let field ← type.field name
  let column ← Identifier.ofValue name
  let pattern : Inlined := [.value (.text ("%" ++ value.shown ++ "%"))]
  return if field.isArray then
      around ("exists (select 1 from unnest(" ++ column.quoted ++ ") as x where x::text ilike ") pattern ")"
    else .text (column.quoted ++ " ilike ") :: pattern

def eachEntryParts (rule : Value → Value → Outcome (List Inlined)) (v : Value) : Outcome (List Inlined) := do
  let entries ← v.entries
  let parts ← entries.mapM fun (name, value) => rule name value
  return parts.flatten

/-- The texts of an operator that tests columns. -/
def columnParts (type : RecordType) : Operator → Option (Value → Outcome (List Inlined))
  | .fits => some (eachEntryParts fun name value => do return [← matchParts type name value])
  | .within => some (eachEntryParts (rangeParts type))
  | .present => some (eachEntryParts fun name value => do return [← existsParts type name value])
  | .contains => some (eachEntryParts fun name value => do return [← containsParts type name value])
  | _ => none

def joinedParts (connective : Connective) (parts : List Inlined) : List Inlined :=
  if parts.isEmpty then [] else [around "(" (.join connective.word parts) ")"]

/-- Texts that stand for one: a single one stands for itself. -/
def groupParts : List Inlined → List Inlined
  | [] => []
  | [part] => [part]
  | parts => joinedParts .all parts

def operatorParts (type : RecordType) (operator : Operator) (v : Value) (children inner : Outcome (List Inlined)) :
    Outcome (List Inlined) :=
  if v.isNull then return []
  else
    match columnParts type operator, operator with
    | some rule, _ => rule v
    | none, .either => do return joinedParts .any (← children)
    | none, .negation => do return (groupParts (← inner)).map (around "not (" · ")")
    | none, _ => do return joinedParts .all (← children)

section Filters
variable (type : RecordType)

mutual

/-- The texts of a filter, all of which have to hold. -/
def filterParts : Value → Outcome (List Inlined)
  | .map entries => entryParts entries
  | v => if v.holds then throw (.ofMisuse (.notMap v.shape)) else return []

def entryParts : List (Value × Value) → Outcome (List Inlined)
  | [] => return []
  | (key, v) :: rest => do
    let operator ← Operator.ofValue key
    let first ← operatorParts type operator v (childParts v) (filterParts v)
    let others ← entryParts rest
    return first ++ others

def childParts : Value → Outcome (List Inlined)
  | .map entries => do return groupParts (← entryParts entries)
  | .list items => itemParts items
  | .tuple items => itemParts items
  | v => do
    let items ← v.elements
    match items.find? (·.holds) with
    | some item => throw (.ofMisuse (.notMap item.shape))
    | none => return []

def itemParts : List Value → Outcome (List Inlined)
  | [] => return []
  | v :: rest => do
    let first ← filterParts v
    let others ← itemParts rest
    return groupParts first ++ others

end

end Filters

/-! ### Runs that write what the texts say -/

section Writes
variable {α β γ δ : Type}

/-- Every successful run appends the values of what is modelled, and its result fits the model as numbered
from the first new value. -/
def Writes (fits : Nat → α → β → Prop) (valuesOf : β → List Value) (build : Binding α) (model : Outcome β) : Prop :=
  ∀ values a after, build.runFrom values = (.ok a, after) →
    ∃ b, model = .ok b ∧ after = values ++ valuesOf b ∧ fits (values.length + 1) a b

abbrev WritesOne (fragment : α → Fragment) (build : Binding α) (model : Outcome Inlined) : Prop :=
  Writes (fun next a part => fragment a = part.numbered next) Inlined.values build model

abbrev WritesAll (fragment : α → Fragment) (build : Binding (List α)) (model : Outcome (List Inlined)) : Prop :=
  Writes (fun next as parts => as.map fragment = Inlined.numberedEach next parts) Inlined.allValues build model

variable {fits : Nat → α → β → Prop} {valuesOf : β → List Value} {fitsNext : Nat → γ → δ → Prop}
  {valuesOfNext : δ → List Value}

theorem writes_pure {a : α} {b : β} (noValues : valuesOf b = []) (fit : ∀ next, fits next a b) :
    Writes fits valuesOf (pure a) (pure b) := by
  intro values c after ran
  obtain ⟨rfl, rfl⟩ := pure_runFrom_ok ran
  exact ⟨b, rfl, by rw [noValues, List.append_nil], fit _⟩

theorem writes_outcome {ε : Type} {result : Outcome ε} {f : ε → Binding α} {g : ε → Outcome β}
    (h : ∀ c, Writes fits valuesOf (f c) (g c)) :
    Writes fits valuesOf (ofOutcome result >>= f) (result >>= g) := by
  intro values a after ran
  obtain ⟨c, middle, ranFirst, ranNext⟩ := bind_runFrom_ok ran
  obtain ⟨rfl, rfl⟩ := outcome_runFrom_ok ranFirst
  exact h c values a after ranNext

theorem writes_adapter {ε : Type} {result : Except AdapterError ε} {f : ε → Binding α} {g : ε → Outcome β}
    (h : ∀ c, Writes fits valuesOf (f c) (g c)) :
    Writes fits valuesOf (liftM result >>= f) (liftM result >>= g) :=
  writes_outcome h

theorem writes_misuse {ε : Type} {result : Except Misuse ε} {f : ε → Binding α} {g : ε → Outcome β}
    (h : ∀ c, Writes fits valuesOf (f c) (g c)) :
    Writes fits valuesOf (liftM result >>= f) (liftM result >>= g) :=
  writes_outcome h

theorem writes_map {build : Binding α} {model : Outcome β} {f : α → γ} {g : β → δ}
    (h : Writes fits valuesOf build model) (same : ∀ b, valuesOfNext (g b) = valuesOf b)
    (fit : ∀ next a b, fits next a b → fitsNext next (f a) (g b)) :
    Writes fitsNext valuesOfNext (build >>= fun a => pure (f a)) (model >>= fun b => pure (g b)) := by
  intro values c after ran
  obtain ⟨a, middle, ranFirst, ranNext⟩ := bind_runFrom_ok ran
  obtain ⟨rfl, rfl⟩ := pure_runFrom_ok ranNext
  obtain ⟨b, rfl, rfl, fitted⟩ := h values a middle ranFirst
  exact ⟨g b, rfl, by rw [same], fit _ a b fitted⟩

variable {fragment : α → Fragment}

theorem writes_append {first second : Binding (List α)} {firstModel secondModel : Outcome (List Inlined)}
    (h : WritesAll fragment first firstModel) (next : WritesAll fragment second secondModel) :
    WritesAll fragment (first >>= fun as => second >>= fun bs => pure (as ++ bs))
      (firstModel >>= fun ps => secondModel >>= fun qs => pure (ps ++ qs)) := by
  intro values c after ran
  obtain ⟨as, middle, ranFirst, ran⟩ := bind_runFrom_ok ran
  obtain ⟨bs, last, ranSecond, ran⟩ := bind_runFrom_ok ran
  obtain ⟨rfl, rfl⟩ := pure_runFrom_ok ran
  obtain ⟨ps, rfl, rfl, fit⟩ := h values as middle ranFirst
  obtain ⟨qs, rfl, rfl, more⟩ := next _ bs last ranSecond
  refine ⟨ps ++ qs, rfl, ?_, ?_⟩
  · rw [Inlined.allValues_append, List.append_assoc]
  · dsimp only
    rw [List.map_append, Inlined.numberedEach_append, fit, more, List.length_append, Nat.add_right_comm]

theorem writes_single {build : Binding α} {model : Outcome Inlined} (h : WritesOne fragment build model) :
    WritesAll fragment (build >>= fun a => pure [a]) (model >>= fun p => pure [p]) :=
  writes_map h (fun p => by simp [Inlined.allValues])
    fun next a p fit => by rw [List.map_cons, fit]; rfl

theorem writes_flatten {f : ε → Binding (List α)} {g : ε → Outcome (List Inlined)} {as : List ε}
    (h : ∀ a ∈ as, WritesAll fragment (f a) (g a)) :
    WritesAll fragment (as.mapM f >>= fun bs => pure bs.flatten) (as.mapM g >>= fun ps => pure ps.flatten) := by
  induction as with
  | nil => exact writes_pure rfl fun _ => rfl
  | cons a rest ih =>
    have whole := writes_append (h a List.mem_cons_self) (ih fun a ha => h a (List.mem_cons_of_mem _ ha))
    simpa [List.mapM_cons] using whole

theorem writes_mapM {f : ε → Binding α} {g : ε → Outcome Inlined} {as : List ε}
    (h : ∀ a ∈ as, WritesOne fragment (f a) (g a)) : WritesAll fragment (as.mapM f) (as.mapM g) := by
  induction as with
  | nil => exact writes_pure rfl fun _ => rfl
  | cons a rest ih =>
    have first := writes_single (h a List.mem_cons_self)
    have whole := writes_append first (ih fun a ha => h a (List.mem_cons_of_mem _ ha))
    simpa [List.mapM_cons] using whole

end Writes

/-! ### Tests -/

variable {type : RecordType}

theorem numbered_around (next : Nat) (before : String) (inside : Inlined) (after : String) :
    (around before inside after).numbered next = .text before :: (inside.numbered next ++ [.text after]) := by
  rw [around, Inlined.numbered, Inlined.numbered_append]
  rfl

theorem values_around (before : String) (inside : Inlined) (after : String) :
    (around before inside after).values = inside.values := by
  rw [around, Inlined.values, Inlined.values_append]
  exact List.append_nil _

theorem writes_bind (v : Value) (cast : String) :
    WritesOne Slot.fragment (Sql.bind v cast) (pure (.value v :: castParts cast)) := by
  intro values slot after ran
  cases ran
  unfold Slot.fragment castParts
  dsimp only
  cases cast.isEmpty <;> exact ⟨_, rfl, rfl, rfl⟩

theorem writes_bindEncoded (v : Value) : WritesOne Slot.fragment (bindEncoded v) (encodedPart v) :=
  writes_misuse fun stored => writes_bind stored ""

theorem writes_bindElement (v : Value) : WritesOne Slot.fragment (bindElement v) (elementPart v) :=
  writes_misuse fun stored => writes_bind stored (elementCast v)

theorem writes_around {slots : Binding (List Slot)} {model : Outcome (List Inlined)}
    (h : WritesAll Slot.fragment slots model) {before after : String} {test : List Slot → Test}
    (written : ∀ slots, (test slots).fragment = .text before :: (Fragment.ofSlots slots ++ [.text after])) :
    WritesOne Test.fragment (slots >>= fun slots => pure (test slots))
      (model >>= fun parts => pure (around before (.join ", " parts) after)) := by
  refine writes_map h (fun parts => ?_) fun next slots parts fit => ?_
  · rw [values_around, Inlined.values_join]
  · rw [written, numbered_around, Inlined.numbered_join, ← fit]
    rfl

theorem writes_slotLast {slot : Binding Slot} {model : Outcome Inlined} (h : WritesOne Slot.fragment slot model)
    {before : String} {test : Slot → Test} (written : ∀ slot, (test slot).fragment = .text before :: slot.fragment) :
    WritesOne Test.fragment (slot >>= fun slot => pure (test slot))
      (model >>= fun part => pure (.text before :: part)) := by
  refine writes_map h (fun part => rfl) fun next slot part fit => ?_
  rw [written, fit]
  rfl

theorem writes_matchTest (name value : Value) :
    WritesOne Test.fragment (matchTest type name value) (matchParts type name value) := by
  refine writes_adapter fun (column, field) => ?_
  dsimp only
  cases field.isArray with
  | true =>
    rw [if_pos rfl, if_pos rfl]
    generalize value.sequence?.getD [value] = items
    cases items with
    | nil => exact writes_pure rfl fun _ => rfl
    | cons v rest => exact writes_around (writes_mapM fun v _ => writes_bindElement v) fun _ => rfl
  | false =>
    rw [if_neg (by simp), if_neg (by simp)]
    cases value.sequence? with
    | none => exact writes_slotLast (writes_bindEncoded value) fun _ => rfl
    | some items =>
      cases items with
      | nil => exact writes_pure rfl fun _ => rfl
      | cons v rest => exact writes_around (writes_mapM fun v _ => writes_bindEncoded v) fun _ => rfl

theorem writes_rangeEnd (bound : Value) {test : Slot → Test} {before : String}
    (written : ∀ slot, (test slot).fragment = .text before :: slot.fragment) :
    WritesAll Test.fragment (rangeEnd bound test) (endParts bound before) := by
  unfold rangeEnd endParts
  cases bound.isNull with
  | true => exact writes_pure rfl fun _ => rfl
  | false =>
    have single := writes_single (writes_slotLast (writes_bindEncoded bound) written)
    simpa using single

theorem writes_rangeTests (name bounds : Value) :
    WritesAll Test.fragment (rangeTests type name bounds) (rangeParts type name bounds) := by
  rw [rangeTests_eq]
  refine writes_outcome fun (lower, upper) => writes_adapter fun (column, field) => ?_
  exact writes_append (writes_rangeEnd lower fun _ => rfl) (writes_rangeEnd upper fun _ => rfl)

theorem writes_existsTest (name wanted : Value) :
    WritesOne Test.fragment (liftM (existsTest type name wanted)) (existsParts type name wanted) := by
  intro values t after ran
  obtain ⟨made, rfl⟩ := adapter_runFrom_ok ran
  obtain ⟨⟨column, field⟩, found, made⟩ := bind_ok made
  unfold existsParts
  rw [found, ← pure_ok made]
  refine ⟨_, rfl, ?_⟩
  dsimp only
  cases field.isArray <;> cases wanted.holds <;> exact ⟨(List.append_nil _).symm, rfl⟩

theorem writes_containsTest (name value : Value) :
    WritesOne Test.fragment (containsTest type name value) (containsParts type name value) := by
  refine writes_adapter fun field => writes_adapter fun column => ?_
  intro values t after ran
  obtain ⟨shown, middle, ranShown, ran⟩ := bind_runFrom_ok ran
  obtain ⟨written, rfl⟩ := misuse_runFrom_ok ranShown
  obtain rfl := Value.shownText_ok written
  obtain ⟨slot, middle, bound, ran⟩ := bind_runFrom_ok ran
  obtain ⟨rfl, rfl⟩ := pure_runFrom_ok ran
  cases bound
  dsimp only
  cases field.isArray <;> exact ⟨_, rfl, rfl, rfl⟩

theorem writes_eachEntry {rule : Value → Value → Binding (List Test)} {model : Value → Value → Outcome (List Inlined)}
    (h : ∀ name value, WritesAll Test.fragment (rule name value) (model name value)) (v : Value) :
    WritesAll Condition.fragment (eachEntry rule v) (eachEntryParts model v) := by
  refine writes_misuse fun entries => ?_
  have tests : WritesAll Test.fragment
      ((entries.mapM fun (name, value) => rule name value) >>= fun tests => pure tests.flatten)
      ((entries.mapM fun (name, value) => model name value) >>= fun parts => pure parts.flatten) :=
    writes_flatten fun e _ => h e.1 e.2
  intro values cs after ran
  obtain ⟨found, middle, ranTests, ranMap⟩ := bind_runFrom_ok ran
  obtain ⟨rfl, rfl⟩ := pure_runFrom_ok ranMap
  obtain ⟨parts, made, appended, fit⟩ := tests values found.flatten middle (by rw [runFrom_bind_of_ok ranTests]; rfl)
  refine ⟨parts, made, appended, ?_⟩
  dsimp only at fit ⊢
  rw [← fit, List.map_map]
  rfl

theorem writes_columnConditions {operator : Operator} {compile : Value → Binding (List Condition)}
    (h : columnConditions type operator = some compile) (v : Value) :
    ∃ rule, columnParts type operator = some rule ∧ WritesAll Condition.fragment (compile v) (rule v) := by
  obtain ⟨rule, column, rfl⟩ := columnConditions_rule h
  cases column with
  | fits => exact ⟨_, rfl, writes_eachEntry (fun name value => writes_single (writes_matchTest name value)) v⟩
  | within => exact ⟨_, rfl, writes_eachEntry writes_rangeTests v⟩
  | present => exact ⟨_, rfl, writes_eachEntry (fun name value => writes_single (writes_existsTest name value)) v⟩
  | contains => exact ⟨_, rfl, writes_eachEntry (fun name value => writes_single (writes_containsTest name value)) v⟩

/-! ### Filters -/

theorem joinFragments_eq (word : String) (cs : List Condition) :
    Condition.joinFragments word cs = Fragment.join word (cs.map Condition.fragment) := by
  induction cs with
  | nil => rfl
  | cons c rest ih =>
    cases rest with
    | nil => rfl
    | cons d rest =>
      rw [Condition.joinFragments, ih]
      · rfl
      · simp

theorem allValues_joined (connective : Connective) (parts : List Inlined) :
    Inlined.allValues (joinedParts connective parts) = Inlined.allValues parts := by
  unfold joinedParts
  split
  · rename_i none
    rw [List.isEmpty_iff.1 none]
  · simp [Inlined.allValues, values_around, Inlined.values_join]

theorem numbered_joined (connective : Connective) {next : Nat} {cs : List Condition} {parts : List Inlined}
    (fit : cs.map Condition.fragment = Inlined.numberedEach next parts) :
    (Condition.joined? connective cs).map Condition.fragment =
      Inlined.numberedEach next (joinedParts connective parts) := by
  cases parts with
  | nil =>
    rw [List.map_eq_nil_iff.1 fit]
    rfl
  | cons p rest =>
    cases cs with
    | nil => cases fit
    | cons c cs =>
      have inside := congrArg (Fragment.join connective.word) fit
      rw [← joinFragments_eq, ← Inlined.numbered_join] at inside
      change [Condition.fragment (.joined connective (c :: cs))] =
        [(around "(" (.join connective.word (p :: rest)) ")").numbered next]
      rw [Condition.fragment, inside, numbered_around]

theorem writes_joined {build : Binding (List Condition)} {model : Outcome (List Inlined)}
    (h : WritesAll Condition.fragment build model) (connective : Connective) :
    WritesAll Condition.fragment (build >>= fun cs => pure (Condition.joined? connective cs))
      (model >>= fun parts => pure (joinedParts connective parts)) :=
  writes_map h (allValues_joined connective) fun _ _ _ fit => numbered_joined connective fit

theorem allValues_group (parts : List Inlined) : Inlined.allValues (groupParts parts) = Inlined.allValues parts := by
  unfold groupParts
  split
  · rfl
  · rfl
  · exact allValues_joined .all _

theorem numbered_group {next : Nat} {cs : List Condition} {parts : List Inlined}
    (fit : cs.map Condition.fragment = Inlined.numberedEach next parts) :
    (Condition.conjunction? cs).toList.map Condition.fragment = Inlined.numberedEach next (groupParts parts) := by
  match cs, parts with
  | [], [] => rfl
  | [c], [p] => exact fit
  | c :: d :: cs, p :: q :: parts => exact numbered_joined .all fit
  | [], _ :: _ => cases fit
  | _ :: _, [] => cases fit
  | [_], _ :: _ :: _ => simp [Inlined.numberedEach] at fit
  | _ :: _ :: _, [_] => simp [Inlined.numberedEach] at fit

theorem writes_group {build : Binding (List Condition)} {model : Outcome (List Inlined)}
    (h : WritesAll Condition.fragment build model) :
    WritesAll Condition.fragment (build >>= fun cs => pure (Condition.conjunction? cs).toList)
      (model >>= fun parts => pure (groupParts parts)) :=
  writes_map h allValues_group fun _ _ _ fit => numbered_group fit

theorem allValues_negated (parts : List Inlined) :
    Inlined.allValues (parts.map (around "not (" · ")")) = Inlined.allValues parts := by
  simp [Inlined.allValues, List.flatMap_map, values_around]

theorem numbered_negated {next : Nat} {cs : List Condition} {parts : List Inlined}
    (fit : cs.map Condition.fragment = Inlined.numberedEach next parts) :
    (cs.map Condition.negated).map Condition.fragment =
      Inlined.numberedEach next (parts.map (around "not (" · ")")) := by
  induction parts generalizing next cs with
  | nil =>
    rw [List.map_eq_nil_iff.1 fit]
    rfl
  | cons p rest ih =>
    cases cs with
    | nil => cases fit
    | cons c cs =>
      rw [List.map_cons, Inlined.numberedEach, List.cons.injEq] at fit
      rw [List.map_cons, List.map_cons, List.map_cons, Inlined.numberedEach, values_around, ih fit.2, numbered_around,
        Condition.fragment, fit.1]

theorem writes_negated {build : Binding (List Condition)} {model : Outcome (List Inlined)}
    (h : WritesAll Condition.fragment build model) :
    WritesAll Condition.fragment (build >>= fun cs => pure ((Condition.conjunction? cs).map .negated).toList)
      (model >>= fun parts => pure ((groupParts parts).map (around "not (" · ")"))) := by
  refine writes_map h (fun parts => ?_) fun next cs parts fit => ?_
  · rw [allValues_negated, allValues_group]
  · rw [Option.toList_map]
    exact numbered_negated (numbered_group fit)

theorem writes_operator (operator : Operator) {v : Value} {childModel innerModel : Outcome (List Inlined)}
    (child : WritesAll Condition.fragment (children type v) childModel)
    (inner : WritesAll Condition.fragment (conditions type v) innerModel) :
    WritesAll Condition.fragment (operatorConditions type operator v)
      (operatorParts type operator v childModel innerModel) := by
  have nothing : WritesAll Condition.fragment (pure []) (pure []) := writes_pure rfl fun _ => rfl
  have columns : ∀ {compile}, columnConditions type operator = some compile →
      ∃ rule, columnParts type operator = some rule ∧ WritesAll Condition.fragment (compile v) (rule v) :=
    fun h => writes_columnConditions h v
  unfold operatorConditions operatorParts
  cases v.isNull with
  | true => exact nothing
  | false =>
    rw [if_neg (by simp), if_neg (by simp)]
    cases operator with
    | every => exact writes_joined child .all
    | either => exact writes_joined child .any
    | negation => exact writes_negated inner
    | _ =>
      obtain ⟨rule, found, writes⟩ := columns rfl
      cases found
      exact writes

theorem writes_emptyFilters {items : List Value} : WritesAll Condition.fragment (emptyFilters items)
    (match items.find? (·.holds) with
    | some item => throw (.ofMisuse (.notMap item.shape))
    | none => pure []) := by
  induction items with
  | nil => exact writes_pure rfl fun _ => rfl
  | cons v rest ih =>
    rw [emptyFilters]
    cases holds : v.holds with
    | true =>
      intro values cs after ran
      cases ran
    | false =>
      rw [List.find?_cons_of_neg (by simp [holds])]
      exact ih

/-- Compiling a filter appends the values that stand in its texts, and numbers them. -/
theorem writes_conditions (type : RecordType) :
    (∀ v, WritesAll Condition.fragment (conditions type v) (filterParts type v)) ∧
      (∀ entries, WritesAll Condition.fragment (entryConditions type entries) (entryParts type entries)) ∧
      (∀ v, WritesAll Condition.fragment (children type v) (childParts type v)) ∧
      (∀ items, WritesAll Condition.fragment (childConditions type items) (itemParts type items)) := by
  have nothing : WritesAll Condition.fragment (pure []) (pure []) := writes_pure rfl fun _ => rfl
  apply conditions.mutual_induct
  case case1 =>
    intro entries ih
    rwa [conditions, filterParts]
  case case2 =>
    intro v noMap holds values cs after ran
    rw [conditions_other noMap, if_pos holds] at ran
    cases ran
  case case3 =>
    intro v noMap empty
    rw [conditions_other noMap, if_neg empty, filterParts, if_neg empty]
    · exact nothing
    · exact noMap
  case case4 =>
    intro entries ih
    rw [children, childParts]
    exact writes_group ih
  case case5 =>
    intro items ih
    rwa [children, childParts]
  case case6 =>
    intro items ih
    rwa [children, childParts]
  case case7 =>
    intro v noMap noList noTuple
    rw [children_other noMap noList noTuple, childParts]
    · exact writes_misuse fun items => writes_emptyFilters
    · exact noMap
    · exact noList
    · exact noTuple
  case case8 => rwa [childConditions, itemParts]
  case case9 =>
    intro v rest ih ihRest
    rw [childConditions, itemParts]
    have whole := writes_append (writes_group ih) ihRest
    simpa using whole
  case case10 => rwa [entryConditions, entryParts]
  case case11 =>
    intro key v rest ihRest ihChildren ihInner
    rw [entryConditions_cons, entryParts]
    exact writes_adapter fun operator => writes_append (writes_operator operator ihChildren ihInner) ihRest

end RecordStore.Query
