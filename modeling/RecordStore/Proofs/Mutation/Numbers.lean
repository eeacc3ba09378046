import RecordStore.Proofs.Mutation.Assignments
import RecordStore.Proofs.Query.SearchText

/-!
# The numbers in updates and deletions

An update numbers its values as its parts bind them, while its text has them column by column: the slots of the
assignments are those of the values bound, in another order, and the slot of the key is the last one in both. A
deletion has its keys in their order.
-/

namespace RecordStore.Mutation
open Sql Binding Fragment Query

variable {type : RecordType} {values after : ParameterList}

/-! ### Expressions -/

namespace Expression

/-- The slots that an expression has values from. -/
def slots : Expression → List Slot
  | column _ => []
  | value slot => [slot]
  | concat base items => base.slots ++ [items]
  | append base item => base.slots ++ [item]
  | without base items => base.slots ++ items
  | remove base item => base.slots ++ [item]

theorem slots_fragment (e : Expression) : e.fragment.slots = e.slots.map Slot.number := by
  have around : ∀ opening (inner : Fragment) middle (more : Fragment) closing,
      Fragment.slots (.text opening :: (inner ++ .text middle :: more ++ [.text closing])) =
        inner.slots ++ more.slots := by
    intro opening inner middle more closing
    rw [slots_text, slots_append, slots_append, slots_text]
    exact List.append_nil _
  induction e with
  | column name => rfl
  | value slot => exact slot.slots_fragment
  | concat base items ih => rw [fragment, around, ih, items.slots_fragment, slots, List.map_append]; rfl
  | append base item ih => rw [fragment, around, ih, item.slots_fragment, slots, List.map_append]; rfl
  | without base items ih =>
    rw [fragment, around, ih, slots_ofSlots, slots, List.map_append]
  | remove base item ih => rw [fragment, around, ih, item.slots_fragment, slots, List.map_append]; rfl

theorem worded_around {opening middle closing : String} {inner more : Fragment} (opens : isWording opening.toList = true)
    (between : isWording middle.toList = true) (closes : isWording closing.toList = true) (first : inner.Worded)
    (second : more.Worded) : Worded (.text opening :: (inner ++ .text middle :: more ++ [.text closing])) :=
  worded_cons (wording_closed opens) (worded_append
    (worded_append first (worded_cons (wording_closed between) second)) (worded_text (wording_closed closes)))

theorem worded_fragment {e : Expression} (safe : ∀ slot ∈ e.slots, slot.cast ∈ castTexts) : e.fragment.Worded := by
  have earlier : ∀ {base : Expression} {more : List Slot}, (∀ slot ∈ base.slots ++ more, slot.cast ∈ castTexts) →
      ∀ slot ∈ base.slots, slot.cast ∈ castTexts := fun all slot member => all slot (List.mem_append_left _ member)
  have last : ∀ {slots : List Slot} {slot : Slot}, (∀ s ∈ slots ++ [slot], s.cast ∈ castTexts) → slot.fragment.Worded :=
    fun all => Slot.worded (all _ (by simp))
  induction e with
  | column name => exact worded_text (wording_quoted name)
  | value slot => exact Slot.worded (safe slot List.mem_cons_self)
  | concat base items ih =>
    exact worded_around (by decide +kernel) (by decide +kernel) (by decide +kernel) (ih (earlier safe)) (last safe)
  | append base item ih =>
    exact worded_around (by decide +kernel) (by decide +kernel) (by decide +kernel) (ih (earlier safe)) (last safe)
  | without base items ih =>
    have several := worded_slots fun slot member => safe slot (List.mem_append_right _ member)
    exact worded_around (by decide +kernel) (by decide +kernel) (by decide +kernel) (ih (earlier safe)) several
  | remove base item ih =>
    exact worded_around (by decide +kernel) (by decide +kernel) (by decide +kernel) (ih (earlier safe)) (last safe)

end Expression

/-! ### Assignments -/

namespace Assignments

def slots (assignments : Assignments) : List Slot := assignments.flatMap fun pair => pair.2.slots

/-- Assignments that have every value bound in one place. -/
def Numbers (assignments : Assignments) (values : ParameterList) : Prop :=
  assignments.slots.Perm (slotsFrom 1 values.length)

theorem numbers_nil : Numbers [] [] := List.Perm.refl _

theorem numbers_set {assignments : Assignments} {column : Identifier} {e : Expression} {stored : List Value}
    (numbers : assignments.Numbers values)
    (grown : e.slots = (assignments.current column).slots ++ slotsFrom (values.length + 1) stored.length) :
    (assignments.set column e).Numbers (values ++ stored) := by
  have more := flatMap_set Expression.slots column rfl assignments grown
  have row : slotsFrom 1 values.length ++ slotsFrom (values.length + 1) stored.length =
      slotsFrom 1 (values ++ stored).length := by
    rw [slotsFrom, slotsFrom, ← List.map_append, Nat.add_comm values.length 1, List.range'_append_1, List.length_append]
    rfl
  rw [Numbers, ← row]
  exact more.trans (numbers.append_right _)

theorem numbers_push {assignments next : Assignments} {name value : Value} (numbers : assignments.Numbers values)
    (ran : (push assignments name value).runFrom values = (.ok next, after)) : next.Numbers after := by
  obtain ⟨column, stored, _, _, rfl, rfl⟩ := push_run ran
  refine numbers_set numbers ?_
  split <;> rfl

theorem numbers_pull {assignments next : Assignments} {name value : Value} (numbers : assignments.Numbers values)
    (ran : (pull assignments name value).runFrom values = (.ok next, after)) : next.Numbers after := by
  cases pull_run ran with
  | nothing _ => exact numbers
  | several _ _ _ made =>
    refine numbers_set numbers ?_
    rw [length_mapM made]
    rfl
  | one _ _ _ => exact numbers_set numbers rfl

/-- A column that is replaced twice would keep its last value only; the names in a map differ. -/
theorem numbers_replace {entries : List (Value × Value)} {replaced : Assignments}
    (distinct : entries.Pairwise fun first second => first.1.equals second.1 = false)
    (ran : (entries.foldlM (fun done entry => replace type done entry.1 entry.2) []).runFrom [] =
      (.ok replaced, after)) : replaced.Numbers after := by
  let holds : List (Value × Value) → Assignments → ParameterList → Prop := fun left done values =>
    done.Numbers values ∧ left.Pairwise (fun first second => first.1.equals second.1 = false) ∧
      ∀ entry ∈ left, ∀ column, Identifier.ofValue entry.1 = .ok column → column ∉ done.columns
  have each : ∀ entry left done values next after, holds (entry :: left) done values →
      (replace type done entry.1 entry.2).runFrom values = (.ok next, after) → holds left next after := by
    rintro entry left done values next after ⟨numbers, apart, new⟩ head
    obtain ⟨column, stored, named, _, rfl, rfl⟩ := replace_run head
    obtain ⟨different, others⟩ := List.pairwise_cons.1 apart
    refine ⟨numbers_set numbers ?_, others, fun other member c isNamed inside => ?_⟩
    · rw [current_of_not_mem (new entry List.mem_cons_self column named)]
      rfl
    · rcases mem_columns_set.1 inside with same | before
      · have equal := different other member
        rw [Identifier.ofValue_ok named, Identifier.ofValue_ok isNamed, same] at equal
        simp [Value.equals] at equal
      · exact new other (List.mem_cons_of_mem _ member) c isNamed before
  have start : holds entries [] [] := ⟨numbers_nil, distinct, fun _ _ _ _ inside => by cases inside⟩
  exact (foldlM_run holds each start ran).1

end Assignments

/-! ### The texts -/

/-- The names in a map differ; the names under "replace" are to be written once. -/
def ReplacesOnce (update : Value) : Prop :=
  (part update "replace").Pairwise fun first second => first.1.equals second.1 = false

namespace Update

theorem slots_fragment (update : Update) :
    update.fragment.slots = update.assignments.slots.map Slot.number ++ [update.key.number] := by
  have each : ∀ pair : Identifier × Expression,
      (assignmentFragment pair.1 pair.2).slots = pair.2.slots.map Slot.number := by
    intro pair
    rw [assignmentFragment, slots_text, pair.2.slots_fragment]
  rw [fragment, slots_text, slots_append, slots_text, slots_join, update.key.slots_fragment, List.flatMap_map,
    Assignments.slots, List.map_flatMap]
  exact congrArg (· ++ [update.key.number]) (congrArg (update.assignments.flatMap ·) (funext each))

theorem worded_fragment {update : Update} (safe : ∀ slot ∈ update.assignments.slots, slot.cast ∈ castTexts)
    (key : update.key.cast ∈ castTexts) : update.fragment.Worded := by
  have assignments : (join ", " (update.assignments.map fun pair => assignmentFragment pair.1 pair.2)).Worded := by
    refine worded_join (wording_closed (by decide +kernel)) fun f member => ?_
    obtain ⟨pair, inside, rfl⟩ := List.mem_map.1 member
    have expression := Expression.worded_fragment fun slot own => safe slot (List.mem_flatMap_of_mem inside own)
    exact worded_cons (wording_column pair.1 (by decide +kernel)) expression
  refine worded_cons (wording_around update.table (by decide +kernel) (by decide +kernel)) ?_
  exact worded_append assignments
    (worded_cons (wording_around update.keyColumn (by decide +kernel) (by decide +kernel)) (Slot.worded key))

end Update

/-- The text of an update has every value in one place, and the key in the last. -/
theorem update_numbers {update : Value} {statement : Update} (once : ReplacesOnce update)
    (ran : (Mutation.update type update).runFrom [] = (.ok (some statement), after)) :
    statement.fragment.Worded ∧ ∃ numbers, statement.fragment.slots = numbers ++ [after.length] ∧
      numbers.Perm (List.range' 1 (after.length - 1)) ∧ after.getLast? = some (update.fieldValue type.key.text) := by
  obtain ⟨⟨key, replaced, pushed, pulled, _, _, afterPull, keyed, _, replacing, pushing, pulling, made⟩⟩ := update_run ran
  have first : replaced.Numbers _ := Assignments.numbers_replace once replacing
  have second : pushed.Numbers _ := foldlM_run (fun _ => Assignments.Numbers)
    (fun _ _ _ _ _ _ numbers head => Assignments.numbers_push numbers head) first pushing
  have third : pulled.Numbers afterPull := foldlM_run (fun _ => Assignments.Numbers)
    (fun _ _ _ _ _ _ numbers head => Assignments.numbers_pull numbers head) second pulling
  split at made
  · cases made.1
  · obtain ⟨some, rfl⟩ := made
    cases some
    have safe : ∀ slot ∈ pulled.slots, slot.cast ∈ castTexts := fun slot member =>
      safe_slotsFrom _ _ slot (third.mem_iff.1 member)
    refine ⟨Update.worded_fragment safe (by simp [castTexts]), pulled.slots.map Slot.number, ?_, ?_, ?_⟩
    · rw [Update.slots_fragment, List.length_append]
      rfl
    · rw [List.length_append, List.length_singleton, Nat.add_sub_cancel, ← map_number_slotsFrom]
      exact third.map _
    · rw [keyed, List.getLast?_concat]

/-- A deletion has no keys only where none are given. Otherwise it binds each of them. -/
theorem delete_parts {keys : Value} {statement : Delete}
    (ran : (Mutation.delete type keys).runFrom values = (.ok (some statement), after)) :
    (keys.isNull ∧ statement = ⟨type.name, type.key, none⟩ ∧ after = values) ∨ ∃ items stored, keys.elements = .ok items ∧
      items.mapM Value.encoded = .ok stored ∧ after = values ++ stored ∧
      statement = ⟨type.name, type.key, some (slotsFrom (values.length + 1) items.length)⟩ := by
  unfold Mutation.delete at ran
  split at ran
  · rename_i null
    obtain ⟨some, rfl⟩ := pure_runFrom_ok ran
    exact .inl ⟨null, (Option.some.inj some).symm, rfl⟩
  · split at ran
    · obtain ⟨some, _⟩ := pure_runFrom_ok ran
      cases some
    · obtain ⟨items, _, listed, ran⟩ := bind_runFrom_ok ran
      obtain ⟨elements, rfl⟩ := misuse_runFrom_ok listed
      obtain ⟨slots, _, bound, ran⟩ := bind_runFrom_ok ran
      obtain ⟨some, rfl⟩ := pure_runFrom_ok ran
      obtain ⟨stored, made, rfl, rfl⟩ := mapM_bindEncoded bound
      exact .inr ⟨items, stored, elements, made, rfl, (Option.some.inj some).symm⟩

theorem worded_delete {keys : Value} {statement : Delete}
    (ran : (Mutation.delete type keys).runFrom values = (.ok (some statement), after)) : statement.fragment.Worded := by
  have words : Wording ("delete from " ++ type.name.quoted) :=
    wording_append (wording_closed (by decide +kernel)) (wording_quoted type.name)
  rcases delete_parts ran with ⟨_, rfl, _⟩ | ⟨items, _, _, _, _, rfl⟩
  · exact worded_text words
  · have test : (Test.oneOf type.key (slotsFrom (values.length + 1) items.length)).fragment.Worded :=
      Test.worded (safe_slotsFrom _ _)
    exact worded_cons words (worded_cons (wording_closed (by decide +kernel)) test)

theorem delete_numbers {keys : Value} {statement : Delete}
    (ran : (Mutation.delete type keys).runFrom [] = (.ok (some statement), after)) :
    statement.fragment.Worded ∧ statement.fragment.slots = List.range' 1 after.length := by
  refine ⟨worded_delete ran, ?_⟩
  rcases delete_parts ran with ⟨_, rfl, rfl⟩ | ⟨items, stored, _, made, grown, rfl⟩
  · rfl
  · change (Test.oneOf type.key _).fragment.slots = _
    rw [grown, slots_oneOf, map_number_slotsFrom, List.nil_append, ← length_mapM made]
    rfl

end RecordStore.Mutation
