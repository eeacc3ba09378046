import RecordStore.Adapter.Change
import RecordStore.Proofs.Mutation.UpdateText

/-!
# What updates do to rows

The store evaluates every expression of an update on the row as it was. An update by itself asks for its replaced
values first, then for what is pushed, then for what is pulled. Running the statement is doing these one after the other.
-/

namespace RecordStore.Mutation
open Sql Binding

/-! ### Arrays of the store -/

/-- The elements of an array, where null has none; other values are no arrays. -/
def array? : Value → Option (Option (List Value))
  | .null => some none
  | .list items => some (some items)
  | _ => none

def arrayCat (first second : Value) : Option Value := do
  match ← array? first, ← array? second with
  | none, _ => return second
  | some _, none => return first
  | some xs, some ys => return .list (xs ++ ys)

def arrayAppend (array item : Value) : Option Value := do
  return .list ((← array? array).getD [] ++ [item])

section Equality
variable (same : Value → Value → Bool)

/-- Whether two values are equal, which is unknown where one of them is null. -/
def equality (a b : Value) : Truth :=
  if a.isNull || b.isNull then .unknown else if same a b then .yes else .no

/-- Whether two values are not distinct; null is not distinct from null. -/
def notDistinct (a b : Value) : Bool := if a.isNull || b.isNull then a.isNull && b.isNull else same a b

def isIn (v : Value) (items : List Value) : Truth := items.foldr (fun w t => (equality same v w).either t) .no

def arrayRemove (array item : Value) : Option Value := do
  match ← array? array with
  | none => return .null
  | some xs => return .list (xs.filter fun x => !notDistinct same x item)

/-- The elements of an array that are known not to be in a list. -/
def arrayWithout (array : Value) (items : List Value) : Option Value := do
  return .list (((← array? array).getD []).filter fun x => (isIn same x items).opposite = .yes)

end Equality

/-! ### Running statements -/

/-- What a stored row holds in its columns, by their names. -/
abbrev Row := String → Value

namespace Row

def set (row : Row) (column : String) (v : Value) : Row := fun name => if name = column then v else row name

theorem set_same (row : Row) (column : String) (v : Value) : row.set column v column = v := if_pos rfl

theorem set_other (row : Row) {column name : String} (v : Value) (other : name ≠ column) :
    row.set column v name = row name := if_neg other

theorem set_self (row : Row) (column : String) : row.set column (row column) = row := by
  funext name
  by_cases same : name = column
  · rw [same, set_same]
  · exact set_other row _ same

end Row

/-- The value that a slot names. -/
def slotValue (params : List Value) (slot : Slot) : Option Value :=
  match slot.number with
  | 0 => none
  | n + 1 => params[n]?

section Running
variable (same : Value → Value → Bool) (params : List Value) (row : Row)

/-- The value of an expression on a row; there is none where the store refuses it. -/
def Expression.evaluate : Expression → Option Value
  | column name => some (row name.text)
  | value slot => slotValue params slot
  | concat base items => do arrayCat (← base.evaluate) (← slotValue params items)
  | append base item => do arrayAppend (← base.evaluate) (← slotValue params item)
  | without base items => do arrayWithout same (← base.evaluate) (← items.mapM (slotValue params))
  | remove base item => do arrayRemove same (← base.evaluate) (← slotValue params item)

/-- The row after an update: the columns that are set get their values if the row has the key. A column is set at
most once. -/
def Update.execute (update : Update) : Option Row := do
  let key ← slotValue params update.key
  if equality same (row update.keyColumn.text) key = .yes then
    if update.assignments.columns.Nodup then
      let set ← update.assignments.mapM fun (column, e) => (e.evaluate same params row).map (column.text, ·)
      return fun name => (set.lookup name).getD (row name)
    else none
  else return row

end Running

/-! ### What is asked for -/

def stored (v : Value) : Value := v.encoded.toOption.getD .null

/-- What a column is replaced with. -/
def storedWhole (v : Value) : Value :=
  match v.sequence? with
  | some items => .list (items.map stored)
  | none => stored v

/-- What is pushed or pulled: the elements of a list, or a value by itself. -/
def storedItems (v : Value) : List Value :=
  match v.sequence? with
  | some items => items.map stored
  | none => [stored v]

def listItems : Value → List Value
  | .list items => items
  | _ => []

def pushed (old v : Value) : Value := .list (listItems old ++ storedItems v)

def pulled (same : Value → Value → Bool) (old v : Value) : Value :=
  .list ((listItems old).filter fun x => !(storedItems v).any (same x))

/-- The row with the column of an entry changed. -/
def changeColumn (change : Value → Value → Value) (row : Row) (entry : Value × Value) : Row :=
  match entry.1 with
  | .text (.whole column) => row.set column (change (row column) entry.2)
  | _ => row

def rowReplaced (update : Value) (row : Row) : Row :=
  (part update "replace").foldl (changeColumn fun _ v => storedWhole v) row

def rowPushed (update : Value) (row : Row) : Row :=
  (part update "push").foldl (changeColumn pushed) (rowReplaced update row)

def rowPulled (same : Value → Value → Bool) (update : Value) (row : Row) : Row :=
  (part update "pull").foldl (changeColumn (pulled same)) (rowPushed update row)

/-- Updates that fit a row: columns are lists when something is pushed or pulled, null is not pulled, and it does
not stand in a list that something is pulled from. -/
structure Fits (update : Value) (row : Row) : Prop where
  pushing : ∀ (column : String) v, (.text column, v) ∈ part update "push" →
    ∃ items, rowReplaced update row column = .list items
  pulling : ∀ (column : String) v, (.text column, v) ∈ part update "pull" →
    ∃ items, rowPushed update row column = .list items ∧ .null ∉ items
  known : ∀ entry ∈ part update "pull", entry.2 ≠ .null ∧ ∀ items, entry.2.sequence? = some items → .null ∉ items

/-! ### Expressions keep track of the row -/

section Tracking
variable {same : Value → Value → Bool} {params : List Value} {row : Row}

theorem slotValue_append {slot : Slot} {v : Value} (found : slotValue params slot = some v) (more : List Value) :
    slotValue (params ++ more) slot = some v := by
  unfold slotValue at found ⊢
  split at found
  · cases found
  · rw [List.getElem?_append_left (List.getElem?_eq_some_iff.1 found).1]
    exact found

theorem slotValues_append {slots : List Slot} {vs : List Value} (found : slots.mapM (slotValue params) = some vs)
    (more : List Value) : slots.mapM (slotValue (params ++ more)) = some vs := by
  induction slots generalizing vs with
  | nil => exact found
  | cons slot rest ih =>
    rw [List.mapM_cons] at found ⊢
    obtain ⟨v, first, found⟩ := Option.bind_eq_some_iff.1 found
    obtain ⟨others, later, made⟩ := Option.bind_eq_some_iff.1 found
    rw [slotValue_append first, ih later]
    exact made

theorem slotValues_new (items : List Value) :
    (slotsFrom (params.length + 1) items.length).mapM (slotValue (params ++ items)) = some items := by
  induction items generalizing params with
  | nil => rfl
  | cons v rest ih =>
    have first : slotValue (params ++ v :: rest) ⟨params.length + 1, ""⟩ = some v := by
      simp [slotValue]
    have later := @ih (params ++ [v])
    rw [List.length_append, List.length_singleton, List.append_assoc] at later
    rw [List.length_cons, slotsFrom_succ, List.mapM_cons, first]
    exact Option.bind_eq_some_iff.2 ⟨v, rfl, Option.bind_eq_some_iff.2 ⟨rest, later, rfl⟩⟩

theorem slotValue_new (v : Value) : slotValue (params ++ [v]) ⟨params.length + 1, ""⟩ = some v := by
  simp [slotValue]

/-- Values that are bound later do not change what an expression stands for. -/
theorem evaluate_append {e : Expression} {v : Value} (value : e.evaluate same params row = some v) (more : List Value) :
    e.evaluate same (params ++ more) row = some v := by
  induction e generalizing v with
  | column name => exact value
  | value slot => exact slotValue_append value more
  | without base items ih =>
    obtain ⟨array, inner, value⟩ := Option.bind_eq_some_iff.1 value
    obtain ⟨vs, found, value⟩ := Option.bind_eq_some_iff.1 value
    rw [Expression.evaluate, ih inner, slotValues_append found]
    exact value
  | concat base slot ih | append base slot ih | remove base slot ih =>
    obtain ⟨array, inner, value⟩ := Option.bind_eq_some_iff.1 value
    obtain ⟨item, found, value⟩ := Option.bind_eq_some_iff.1 value
    rw [Expression.evaluate, ih inner, slotValue_append found]
    exact value

/-- The assignments made so far stand for the row that was reached so far. -/
structure Tracks (same : Value → Value → Bool) (params : List Value) (row : Row) (assignments : Assignments)
    (reached : Row) : Prop where
  distinct : assignments.columns.Nodup
  plain : ∀ column, (assignments.current column).Plain
  holds : ∀ column, (assignments.current column).evaluate same params row = some (reached column.text)
  others : ∀ name, (∀ column ∈ assignments.columns, column.text ≠ name) → reached name = row name

theorem tracks_nil : Tracks same params row [] row :=
  ⟨List.nodup_nil, fun _ => trivial, fun _ => rfl, fun _ _ => rfl⟩

theorem tracks_set {assignments : Assignments} {reached : Row} (tracks : Tracks same params row assignments reached)
    {column : Identifier} {e : Expression} {v : Value} {more : List Value} (plain : e.Plain)
    (value : e.evaluate same (params ++ more) row = some v) :
    Tracks same (params ++ more) row (assignments.set column e) (reached.set column.text v) := by
  refine ⟨Assignments.nodup_set tracks.distinct column e, fun other => ?_, fun other => ?_, fun name apart => ?_⟩
  · rw [Assignments.current_set]
    split
    · exact plain
    · exact tracks.plain other
  · rw [Assignments.current_set]
    by_cases own : column = other
    · subst own
      rw [if_pos rfl, Row.set_same, value]
    · have apart : other.text ≠ column.text := fun text => own (Identifier.eq_of_text text).symm
      rw [if_neg own, Row.set_other _ _ apart, evaluate_append (tracks.holds other)]
  · have new : name ≠ column.text := (apart column (Assignments.mem_columns_set.2 (.inl rfl))).symm
    rw [Row.set_other _ _ new]
    exact tracks.others name fun c member => apart c (Assignments.mem_columns_set.2 (.inr member))

/-! ### Stored forms -/

theorem stored_of_ok {v form : Value} (made : v.encoded = .ok form) : stored v = form := by
  rw [stored, made]
  rfl

theorem stored_items {items forms : List Value} (made : items.mapM Value.encoded = .ok forms) : items.map stored = forms :=
  (mapM_eq_map (fun _ _ one => (stored_of_ok one).symm) made).symm

theorem storedWhole_of_ok {v form : Value} (made : wholeForm v = .ok form) : storedWhole v = form := by
  unfold wholeForm at made
  unfold storedWhole
  cases list : v.sequence? with
  | some items =>
    rw [list] at made
    obtain ⟨forms, each, rfl⟩ := map_ok made
    exact congrArg Value.list (stored_items each)
  | none =>
    rw [list] at made
    exact stored_of_ok made

theorem isNull_stored {v form : Value} (made : v.encoded = .ok form) (given : v ≠ .null) : form.isNull = false := by
  cases v with
  | null => exact absurd rfl given
  | map entries =>
    obtain ⟨text, _, rfl⟩ := map_ok made
    rfl
  | _ =>
    cases made
    rfl

theorem isNull_storedEach {items forms : List Value} (made : items.mapM Value.encoded = .ok forms)
    (noNull : .null ∉ items) : ∀ v ∈ forms, v.isNull = false := by
  induction items generalizing forms with
  | nil =>
    cases made
    simp
  | cons item rest ih =>
    rw [List.mapM_cons] at made
    obtain ⟨form, first, made⟩ := bind_ok made
    obtain ⟨others, more, made⟩ := bind_ok made
    cases made
    intro v member
    rcases List.mem_cons.1 member with rfl | later
    · exact isNull_stored first fun null => noNull (null ▸ List.mem_cons_self)
    · exact ih more (fun inside => noNull (List.mem_cons_of_mem _ inside)) v later

/-! ### Entries -/

theorem isIn_known {x : Value} {items : List Value} (known : x.isNull = false) (each : ∀ v ∈ items, v.isNull = false) :
    isIn same x items = if items.any (same x) then .yes else .no := by
  induction items with
  | nil => rfl
  | cons v rest ih =>
    have later := ih fun w member => each w (List.mem_cons_of_mem _ member)
    have first : equality same x v = if same x v then .yes else .no := by
      rw [equality, known, each v List.mem_cons_self]
      rfl
    change (equality same x v).either (isIn same x rest) = _
    rw [first, later, List.any_cons]
    cases same x v <;> cases rest.any (same x) <;> rfl

theorem arrayWithout_known {items vs : List Value} (noNull : .null ∉ items) (each : ∀ v ∈ vs, v.isNull = false) :
    arrayWithout same (.list items) vs = some (.list (items.filter fun x => !vs.any (same x))) := by
  have kept : ∀ x ∈ items, decide ((isIn same x vs).opposite = .yes) = !vs.any (same x) := by
    intro x member
    have known : x.isNull = false := by
      cases x with
      | null => exact absurd member noNull
      | _ => rfl
    rw [isIn_known known each]
    cases vs.any (same x) <;> rfl
  exact congrArg (fun list => some (Value.list list)) (List.filter_congr kept)

theorem arrayRemove_known {items : List Value} {v : Value} (noNull : .null ∉ items) (given : v.isNull = false) :
    arrayRemove same (.list items) v = some (.list (items.filter fun x => !([v].any (same x)))) := by
  have kept : ∀ x ∈ items, (!notDistinct same x v) = !([v].any (same x)) := by
    intro x member
    have known : x.isNull = false := by
      cases x with
      | null => exact absurd member noNull
      | _ => rfl
    simp [notDistinct, known, given]
  exact congrArg (fun list => some (Value.list list)) (List.filter_congr kept)

variable {type : RecordType} {values after : ParameterList} {assignments next : Assignments} {reached : Row}
  {name value : Value}

theorem tracks_replace (tracks : Tracks same values row assignments reached)
    (ran : (replace type assignments name value).runFrom values = (.ok next, after)) :
    Tracks same after row next (changeColumn (fun _ v => storedWhole v) reached (name, value)) := by
  obtain ⟨column, form, named, made, rfl, rfl⟩ := replace_run ran
  rw [Identifier.ofValue_ok named]
  change Tracks same _ row _ (reached.set column.text (storedWhole value))
  rw [storedWhole_of_ok made]
  exact tracks_set tracks rfl (slotValue_new form)

theorem tracks_push (tracks : Tracks same values row assignments reached)
    (list : ∀ column : String, name = .text column → ∃ items, reached column = .list items)
    (ran : (push assignments name value).runFrom values = (.ok next, after)) :
    Tracks same after row next (changeColumn pushed reached (name, value)) := by
  obtain ⟨column, form, named, made, rfl, rfl⟩ := push_run ran
  obtain ⟨items, held⟩ := list column.text (Identifier.ofValue_ok named)
  have base := evaluate_append (tracks.holds column) [form]
  rw [held] at base
  rw [Identifier.ofValue_ok named]
  change Tracks same _ row _ (reached.set column.text (.list (listItems (reached column.text) ++ storedItems value)))
  rw [held, listItems, storedItems]
  unfold wholeForm at made
  cases sequence : value.sequence? with
  | some own =>
    rw [sequence] at made
    obtain ⟨forms, each, rfl⟩ := map_ok made
    rw [Option.isSome_some, if_pos rfl]
    refine tracks_set tracks ⟨tracks.plain column, rfl⟩ ?_
    rw [Expression.evaluate, base, slotValue_new]
    change some (Value.list (items ++ forms)) = some (Value.list (items ++ own.map stored))
    rw [stored_items each]
  | none =>
    rw [sequence] at made
    rw [Option.isSome_none, if_neg (by decide)]
    refine tracks_set tracks ⟨tracks.plain column, rfl⟩ ?_
    rw [Expression.evaluate, base, slotValue_new, ← stored_of_ok made]
    rfl

theorem tracks_pull (tracks : Tracks same values row assignments reached)
    (list : ∀ column : String, name = .text column → ∃ items, reached column = .list items ∧ .null ∉ items)
    (known : value ≠ .null ∧ ∀ items, value.sequence? = some items → .null ∉ items)
    (ran : (pull assignments name value).runFrom values = (.ok next, after)) :
    Tracks same after row next (changeColumn (pulled same) reached (name, value)) := by
  cases pull_run ran with
  | nothing empty =>
    have unchanged : changeColumn (pulled same) reached (name, value) = reached := by
      unfold changeColumn
      split
      · rename_i column text
        obtain ⟨items, held, _⟩ := list column text
        have whole : pulled same (reached column) value = reached column := by
          rw [pulled, held, storedItems, empty]
          exact congrArg Value.list (List.filter_eq_self.2 fun x _ => rfl)
        rw [whole, Row.set_self]
      · rfl
    rw [unchanged]
    exact tracks
  | @several own forms column sequence filled named each =>
    obtain ⟨items, held, noNull⟩ := list column.text (Identifier.ofValue_ok named)
    have base := evaluate_append (tracks.holds column) forms
    have found := @slotValues_new values forms
    have given : ∀ v ∈ forms, v.isNull = false := isNull_storedEach each (known.2 own sequence)
    rw [held] at base
    rw [length_mapM each] at found
    rw [Identifier.ofValue_ok named]
    change Tracks same _ row _ (reached.set column.text (pulled same (reached column.text) value))
    rw [held, pulled, listItems, storedItems, sequence]
    refine tracks_set tracks ⟨tracks.plain column, ?_, ?_⟩ ?_
    · rw [← List.length_pos_iff, length_slotsFrom]
      exact List.length_pos_iff.2 filled
    · exact fun slot member => cast_slotsFrom member
    · rw [Expression.evaluate, base, found]
      change arrayWithout same (.list items) forms = _
      rw [arrayWithout_known noNull given, ← stored_items each]
  | @one form column single named made =>
    obtain ⟨items, held, noNull⟩ := list column.text (Identifier.ofValue_ok named)
    have base := evaluate_append (tracks.holds column) [form]
    rw [held] at base
    rw [Identifier.ofValue_ok named]
    change Tracks same _ row _ (reached.set column.text (pulled same (reached column.text) value))
    rw [held, pulled, listItems, storedItems, single]
    refine tracks_set tracks ⟨tracks.plain column, rfl⟩ ?_
    rw [Expression.evaluate, base, slotValue_new]
    change arrayRemove same (.list items) form = _
    rw [arrayRemove_known noNull (isNull_stored made known.1), ← stored_of_ok made]

end Tracking

/-! ### Whole updates -/

section Whole
variable {same : Value → Value → Bool} {type : RecordType} {row : Row} {update : Value}

theorem changeColumn_keeps {ready : Value → Prop} {change : Value → Value → Value} {reached : Row} {column : String}
    (held : ready (reached column)) (entry : Value × Value) (keeps : ∀ old v, ready old → ready (change old v)) :
    ready (changeColumn change reached entry column) := by
  have changed : changeColumn change reached entry = reached ∨
      ∃ other, changeColumn change reached entry = reached.set other (change (reached other) entry.2) := by
    unfold changeColumn
    split
    · exact .inr ⟨_, rfl⟩
    · exact .inl rfl
  rcases changed with same | ⟨other, set⟩
  · rwa [same]
  · rw [set]
    by_cases own : column = other
    · rw [own, Row.set_same]
      exact keeps _ _ (own ▸ held)
    · rw [Row.set_other _ _ own]
      exact held

/-- Some row was reached by now, and from there the entries that are left lead to the last one. -/
def Leads (same : Value → Value → Bool) (row last : Row) (change : Value → Value → Value) (ready sound : Value → Prop)
    (left : List (Value × Value)) (done : Assignments) (values : ParameterList) : Prop :=
  ∃ now, Tracks same values row done now ∧ left.foldl (changeColumn change) now = last ∧
    (∀ (column : String) v, (.text column, v) ∈ left → ready (now column)) ∧ ∀ entry ∈ left, sound entry.2

/-- Entries whose columns are ready for them keep track of the row if each of them does and leaves its column ready. -/
theorem tracks_entries {step : Assignments → Value → Value → Binding Assignments} {change : Value → Value → Value}
    (ready sound : Value → Prop) (keeps : ∀ old v, ready old → ready (change old v))
    (one : ∀ {values after assignments next reached name value}, Tracks same values row assignments reached →
      (∀ column : String, name = .text column → ready (reached column)) → sound value →
      (step assignments name value).runFrom values = (.ok next, after) →
      Tracks same after row next (changeColumn change reached (name, value)))
    {entries : List (Value × Value)} {values after : ParameterList} {done last : Assignments} {reached : Row}
    (tracks : Tracks same values row done reached)
    (fit : ∀ (column : String) v, (.text column, v) ∈ entries → ready (reached column)) (sounds : ∀ entry ∈ entries, sound entry.2)
    (ran : (entries.foldlM (fun done entry => step done entry.1 entry.2) done).runFrom values = (.ok last, after)) :
    Tracks same after row last (entries.foldl (changeColumn change) reached) := by
  have each : ∀ entry left done values next after,
      Leads same row (entries.foldl (changeColumn change) reached) change ready sound (entry :: left) done values →
        (step done entry.1 entry.2).runFrom values = (.ok next, after) →
          Leads same row (entries.foldl (changeColumn change) reached) change ready sound left next after := by
    rintro ⟨name, v⟩ left done values next after ⟨now, tracks, same, fit, sounds⟩ head
    have here : ∀ column : String, name = .text column → ready (now column) :=
      fun column text => fit column v (text ▸ List.mem_cons_self)
    refine ⟨changeColumn change now (name, v), one tracks here (sounds _ List.mem_cons_self) head, same, ?_, ?_⟩
    · exact fun column w member => changeColumn_keeps (fit column w (List.mem_cons_of_mem _ member)) (name, v) keeps
    · exact fun entry member => sounds entry (List.mem_cons_of_mem _ member)
  obtain ⟨now, tracked, same, _⟩ := foldlM_run _ each ⟨reached, tracks, rfl, fit, sounds⟩ ran
  rw [← same]
  exact tracked

theorem tracks_update {params : ParameterList} {statement : Option Update} (fits : Fits update row)
    (run : UpdateRun type update [] params statement) :
    Tracks same run.afterPull row run.pulled (rowPulled same update row) := by
  have replaced : Tracks same run.afterReplace row run.replaced (rowReplaced update row) :=
    tracks_entries (fun _ => True) (fun _ => True) (fun _ _ _ => trivial)
      (fun tracks _ _ head => tracks_replace tracks head) tracks_nil (fun _ _ _ => trivial) (fun _ _ => trivial)
      run.replacing
  have pushed : Tracks same run.afterPush row run.pushed (rowPushed update row) :=
    tracks_entries (fun old => ∃ items, old = .list items) (fun _ => True) (fun _ _ _ => ⟨_, rfl⟩)
      (fun tracks list _ head => tracks_push tracks list head) replaced fits.pushing (fun _ _ => trivial) run.pushing
  refine tracks_entries (fun old => ∃ items, old = .list items ∧ .null ∉ items) _ ?_
    (fun tracks list known head => tracks_pull tracks list known head) pushed fits.pulling fits.known run.pulling
  rintro _ v ⟨items, rfl, noNull⟩
  exact ⟨_, rfl, fun inside => noNull (List.mem_filter.1 inside).1⟩

/-! ### Running the statement -/

theorem current_of_mem {assignments : Assignments} (distinct : assignments.columns.Nodup) {pair : Identifier × Expression}
    (member : pair ∈ assignments) : assignments.current pair.1 = pair.2 := by
  induction assignments with
  | nil => cases member
  | cons first rest ih =>
    obtain ⟨c, e⟩ := first
    obtain ⟨new, others⟩ := List.nodup_cons.1 distinct
    rw [Assignments.current_cons]
    rcases List.mem_cons.1 member with rfl | later
    · exact if_pos rfl
    · have apart : c ≠ pair.1 := by
        rintro rfl
        exact new (List.mem_map.2 ⟨pair, later, rfl⟩)
      rw [if_neg apart, ih others later]

theorem lookup_columns (assignments : Assignments) (reached : Row) (name : String) :
    (assignments.map fun pair => (pair.1.text, reached pair.1.text)).lookup name =
      if name ∈ assignments.columns.map (·.text) then some (reached name) else none := by
  induction assignments with
  | nil => rfl
  | cons pair rest ih =>
    rw [List.map_cons, List.lookup_cons, ih]
    have member : name ∈ (Assignments.columns (pair :: rest)).map (·.text) ↔
        name = pair.1.text ∨ name ∈ (Assignments.columns rest).map (·.text) := List.mem_cons
    by_cases own : name = pair.1.text
    · rw [if_pos (member.2 (.inl own)), own, beq_self_eq_true]
    · rw [beq_eq_false_iff_ne.2 own]
      by_cases later : name ∈ (Assignments.columns rest).map (·.text)
      · rw [if_pos later, if_pos (member.2 (.inr later))]
      · rw [if_neg later, if_neg fun inside => (member.1 inside).elim own later]

theorem tracks_append {params : ParameterList} {assignments : Assignments} {reached : Row}
    (tracks : Tracks same params row assignments reached) (more : List Value) :
    Tracks same (params ++ more) row assignments reached :=
  { tracks with holds := fun column => evaluate_append (tracks.holds column) more }

theorem evaluate_each {assignments : Assignments} {params : ParameterList} {reached : Row}
    (each : ∀ pair ∈ assignments, pair.2.evaluate same params row = some (reached pair.1.text)) :
    assignments.mapM (fun pair => (pair.2.evaluate same params row).map (pair.1.text, ·)) =
      some (assignments.map fun pair => (pair.1.text, reached pair.1.text)) := by
  induction assignments with
  | nil => rfl
  | cons pair rest ih =>
    rw [List.mapM_cons, each pair List.mem_cons_self, ih fun other member => each other (List.mem_cons_of_mem _ member)]
    rfl

theorem execute_tracked {statement : Update} {params : ParameterList} {reached : Row} {key : Value}
    (tracks : Tracks same params row statement.assignments reached) (keyed : slotValue params statement.key = some key) :
    statement.execute same params row =
      some (if equality same (row statement.keyColumn.text) key = .yes then reached else row) := by
  have set := @evaluate_each same row statement.assignments params reached fun pair member => by
    rw [← current_of_mem tracks.distinct member]
    exact tracks.holds pair.1
  have whole : (fun name => ((statement.assignments.map fun pair => (pair.1.text, reached pair.1.text)).lookup name).getD
      (row name)) = reached := by
    funext name
    rw [lookup_columns]
    split
    · rfl
    · rename_i apart
      refine (tracks.others name fun column member text => apart ?_).symm
      exact List.mem_map.2 ⟨column, member, text⟩
  rw [Update.execute, keyed, Option.bind_eq_bind, Option.bind_some, if_pos tracks.distinct]
  split
  · exact Option.bind_eq_some_iff.2 ⟨_, set, congrArg some whole⟩
  · rfl

theorem updateStatement_run {statement : Adapter.UpdateStatement}
    (built : Adapter.updateStatement type update = .ok statement) :
    ∃ result params, (Mutation.update type update).runFrom [] = (.ok result, params) ∧
      statement = result.map fun update => (update.sql, params) := by
  unfold Adapter.updateStatement at built
  generalize (Mutation.update type update).runFrom [] = ran at built ⊢
  obtain ⟨outcome, params⟩ := ran
  obtain ⟨result, rfl, rfl⟩ := map_ok built
  exact ⟨result, params, rfl, rfl⟩

/-- The update that is written when anything is assigned. -/
def UpdateRun.written {params : ParameterList} {statement : Option Update}
    (run : UpdateRun type update [] params statement) : Update :=
  ⟨type.name, run.pulled, type.key, ⟨run.afterPull.length + 1, ""⟩⟩

/-- Running the statement of an update on a row that has the key makes of it what is asked for: in every column the
replaced value, then what is pushed at its end, then without what is pulled; other columns and other rows stay as they
are. Where there is no statement, nothing is asked for. -/
theorem execute_updateStatement (same : Value → Value → Bool) {statement : Adapter.UpdateStatement}
    (built : Adapter.updateStatement type update = .ok statement) (fits : Fits update row) :
    (statement = none → rowPulled same update row = row) ∧
      ∀ sql params, statement = some (sql, params) → ∃ parsed : Update, Update.read? sql = some parsed ∧
        parsed.table = type.name ∧ parsed.assignments.columns.Nodup ∧
          parsed.execute same params row =
            some (if equality same (row type.key.text) (update.fieldValue type.key.text) = .yes
              then rowPulled same update row else row) := by
  obtain ⟨result, after, ran, rfl⟩ := updateStatement_run built
  obtain ⟨run⟩ := update_run ran
  have tracks : Tracks same run.afterPull row run.pulled (rowPulled same update row) := tracks_update fits run
  have made := run.made
  split at made
  · rename_i empty
    rw [made.1]
    refine ⟨fun _ => ?_, fun sql params some => by cases some⟩
    funext name
    rw [empty] at tracks
    exact tracks.others name fun column member => by cases member
  · rename_i filled
    rw [made.1]
    refine ⟨fun none => (by cases none), fun sql params some => ?_⟩
    obtain ⟨rfl, rfl⟩ := Prod.mk.inj (Option.some.inj some)
    have expressions : ∀ pair ∈ run.pulled, pair.2.Plain := by
      intro pair member
      rw [← current_of_mem tracks.distinct member]
      exact tracks.plain pair.1
    have executed := @execute_tracked same row run.written _ _ run.key (tracks_append tracks [run.key]) (slotValue_new run.key)
    rw [← made.2] at executed
    refine ⟨run.written, Update.read?_sql ⟨filled, expressions, rfl⟩, rfl, tracks.distinct, ?_⟩
    rw [run.keyed]
    exact executed

end Whole

/-- An update with a column in all of its parts and one that is only pushed to and pulled from. -/
def tagsSample : Value :=
  .map [(.text "slug", .text "s"),
    (.text "pull", .map [(.text "labels", .list [.text "a", .text "x"]), (.text "tags", .int 1)]),
    (.text "push", .map [(.text "labels", .tuple [.text "c", .text "a"]), (.text "tags", .int 3)]),
    (.text "replace", .map [(.text "labels", .list [.text "a", .text "b"]), (.text "heading", .text "h")])]

def rowSample : Row := fun name =>
  if name = "slug" then .text "s" else if name = "tags" then .list [.int 1, .int 2, .int 1] else .null

theorem tagsSample_execution : ∃ sql params parsed row,
    Adapter.updateStatement Query.articleSample tagsSample = .ok (some (sql, params)) ∧ Fits tagsSample rowSample ∧
      Update.read? sql = some parsed ∧ parsed.execute Value.equals params rowSample = some row ∧
      row "labels" = .list [.text "b", .text "c"] ∧ row "tags" = .list [.int 2, .int 3] ∧ row "heading" = .text "h" ∧
      row "slug" = .text "s" ∧ row "body" = .null := by
  have fits : Fits tagsSample rowSample := by
    refine ⟨fun column v member => ?_, fun column v member => ?_, fun entry member => ?_⟩
    · rcases List.mem_cons.1 member with labels | later
      · cases labels
        exact ⟨_, rfl⟩
      · cases List.mem_singleton.1 later
        exact ⟨_, rfl⟩
    · rcases List.mem_cons.1 member with labels | later
      · cases labels
        exact ⟨[.text "a", .text "b", .text "c", .text "a"], rfl, by simp⟩
      · cases List.mem_singleton.1 later
        exact ⟨[.int 1, .int 2, .int 1, .int 3], rfl, by simp⟩
    · rcases List.mem_cons.1 member with rfl | later
      · refine ⟨by simp, fun items sequence => ?_⟩
        cases sequence
        simp
      · obtain rfl := List.mem_singleton.1 later
        exact ⟨by simp, fun items sequence => by cases sequence⟩
  obtain ⟨parsed, read, _, _, executed⟩ :=
    (@execute_updateStatement Query.articleSample rowSample tagsSample Value.equals _ rfl fits).2 _ _ rfl
  exact ⟨_, _, parsed, _, rfl, fits, read, executed, rfl, rfl, rfl, rfl, rfl⟩

end RecordStore.Mutation
