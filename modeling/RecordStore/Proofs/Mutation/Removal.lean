import RecordStore.Proofs.Mutation.Replacement

/-!
# Pulling an element and pulling a list of one

An element that is pulled by itself is removed where it is not distinct from an element of the column. In a list it is
compared as the store compares: what is null is unknown to be another element, and no array counts as an empty one. So the
two come to the same only where null is neither the column nor compared with anything else.
-/

namespace RecordStore

open Mutation Sql Binding

variable {type : RecordType} {column : Identifier} {v stored : Value}

/-! ### The statement of a pull -/

/-- Entries that bind one value and assign what takes it out of the column. -/
def PullsAs (column : Identifier) (pulled v : Value) (taken : Slot → Expression) : Prop :=
  pull [] (.text column.text) pulled = (do return [(column, taken (← bindEncoded v))])

theorem pulls_alone (column : Identifier) (single : v.sequence? = none) :
    PullsAs column v v (.remove (.column column)) := by
  unfold PullsAs pull
  rw [single]
  dsimp only
  rw [Identifier.ofValue_text]
  rfl

theorem pulls_listed (column : Identifier) {list : Value} (one : list.sequence? = some [v]) :
    PullsAs column list v fun slot => .without (.column column) [slot] := by
  unfold PullsAs pull
  rw [one]
  dsimp only
  rw [Identifier.ofValue_text, List.mapM_cons, List.mapM_nil]
  simp only [bind_assoc, pure_bind]
  rfl

theorem bindEncoded_refused {misuse : Misuse} (refused : v.encoded = .error misuse) (values : ParameterList) :
    (bindEncoded v).runFrom values = (.error (.ofMisuse misuse), values) := by
  rw [bindEncoded, refused]
  rfl

/-- Updates that only pull something from one column. -/
structure OnlyPulls (type : RecordType) (column : Identifier) (pulled key : Value) (entries : List (Value × Value)) :
    Prop where
  keyed : Value.lookup type.key.text entries = some key
  given : key ≠ .null
  replacing : Value.lookup "replace" entries = none
  pushing : Value.lookup "push" entries = none
  pulling : Value.lookup "pull" entries = some (.map [(.text column.text, pulled)])

section Pulled
variable {pulled key : Value} {entries : List (Value × Value)} {taken : Slot → Expression}

theorem OnlyPulls.run (only : OnlyPulls type column pulled key entries) (pulls : PullsAs column pulled v taken) :
    (Mutation.update type (.map entries)).runFrom [] =
      (bindEncoded v >>= fun slot => Sql.bind key >>= fun last =>
        pure (some ⟨type.name, [(column, taken slot)], type.key, last⟩)).runFrom [] := by
  have looked : (Value.map entries).field? "pull" = .ok (some (.map [(.text column.text, pulled)])) :=
    congrArg Except.ok only.pulling
  have part : applyPart pull (.map entries) "pull" [] = pull [] (.text column.text) pulled := by
    unfold applyPart partEntries
    rw [looked]
    exact bind_pure (pull [] (.text column.text) pulled)
  unfold Mutation.update
  rw [runFrom_bind_of_ok (updateKey_given only.keyed only.given []),
    runFrom_bind_of_ok (applyPart_nothing only.replacing _ _),
    runFrom_bind_of_ok (applyPart_nothing only.pushing _ _), part, pulls, bind_assoc]
  rfl

theorem OnlyPulls.built (only : OnlyPulls type column pulled key entries) (pulls : PullsAs column pulled v taken)
    (made : v.encoded = .ok stored) :
    Adapter.updateStatement type (.map entries) =
      .ok (some (Update.sql ⟨type.name, [(column, taken ⟨1, ""⟩)], type.key, ⟨2, ""⟩⟩, [stored, key])) := by
  unfold Adapter.updateStatement
  rw [only.run pulls, runFrom_bind_of_ok (bindEncoded_run made [])]
  rfl

theorem OnlyPulls.refused (only : OnlyPulls type column pulled key entries) (pulls : PullsAs column pulled v taken)
    {misuse : Misuse} (refused : v.encoded = .error misuse) :
    Adapter.updateStatement type (.map entries) = .error (.ofMisuse misuse) := by
  unfold Adapter.updateStatement
  rw [only.run pulls, runFrom_bind, bindEncoded_refused refused]
  rfl

end Pulled

/-! ### What it leaves -/

section Rows
variable {same : Value → Value → Bool} {row : Row}

/-- What a row becomes when the statement of an update is read and run. -/
def Leaves (same : Value → Value → Bool) (type : RecordType) (row : Row) (update : Value) (after : Row) : Prop :=
  ∃ sql params parsed, Adapter.updateStatement type update = .ok (some (sql, params)) ∧
    Update.read? sql = some parsed ∧ parsed.execute same params row = some after

theorem OnlyPulls.leaves {pulled key left : Value} {entries : List (Value × Value)} {taken : Slot → Expression}
    (only : OnlyPulls type column pulled key entries) (pulls : PullsAs column pulled v taken)
    (made : v.encoded = .ok stored) (own : equality same (row type.key.text) key = .yes) (plain : (taken ⟨1, ""⟩).Plain)
    (value : (taken ⟨1, ""⟩).evaluate same [stored] row = some left) :
    Leaves same type row (.map entries) (row.set column.text left) := by
  have tracks : Tracks same [stored] row [(column, taken ⟨1, ""⟩)] (row.set column.text left) :=
    @tracks_set same [] row [] row tracks_nil column _ left [stored] plain value
  have executed := @execute_tracked same row ⟨type.name, [(column, taken ⟨1, ""⟩)], type.key, ⟨2, ""⟩⟩ _ _ key
    (tracks_append tracks [key]) rfl
  rw [if_pos own] at executed
  exact ⟨_, _, _, only.built pulls made, Update.read?_sql ⟨by simp, by simpa using plain, rfl⟩, executed⟩

/-- An array without the elements that are not distinct from a value; null stays null. -/
def withoutEqual (same : Value → Value → Bool) (array v : Value) : Value :=
  match array with
  | .list items => .list (items.filter fun x => !notDistinct same x v)
  | _ => .null

/-- The elements of an array that are known to be other ones than a value. -/
def knownOthers (same : Value → Value → Bool) (array v : Value) : Value :=
  .list ((listItems array).filter fun x => !x.isNull && !v.isNull && !same x v)

theorem arrayRemove_array {array : Value} {items : Option (List Value)} (held : array? array = some items) (v : Value) :
    arrayRemove same array v = some (withoutEqual same array v) := by
  unfold arrayRemove
  rw [held]
  cases array with
  | null =>
    cases held
    rfl
  | list xs =>
    cases held
    rfl
  | _ => cases held

theorem isIn_one (x v : Value) :
    decide ((isIn same x [v]).opposite = .yes) = (!x.isNull && !v.isNull && !same x v) := by
  change decide (((equality same x v).either .no).opposite = .yes) = _
  rw [equality]
  cases x.isNull <;> cases v.isNull <;> cases same x v <;> rfl

theorem arrayWithout_array {array : Value} {items : Option (List Value)} (held : array? array = some items) (v : Value) :
    arrayWithout same array [v] = some (knownOthers same array v) := by
  unfold arrayWithout knownOthers
  rw [held]
  simp only [isIn_one]
  cases array with
  | null =>
    cases held
    rfl
  | list xs =>
    cases held
    rfl
  | _ => cases held

theorem filter_alike {p q : Value → Bool} {items : List Value} :
    items.filter p = items.filter q ↔ ∀ x ∈ items, p x = q x := by
  constructor
  · intro alike x member
    have both : p x = true ↔ q x = true := by
      have inside : x ∈ items.filter p ↔ x ∈ items.filter q := by rw [alike]
      simpa [List.mem_filter, member] using inside
    exact Bool.eq_iff_iff.2 both
  · exact List.filter_congr

theorem removed_alike (x v : Value) :
    (!notDistinct same x v) = (!x.isNull && !v.isNull && !same x v) ↔ x.isNull = v.isNull := by
  unfold notDistinct
  cases x.isNull <;> cases v.isNull <;> simp

/-- Removing what is equal leaves the elements that are known to be others where there is an array, and its elements are
null exactly if the value is. -/
theorem withoutEqual_eq_iff {array : Value} {items : Option (List Value)} (held : array? array = some items) (v : Value) :
    withoutEqual same array v = knownOthers same array v ↔ ∃ xs, items = some xs ∧ ∀ x ∈ xs, x.isNull = v.isNull := by
  cases array with
  | null =>
    cases held
    constructor
    · nofun
    · rintro ⟨_, none, _⟩
      cases none
  | list xs =>
    cases held
    rw [withoutEqual, knownOthers, listItems, Value.list.injEq, filter_alike]
    simp only [removed_alike]
    constructor
    · exact fun each => ⟨xs, rfl, each⟩
    · rintro ⟨_, ⟨⟩, each⟩
      exact each
  | _ => cases held

theorem isNull_encoded (made : v.encoded = .ok stored) : stored.isNull = v.isNull := by
  by_cases null : v = .null
  · subst null
    cases made
    rfl
  · rw [isNull_stored made null]
    cases v with
    | null => exact absurd rfl null
    | _ => rfl

section Both
variable {list key : Value} {entries others : List (Value × Value)} {items : Option (List Value)}

theorem leaves_alone (alone : OnlyPulls type column v key entries) (single : v.sequence? = none)
    (made : v.encoded = .ok stored) (held : array? (row column.text) = some items)
    (own : equality same (row type.key.text) key = .yes) :
    Leaves same type row (.map entries) (row.set column.text (withoutEqual same (row column.text) stored)) := by
  apply alone.leaves (pulls_alone column single) made own ⟨trivial, rfl⟩
  exact arrayRemove_array held stored

theorem leaves_listed (listed : OnlyPulls type column list key entries) (one : list.sequence? = some [v])
    (made : v.encoded = .ok stored) (held : array? (row column.text) = some items)
    (own : equality same (row type.key.text) key = .yes) :
    Leaves same type row (.map entries) (row.set column.text (knownOthers same (row column.text) stored)) := by
  apply listed.leaves (pulls_listed column one) made own ⟨trivial, List.cons_ne_nil _ _, by simp⟩
  exact arrayWithout_array held stored

/-- Pulling a value by itself leaves the array without what is equal to it, and pulling a list of the value leaves the
elements that are known to be others. The two are the same exactly if there is an array and its elements are null where the
value is. A value without a stored form is refused either way. -/
theorem pulled_alike_iff (single : v.sequence? = none) (one : list.sequence? = some [v])
    (alone : OnlyPulls type column v key entries) (listed : OnlyPulls type column list key others)
    (held : array? (row column.text) = some items) (own : equality same (row type.key.text) key = .yes) :
    (∀ misuse, v.encoded = .error misuse →
      Adapter.updateStatement type (.map entries) = .error (.ofMisuse misuse) ∧
        Adapter.updateStatement type (.map others) = .error (.ofMisuse misuse)) ∧
    ∀ stored, v.encoded = .ok stored →
      Leaves same type row (.map entries) (row.set column.text (withoutEqual same (row column.text) stored)) ∧
      Leaves same type row (.map others) (row.set column.text (knownOthers same (row column.text) stored)) ∧
      (withoutEqual same (row column.text) stored = knownOthers same (row column.text) stored ↔
        ∃ xs, items = some xs ∧ ∀ x ∈ xs, x.isNull = v.isNull) := by
  constructor
  · intro misuse refused
    exact ⟨alone.refused (pulls_alone column single) refused, listed.refused (pulls_listed column one) refused⟩
  · intro stored made
    refine ⟨leaves_alone alone single made held own, leaves_listed listed one made held own, ?_⟩
    rw [withoutEqual_eq_iff held, isNull_encoded made]

end Both

end Rows

def pullSample (v : Value) : List (Value × Value) :=
  [(.text "slug", .text "s"), (.text "pull", .map [(.text "labels", v)])]

def labelled (labels : Value) : Row := fun name =>
  if name = "slug" then .text "s" else if name = "labels" then labels else .null

theorem pullSample_onlyPulls (v : Value) :
    OnlyPulls Query.articleSample ⟨"labels", by decide⟩ v (.text "s") (pullSample v) :=
  ⟨rfl, nofun, rfl, rfl, rfl⟩

/-- From an array without null, a text is pulled alike both ways. -/
theorem text_pulled_alike : ∃ row after, row = labelled (.list [.text "a", .text "b", .text "a"]) ∧
    Leaves Value.equals Query.articleSample row (.map (pullSample (.text "a"))) after ∧
    Leaves Value.equals Query.articleSample row (.map (pullSample (.list [.text "a"]))) after ∧
    after "labels" = .list [.text "b"] := by
  obtain ⟨alone, listed, alike⟩ := (@pulled_alike_iff Query.articleSample ⟨"labels", by decide⟩ (.text "a") Value.equals
    (labelled (.list [.text "a", .text "b", .text "a"])) (.list [.text "a"]) (.text "s") _ _ _ rfl rfl
    (pullSample_onlyPulls _) (pullSample_onlyPulls _) rfl rfl).2 _ rfl
  have same := alike.2 ⟨_, rfl, by decide⟩
  rw [← same] at listed
  exact ⟨_, _, rfl, alone, listed, rfl⟩

/-- Pulling null by itself leaves what is not null; pulling a list of it leaves nothing. -/
theorem null_pulled_apart : ∃ row first second, row = labelled (.list [.text "a", .null]) ∧
    Leaves Value.equals Query.articleSample row (.map (pullSample .null)) first ∧
    Leaves Value.equals Query.articleSample row (.map (pullSample (.list [.null]))) second ∧
    first "labels" = .list [.text "a"] ∧ second "labels" = .list [] :=
  ⟨_, _, _, rfl, leaves_alone (pullSample_onlyPulls _) rfl rfl rfl rfl,
    leaves_listed (pullSample_onlyPulls _) rfl rfl rfl rfl, rfl, rfl⟩

end RecordStore
