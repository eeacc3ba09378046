import RecordStore.Proofs.Error.Outcome
import RecordStore.Proofs.Sql.Clean

/-!
# Statements as drivers read them

A driver goes through the text that it gets and binds a value at every mark of its style. What it reads in a
rendered statement is the statement itself with the values in the places of the placeholders that name them.
-/

namespace RecordStore.Sql

/-! ### Marks -/

/-- Text with numbered marks, taken apart by the character that marks begin with. -/
def numberedFrom (mark : Char) (skip : Nat) : List Char → List Stretch
  | [] => []
  | c :: rest =>
    match skip with
    | n + 1 => numberedFrom mark n rest
    | 0 =>
      if c = mark ∧ leadingDigits rest ≠ [] then
        .placeholder (leadingDigits rest) :: numberedFrom mark (leadingDigits rest).length rest
      else .plain c :: numberedFrom mark 0 rest

/-- A character of the statement, a place for the next value, or a percent sign that says nothing. -/
inductive Place where
  | char (c : Char)
  | next
  | bad (c : Char)

/-- Two percent signs stand for one, and `%s` for the next value. -/
def formatPlaces : List Char → List Place
  | [] => []
  | '%' :: '%' :: rest => .char '%' :: formatPlaces rest
  | '%' :: 's' :: rest => .next :: formatPlaces rest
  | c :: rest => (if c = '%' then .bad c else .char c) :: formatPlaces rest

def qmarkPlaces (cs : List Char) : List Place := cs.map fun c => if c = '?' then .next else .char c

/-- Places with values in them, one after the other. -/
def filled : List Value → List Place → List Spot
  | _, [] => []
  | values, .char c :: rest => .char c :: filled values rest
  | values, .bad c :: rest => .dangling [c] :: filled values rest
  | [], .next :: rest => .dangling [] :: filled [] rest
  | v :: values, .next :: rest => .value v :: filled values rest

/-- What a driver reads in a text, with the values that it gets. -/
def readBy (style : ParamStyle) (values : List Value) (text : String) : List Spot :=
  match style with
  | .numericDollar => (numberedFrom '$' 0 text.toList).map (spotOf values)
  | .numeric => (numberedFrom ':' 0 text.toList).map (spotOf values)
  | .format | .extendedFormat => filled values (formatPlaces text.toList)
  | .qmark => filled values (qmarkPlaces text.toList)
  | .other _ => text.toList.map .char

namespace Spot

def value? : Spot → Option Value
  | value v => some v
  | _ => none

def isMark : Spot → Bool
  | char _ => false
  | _ => true

end Spot

/-! ### Numbered marks -/

theorem numberedFrom_dollar (skip : Nat) (cs : List Char) : numberedFrom '$' skip cs = stretchesFrom skip cs := by
  induction cs generalizing skip with
  | nil => rfl
  | cons c rest ih =>
    cases skip with
    | succ n => exact ih n
    | zero => simp only [numberedFrom, stretchesFrom, ih]

section Numbered
variable {mark : Char}

theorem numberedFrom_skip (cs rest : List Char) : numberedFrom mark cs.length (cs ++ rest) = numberedFrom mark 0 rest := by
  induction cs with
  | nil => rfl
  | cons c cs ih => exact ih

theorem numberedFrom_number (n : Nat) {rest : List Char} (follows : NoDigit rest) :
    numberedFrom mark 0 (mark :: Nat.toDigits 10 n ++ rest) =
      .placeholder (Nat.toDigits 10 n) :: numberedFrom mark 0 rest := by
  rw [List.cons_append, numberedFrom, leadingDigits_number n follows, if_pos ⟨rfl, Nat.toDigits_ne_nil⟩,
    numberedFrom_skip]

theorem numberedFrom_plain {cs rest : List Char} (apart : colonsApart cs = true) (follows : NoDigit rest) :
    numberedFrom ':' 0 (cs ++ rest) = cs.map .plain ++ numberedFrom ':' 0 rest := by
  induction cs with
  | nil => rfl
  | cons c cs ih =>
    simp only [colonsApart, Bool.and_eq_true] at apart
    have noMark : ¬ (c = ':' ∧ leadingDigits (cs ++ rest) ≠ []) := by
      rintro ⟨rfl, digits⟩
      refine digits ?_
      have noDigit : NoDigit (cs ++ rest) := by
        cases cs with
        | nil => exact follows
        | cons d cs => simpa [NoDigit] using apart.1
      exact leadingDigits_nil.2 noDigit
    rw [List.cons_append, numberedFrom, if_neg noMark, ih apart.2]
    rfl

end Numbered

section Marked
variable {mark : List Char → List Char} {plain : Char → List Char}

theorem markedText_append (a b : List Stretch) :
    markedText mark plain (a ++ b) = markedText mark plain a ++ markedText mark plain b := by
  induction a with
  | nil => rfl
  | cons part a ih => cases part <;> simp [markedText, ih]

theorem markedText_plain (cs : List Char) (rest : List Stretch) :
    markedText mark ([·]) (cs.map .plain ++ rest) = cs ++ markedText mark ([·]) rest := by
  rw [markedText_append]
  congr 1
  induction cs with
  | nil => rfl
  | cons c cs ih => simpa [markedText] using ih

end Marked

open Fragment

theorem noDigit_numeric {fragment : Fragment} (worded : fragment.Worded) :
    NoDigit (markedText (':' :: ·) ([·]) (fragment.flatMap pieceStretches)) := by
  cases fragment with
  | nil => simp [NoDigit, markedText]
  | cons p rest =>
    cases p with
    | text s =>
      have wording := worded s List.mem_cons_self
      obtain ⟨c, more, whole⟩ := List.exists_cons_of_ne_nil wording.nonempty
      have starts := wording.starts
      rw [whole] at starts
      rw [List.flatMap_cons, pieceStretches, markedText_plain, whole]
      exact starts
    | slot n =>
      intro c hc
      obtain rfl : ':' = c := Option.some.inj hc
      decide

/-- The marks that are found in a text with colons in the places of dollar signs are the slots. -/
theorem numberedFrom_numeric {fragment : Fragment} (worded : fragment.Worded) :
    numberedFrom ':' 0 (markedText (':' :: ·) ([·]) (fragment.flatMap pieceStretches)) =
      fragment.flatMap pieceStretches := by
  induction fragment with
  | nil => rfl
  | cons p rest ih =>
    have wordedRest : Worded rest := fun s hs => worded s (List.mem_cons_of_mem _ hs)
    have follows := noDigit_numeric wordedRest
    cases p with
    | text s =>
      rw [List.flatMap_cons, pieceStretches, markedText_plain,
        numberedFrom_plain (worded s List.mem_cons_self).apart follows, ih wordedRest]
    | slot n =>
      rw [List.flatMap_cons, pieceStretches, List.singleton_append, markedText, numberedFrom_number n follows,
        ih wordedRest]

/-! ### Marks by position -/

def placeOf : Stretch → Place
  | .plain c => .char c
  | .placeholder _ => .next

theorem formatPlaces_marked (parts : List Stretch) :
    formatPlaces (markedText (fun _ => ['%', 's']) doublePercent parts) = parts.map placeOf := by
  induction parts with
  | nil => rfl
  | cons part rest ih =>
    cases part with
    | placeholder digits =>
      rw [markedText, List.cons_append, List.cons_append, List.nil_append, formatPlaces, ih]
      rfl
    | plain c =>
      by_cases percent : c = '%'
      · subst percent
        rw [markedText, doublePercent, if_pos rfl, List.cons_append, List.cons_append, List.nil_append, formatPlaces, ih]
        rfl
      · rw [markedText, doublePercent, if_neg percent, List.singleton_append, formatPlaces, if_neg percent, ih]
        · rfl
        · intro _ same
          exact absurd same percent
        · intro _ same
          exact absurd same percent

theorem qmarkPlaces_marked {parts : List Stretch} (calm : ∀ c, Stretch.plain c ∈ parts → c ≠ '?') :
    qmarkPlaces (markedText (fun _ => ['?']) ([·]) parts) = parts.map placeOf := by
  induction parts with
  | nil => rfl
  | cons part rest ih =>
    have others := ih fun c hc => calm c (List.mem_cons_of_mem _ hc)
    unfold qmarkPlaces at others ⊢
    cases part with
    | placeholder digits => simp [markedText, placeOf, others]
    | plain c => simp [markedText, placeOf, others, calm c List.mem_cons_self]

/-- Whether a placeholder names a value; a number of more digits than any list has values is not read. -/
def Names (values : List Value) (digits : List Char) : Prop :=
  digits.length ≤ digitLimit ∧ (namedValue? values digits).isSome

/-- The number of a placeholder, and whether it has no more digits than may be read and is that of a value. -/
structure Numbers (values : List Value) (digits : List Char) : Prop where
  readable : digits.length ≤ digitLimit
  positive : 1 ≤ Text.natOfDigits digits
  inside : Text.natOfDigits digits ≤ values.length

theorem Numbers.names {values : List Value} {digits : List Char} (numbers : Numbers values digits) :
    Names values digits := by
  refine ⟨numbers.readable, ?_⟩
  have positive := numbers.positive
  have inside := numbers.inside
  unfold namedValue?
  cases number : Text.natOfDigits digits with
  | zero => omega
  | succ n =>
    show (values[n]?).isSome = true
    rw [List.getElem?_eq_getElem (by omega)]
    rfl

/-- Parameters that are gone through one by one and found by their places. -/
structure Lists (params : Value) (values : List Value) : Prop where
  elements : params.elements? = some values
  noMap : params.entries? = none

theorem Lists.list (values : List Value) : Lists (.list values) values := ⟨rfl, rfl⟩

theorem Lists.holds {params : Value} {values : List Value} (listed : Lists params values) (nonempty : values ≠ []) :
    params.holds = true := by
  obtain ⟨elements, noMap⟩ := listed
  cases params with
  | text s =>
    cases elements
    rw [Value.holds, Text.isEmpty_letters, Bool.not_eq_true', ← Bool.not_eq_true, List.isEmpty_iff]
    exact fun empty => nonempty (by rw [empty, List.map_nil])
  | map entries => cases noMap
  | list items =>
    cases elements
    simpa [Value.holds] using nonempty
  | tuple items =>
    cases elements
    simpa [Value.holds] using nonempty
  | bytes form data =>
    cases elements
    simpa [Value.holds] using nonempty
  | _ => cases elements

theorem Lists.parameterAt {params : Value} {values : List Value} (listed : Lists params values) (index : Int) :
    parameterAt params index = itemAt params.shape values index := by
  obtain ⟨elements, noMap⟩ := listed
  cases params with
  | map entries => cases noMap
  | _ => simp only [Sql.parameterAt, elements]

section Named
variable {params : Value} {values : List Value}

theorem placeholderValue_named (listed : Lists params values) {digits : List Char} {v : Value}
    (short : values.length ≤ indexLimit) (readable : digits.length ≤ digitLimit)
    (named : namedValue? values digits = some v) : placeholderValue params digits = .ok v := by
  unfold namedValue? at named
  cases number : Text.natOfDigits digits with
  | zero =>
    rw [number] at named
    cases named
  | succ n =>
    rw [number] at named
    have found : values[n]? = some v := named
    have inside : n < values.length := (List.getElem?_eq_some_iff.1 found).1
    have index : ((n + 1 : Nat) : Int) - 1 = n := by omega
    have low : ¬ ((n : Int) ≥ indexLimit) := by omega
    have positive : ¬ ((n : Int) < 0) := by omega
    rw [placeholderValue, placeholderNumber, if_pos readable, number]
    change Sql.parameterAt params (((n + 1 : Nat) : Int) - 1) = _
    rw [index, listed.parameterAt]
    simp only [itemAt, low, positive, if_false, Int.toNat_natCast, found]

/-- The values that are bound by position are those that the placeholders name, from left to right. -/
theorem placeholderValues_named (listed : Lists params values) {parts : List Stretch}
    (short : values.length ≤ indexLimit)
    (named : ∀ digits, Stretch.placeholder digits ∈ parts → Names values digits) :
    ∃ bound, placeholderValues params parts = .ok bound ∧
      filled bound (parts.map placeOf) = parts.map (spotOf values) ∧
      bound.length = (parts.map (spotOf values)).countP Spot.isMark ∧
      (parts.map (spotOf values)).filterMap Spot.value? = bound := by
  induction parts with
  | nil => exact ⟨[], rfl, rfl, rfl, rfl⟩
  | cons part rest ih =>
    obtain ⟨bound, made, read, count, consumed⟩ := ih fun digits member => named digits (List.mem_cons_of_mem _ member)
    cases part with
    | plain c =>
      exact ⟨bound, made, by simp [placeOf, filled, spotOf, read], by simpa [spotOf, Spot.isMark] using count, consumed⟩
    | placeholder digits =>
      obtain ⟨readable, some⟩ := named digits List.mem_cons_self
      obtain ⟨v, value⟩ := Option.isSome_iff_exists.1 some
      refine ⟨v :: bound, ?_, by simp [placeOf, filled, spotOf, value, read], ?_, ?_⟩
      · rw [placeholderValues, placeholderValue_named listed short readable value, made]
        rfl
      · rw [List.length_cons, count, List.map_cons, spotOf, value, List.countP_cons_of_pos rfl]
      · rw [List.map_cons, spotOf, value, ← consumed]
        rfl

end Named

/-! ### Rendered statements -/

theorem names_slot {values : List Value} {n : Nat} (short : values.length ≤ indexLimit)
    (inside : 1 ≤ n ∧ n ≤ values.length) : Names values (Nat.toDigits 10 n) := by
  have readable : (Nat.toDigits 10 n).length ≤ digitLimit := by
    have limit : indexLimit < 10 ^ 20 := by decide
    have digits := (Nat.length_toDigits_le_iff (by omega) (by omega)).2 (show n < 10 ^ 20 by omega)
    have more : 20 ≤ digitLimit := by decide
    omega
  have number := natOfDigits_slot n
  exact Numbers.names ⟨readable, by rw [number]; exact inside.1, by rw [number]; exact inside.2⟩

theorem mem_pieceStretches {fragment : Fragment} {digits : List Char}
    (member : Stretch.placeholder digits ∈ fragment.flatMap pieceStretches) :
    ∃ n ∈ fragment.slots, digits = Nat.toDigits 10 n := by
  obtain ⟨p, inside, member⟩ := List.mem_flatMap.1 member
  cases p with
  | text s => simp [pieceStretches] at member
  | slot n =>
    refine ⟨n, List.mem_filterMap.2 ⟨.slot n, inside, rfl⟩, ?_⟩
    simpa [pieceStretches] using member

theorem calm_pieceStretches {fragment : Fragment} (worded : fragment.Worded) {c : Char}
    (member : Stretch.plain c ∈ fragment.flatMap pieceStretches) : c ≠ '?' := by
  obtain ⟨p, inside, member⟩ := List.mem_flatMap.1 member
  cases p with
  | slot n => simp [pieceStretches] at member
  | text s =>
    have char : c ∈ s.toList := by simpa [pieceStretches] using member
    exact ((worded s inside).calm c char).2

theorem resolved_fragment {fragment : Fragment} (worded : fragment.Worded) (values : List Value) :
    resolved values fragment.sql = (fragment.flatMap pieceStretches).map (spotOf values) := by
  rw [resolved, toList_sql, stretches_chars worded.clean]

theorem countP_spots (values : List Value) (fragment : Fragment) :
    ((fragment.flatMap pieceStretches).map (spotOf values)).countP Spot.isMark = fragment.slots.length := by
  induction fragment with
  | nil => rfl
  | cons p rest ih =>
    rw [List.flatMap_cons, List.map_append, List.countP_append, ih]
    cases p with
    | text s =>
      have none : ((s.toList.map Stretch.plain).map (spotOf values)).countP Spot.isMark = 0 := by
        rw [List.countP_eq_zero]
        intro spot member
        obtain ⟨part, inside, rfl⟩ := List.mem_map.1 member
        obtain ⟨c, _, rfl⟩ := List.mem_map.1 inside
        simp [spotOf, Spot.isMark]
      rw [pieceStretches, none, Nat.zero_add]
      rfl
    | slot n =>
      have one : ([Stretch.placeholder (Nat.toDigits 10 n)].map (spotOf values)).countP Spot.isMark = 1 := by
        rw [List.map_singleton, spotOf]
        cases namedValue? values (Nat.toDigits 10 n) <;> rfl
      rw [pieceStretches, one, Nat.add_comm]
      rfl

/-- The values in the places of the slots are those that the slots number. -/
theorem filterMap_spots {values : List Value} {fragment : Fragment}
    (inside : ∀ n ∈ fragment.slots, 1 ≤ n ∧ n ≤ values.length) :
    ((fragment.flatMap pieceStretches).map (spotOf values)).filterMap Spot.value? =
      fragment.slots.map fun n => values.getD (n - 1) .null := by
  induction fragment with
  | nil => rfl
  | cons p rest ih =>
    rw [List.flatMap_cons, List.map_append, List.filterMap_append]
    cases p with
    | text s =>
      have none : ((s.toList.map Stretch.plain).map (spotOf values)).filterMap Spot.value? = [] := by
        rw [List.filterMap_eq_nil_iff]
        intro spot member
        obtain ⟨part, inside, rfl⟩ := List.mem_map.1 member
        obtain ⟨c, _, rfl⟩ := List.mem_map.1 inside
        rfl
      rw [pieceStretches, none, List.nil_append, ih inside]
      rfl
    | slot n =>
      obtain ⟨low, high⟩ := inside n List.mem_cons_self
      obtain ⟨m, rfl⟩ : ∃ m, n = m + 1 := ⟨n - 1, by omega⟩
      have named : namedValue? values (Nat.toDigits 10 (m + 1)) = some values[m] := by
        rw [namedValue?, natOfDigits_slot]
        exact List.getElem?_eq_getElem (by omega)
      rw [ih fun k member => inside k (List.mem_cons_of_mem _ member), pieceStretches, List.map_singleton, spotOf, named]
      change [values[m]] ++ _ = values.getD m .null :: _
      rw [List.getD_eq_getElem?_getD, List.getElem?_eq_getElem (by omega)]
      rfl

/-- A driver gets as many values as its text has marks, and binds at each mark the value that the placeholder
in its place names; around the marks it reads the statement as it was. -/
structure Delivers (style : ParamStyle) (sql : String) (values : List Value) (driver : DriverStatement)
    (bound : List Value) : Prop where
  made : driverStatement sql (.list values) style = .ok driver
  params : driver.params = some bound
  length : bound.length = values.length
  marks : (readBy style bound driver.sql).countP Spot.isMark = values.length
  bindings : (readBy style bound driver.sql).filterMap Spot.value? =
    (placeholders sql).map fun n => values.getD (n - 1) .null
  read : readBy style bound driver.sql = resolved values sql

theorem driverStatement_delivers {fragment : Fragment} (worded : fragment.Worded) {values : List Value}
    (each : fragment.slots.Perm (List.range' 1 values.length)) (nonempty : values ≠ [])
    (short : values.length ≤ indexLimit) {style : ParamStyle} (known : ∀ name, style ≠ .other name) :
    ∃ driver bound, Delivers style fragment.sql values driver bound := by
  have inside : ∀ n ∈ fragment.slots, 1 ≤ n ∧ n ≤ values.length := by
    intro n member
    have range := List.mem_range'_1.1 (each.mem_iff.1 member)
    omega
  have count : fragment.slots.length = values.length := by
    rw [each.length_eq, List.length_range']
  have parts : stretches fragment.sql.toList = fragment.flatMap pieceStretches := by
    rw [toList_sql, stretches_chars worded.clean]
  have spots := resolved_fragment worded values
  have delivers : ∀ {driver bound}, driverStatement fragment.sql (.list values) style = .ok driver →
      driver.params = some bound → bound.length = values.length →
        readBy style bound driver.sql = resolved values fragment.sql →
          ∃ driver bound, Delivers style fragment.sql values driver bound := by
    intro driver bound made params length read
    refine ⟨driver, bound, made, params, length, ?_, ?_, read⟩
    · rw [read, spots, countP_spots, count]
    · rw [read, spots, filterMap_spots inside, placeholders_sql worded.clean]
  have holds : (Value.list values).holds = true := by simpa [Value.holds] using nonempty
  obtain ⟨bound, found, places, length, _⟩ := @placeholderValues_named (.list values) values (.list values)
    (fragment.flatMap pieceStretches) short fun digits member => by
      obtain ⟨n, slot, rfl⟩ := mem_pieceStretches member
      exact names_slot short (inside n slot)
  rw [countP_spots, count] at length
  -- the styles by position differ in their marks only
  have positioned : ∀ mark plain,
      driverStatement fragment.sql (.list values) style =
          liftM (positional mark plain (.list values) (fragment.flatMap pieceStretches)) →
        readBy style bound (String.ofList (markedText (fun _ => mark) plain (fragment.flatMap pieceStretches))) =
            Sql.filled bound ((fragment.flatMap pieceStretches).map placeOf) →
          ∃ driver bound, Delivers style fragment.sql values driver bound := by
    intro mark plain rendered read
    have made : driverStatement fragment.sql (.list values) style =
        .ok ⟨String.ofList (markedText (fun _ => mark) plain (fragment.flatMap pieceStretches)), some bound⟩ := by
      rw [rendered, positional, found]
      rfl
    exact delivers made rfl length (read.trans (places.trans spots.symm))
  cases style with
  | other name => exact absurd rfl (known name)
  | numericDollar =>
    have made : driverStatement fragment.sql (.list values) .numericDollar = .ok ⟨fragment.sql, some values⟩ := by
      simp only [driverStatement, holds]
      rfl
    refine delivers made rfl rfl ?_
    rw [readBy, numberedFrom_dollar]
    rfl
  | numeric =>
    have made : driverStatement fragment.sql (.list values) .numeric =
        .ok ⟨numericMarked (fragment.flatMap pieceStretches), some values⟩ := by
      simp only [driverStatement, holds, parts]
      rfl
    refine delivers made rfl rfl ?_
    rw [readBy, numericMarked, String.toList_ofList, numberedFrom_numeric worded, spots]
  | qmark =>
    refine positioned ['?'] ([·]) ?_ ?_
    · simp only [driverStatement, holds, parts]
      rfl
    · rw [readBy, String.toList_ofList, qmarkPlaces_marked fun c => calm_pieceStretches worded]
  | format =>
    refine positioned ['%', 's'] doublePercent ?_ ?_
    · simp only [driverStatement, holds, parts]
      rfl
    · rw [readBy, String.toList_ofList, formatPlaces_marked]
  | extendedFormat =>
    refine positioned ['%', 's'] doublePercent ?_ ?_
    · simp only [driverStatement, holds, parts]
      rfl
    · rw [readBy, String.toList_ofList, formatPlaces_marked]

end RecordStore.Sql
