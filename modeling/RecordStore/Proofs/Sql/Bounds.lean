import RecordStore.Proofs.Sql.Percent

/-!
# Placeholders beyond the values

A statement for a driver that binds by position is refused at its first placeholder that is too long to be read or has a
number above that of the last value. The number zero is none of a value, but it is not refused: such a placeholder gets the
last value.
-/

namespace RecordStore.Sql

/-- The digits of a placeholder. -/
def Stretch.digits? : Stretch → Option (List Char)
  | plain _ => none
  | placeholder digits => some digits

/-- The value that is bound for a placeholder: numbers count from one, and zero stands for the last value. -/
def boundValue? (values : List Value) (digits : List Char) : Option Value :=
  match Text.natOfDigits digits with
  | 0 => values.getLast?
  | n + 1 => values[n]?

/-- A placeholder for which a value is bound. -/
structure Reaches (values : List Value) (digits : List Char) : Prop where
  readable : digits.length ≤ digitLimit
  inside : Text.natOfDigits digits ≤ values.length

/-- What a placeholder fails with that reaches no value. -/
def placeholderMisuse (params : Value) (digits : List Char) : Misuse :=
  if digits.length ≤ digitLimit then
    if Text.natOfDigits digits ≤ indexLimit then .outOfRange params.shape else .hugeIndex
  else .malformed (.readDigits digits.length)

section Placeholder
variable {params : Value} {values : List Value} {digits : List Char}

/-- Only the number zero gets another value than the one that it names, if it names any. -/
theorem boundValue?_eq_named (positive : Text.natOfDigits digits ≠ 0) :
    boundValue? values digits = namedValue? values digits := by
  unfold boundValue? namedValue?
  cases number : Text.natOfDigits digits with
  | zero => exact absurd number positive
  | succ n => rfl

theorem namedValue?_zero (zero : Text.natOfDigits digits = 0) : namedValue? values digits = none := by
  rw [namedValue?, zero]

theorem boundValue?_reaching (nonempty : values ≠ []) (inside : Text.natOfDigits digits ≤ values.length) :
    (boundValue? values digits).isSome := by
  unfold boundValue?
  cases number : Text.natOfDigits digits with
  | zero => simpa using nonempty
  | succ n =>
    dsimp only
    rw [List.getElem?_eq_getElem (by omega)]
    rfl

theorem placeholderValue_zero (listed : Lists params values) (nonempty : values ≠ []) (readable : digits.length ≤ digitLimit)
    (zero : Text.natOfDigits digits = 0) {v : Value} (last : values.getLast? = some v) :
    placeholderValue params digits = .ok v := by
  have filled : 0 < values.length := List.length_pos_iff.2 nonempty
  have low : ¬ ((-1 : Int) ≥ indexLimit) := by omega
  have place : (if (-1 : Int) < 0 then -1 + (values.length : Int) else -1) = (values.length - 1 : Nat) := by
    rw [if_pos (by decide)]
    omega
  have positive : ¬ (((values.length - 1 : Nat) : Int) < 0) := by omega
  rw [placeholderValue, placeholderNumber, if_pos readable, zero]
  change parameterAt params (((0 : Nat) : Int) - 1) = _
  rw [listed.parameterAt]
  change itemAt params.shape values (-1) = _
  unfold itemAt
  dsimp only
  rw [place, if_neg low, if_neg positive, Int.toNat_natCast, ← List.getLast?_eq_getElem?, last]

theorem placeholderValue_reaching (listed : Lists params values) (nonempty : values ≠ []) (short : values.length ≤ indexLimit)
    (reaches : Reaches values digits) :
    ∃ v, boundValue? values digits = some v ∧ placeholderValue params digits = .ok v := by
  obtain ⟨v, bound⟩ := Option.isSome_iff_exists.1 (boundValue?_reaching nonempty reaches.inside)
  refine ⟨v, bound, ?_⟩
  by_cases zero : Text.natOfDigits digits = 0
  · rw [boundValue?, zero] at bound
    exact placeholderValue_zero listed nonempty reaches.readable zero bound
  · rw [boundValue?_eq_named zero] at bound
    exact placeholderValue_named listed short reaches.readable bound

theorem placeholderValue_beyond (listed : Lists params values) (beyond : ¬ Reaches values digits) :
    placeholderValue params digits = .error (placeholderMisuse params digits) := by
  unfold placeholderMisuse
  by_cases readable : digits.length ≤ digitLimit
  · have above : values.length < Text.natOfDigits digits :=
      Nat.lt_of_not_le fun inside => beyond ⟨readable, inside⟩
    obtain ⟨n, number⟩ : ∃ n, Text.natOfDigits digits = n + 1 := ⟨Text.natOfDigits digits - 1, by omega⟩
    have index : ((n + 1 : Nat) : Int) - 1 = n := by omega
    have missing : values[n]? = none := List.getElem?_eq_none_iff.2 (by omega)
    rw [if_pos readable, placeholderValue, placeholderNumber, if_pos readable, number]
    change parameterAt params (((n + 1 : Nat) : Int) - 1) = _
    rw [index, listed.parameterAt]
    unfold itemAt
    by_cases huge : n + 1 ≤ indexLimit
    · have low : ¬ ((n : Int) ≥ indexLimit) := by omega
      have positive : ¬ ((n : Int) < 0) := by omega
      simp only [low, positive, if_false, Int.toNat_natCast, missing, if_pos huge]
    · have high : (n : Int) ≥ indexLimit := by omega
      simp only [high, if_true, if_neg huge]
  · rw [if_neg readable]
    exact placeholderValue_unread params (Nat.lt_of_not_le readable)

theorem reaches_of_ok (listed : Lists params values) {v : Value} (value : placeholderValue params digits = .ok v) :
    Reaches values digits := by
  by_cases reaches : Reaches values digits
  · exact reaches
  · cases (placeholderValue_beyond listed reaches).symm.trans value

/-! ### Placeholders one after the other -/

variable {named : List (List Char)}

theorem placeholders_ok_iff (listed : Lists params values) (nonempty : values ≠ []) (short : values.length ≤ indexLimit) :
    (∃ bound, named.mapM (placeholderValue params) = .ok bound) ↔ ∀ digits ∈ named, Reaches values digits := by
  constructor
  · rintro ⟨bound, found⟩ digits member
    obtain ⟨i, place⟩ := List.getElem?_of_mem member
    obtain ⟨v, _, value⟩ := (mapM_ok_iff.1 found).2 i digits place
    exact reaches_of_ok listed value
  · intro all
    exact mapM_total fun digits member =>
      (placeholderValue_reaching listed nonempty short (all digits member)).imp fun v => And.right

theorem placeholders_fail (listed : Lists params values) (nonempty : values ≠ []) (short : values.length ≤ indexLimit)
    {before after : List (List Char)} (fine : ∀ other ∈ before, Reaches values other) (beyond : ¬ Reaches values digits) :
    (before ++ digits :: after).mapM (placeholderValue params) = .error (placeholderMisuse params digits) := by
  have fails := placeholderValue_beyond listed beyond
  -- The values are read from left to right, so the first failure is what the whole list comes to.
  have first : Overall ((before ++ digits :: after).map (placeholderValue params))
      (.error (placeholderMisuse params digits)) := by
    refine .failed (i := before.length) (by simp [fails]) fun j earlier => ?_
    obtain ⟨v, _, value⟩ := placeholderValue_reaching listed nonempty short (fine before[j] (List.getElem_mem earlier))
    exact ⟨v, by simp [List.getElem?_append_left, earlier, value]⟩
  exact (overall_mapM _ _).unique first

theorem placeholders_bound (listed : Lists params values) (nonempty : values ≠ []) (short : values.length ≤ indexLimit)
    {bound : List Value} (found : named.mapM (placeholderValue params) = .ok bound) :
    bound.map some = named.map (boundValue? values) := by
  obtain ⟨length, each⟩ := mapM_ok_iff.1 found
  refine List.ext_getElem? fun i => ?_
  rw [List.getElem?_map, List.getElem?_map]
  cases place : named[i]? with
  | none =>
    rw [List.getElem?_eq_none_iff.2 (length ▸ List.getElem?_eq_none_iff.1 place)]
    rfl
  | some digits =>
    obtain ⟨v, there, value⟩ := each i digits place
    obtain ⟨own, same, again⟩ := placeholderValue_reaching listed nonempty short (reaches_of_ok listed value)
    rw [there, Option.map_some, Option.map_some, same, Except.ok.inj (value.symm.trans again)]

/-- Everywhere the value that is named is bound exactly if the number zero is not there. -/
theorem bound_eq_named_iff (nonempty : values ≠ []) (all : ∀ digits ∈ named, Reaches values digits) :
    named.map (boundValue? values) = named.map (namedValue? values) ↔ ∀ digits ∈ named, Text.natOfDigits digits ≠ 0 := by
  rw [List.map_inj_left]
  refine forall₂_congr fun digits member => ⟨fun same zero => ?_, boundValue?_eq_named⟩
  have some := boundValue?_reaching nonempty (all digits member).inside
  rw [same, namedValue?_zero zero] at some
  cases some

end Placeholder

/-! ### Statements -/

theorem placeholderValues_eq_mapM (params : Value) (parts : List Stretch) :
    placeholderValues params parts = (parts.filterMap Stretch.digits?).mapM (placeholderValue params) := by
  induction parts with
  | nil => rfl
  | cons part rest ih =>
    cases part with
    | plain c => exact ih
    | placeholder digits =>
      have first : (Stretch.placeholder digits :: rest).filterMap Stretch.digits? =
          digits :: rest.filterMap Stretch.digits? := rfl
      rw [placeholderValues, ih, first, List.mapM_cons]

/-- Styles of drivers that bind one value after the other. -/
def ParamStyle.ByPosition (style : ParamStyle) : Prop := style = .format ∨ style = .extendedFormat ∨ style = .qmark

theorem driverStatement_positional (statement : String) {params : Value} {style : ParamStyle}
    (byPosition : style.ByPosition) (holds : params.holds = true) : ∃ mark plain,
      driverStatement statement params style = liftM (positional mark plain params (stretches statement.toList)) := by
  rcases byPosition with percent | percent | rfl
  · exact ⟨_, _, driverStatement_percent statement params (.inl percent) holds⟩
  · exact ⟨_, _, driverStatement_percent statement params (.inr percent) holds⟩
  · refine ⟨['?'], ([·]), ?_⟩
    simp only [driverStatement, holds]
    rfl

/-- A statement can be made for a driver that binds by position exactly if each of its placeholders reaches a value; the first
one that does not is what it fails with. Each placeholder has the value that it names bound for it, except that one with the
number zero, which names none, gets the last value. -/
theorem refused_beyond (statement : String) {params : Value} {values : List Value} (listed : Lists params values)
    (nonempty : values ≠ []) (short : values.length ≤ indexLimit) {style : ParamStyle} (byPosition : style.ByPosition)
    {parts : List Stretch} (cut : Cut statement.toList parts) {named : List (List Char)}
    (placeholders : parts.filterMap Stretch.digits? = named) :
    ((∃ driver, driverStatement statement params style = .ok driver) ↔ ∀ digits ∈ named, Reaches values digits) ∧
    (∀ before digits after, named = before ++ digits :: after → (∀ other ∈ before, Reaches values other) →
      ¬ Reaches values digits →
        driverStatement statement params style = .error (.ofMisuse (placeholderMisuse params digits))) ∧
    ∀ driver, driverStatement statement params style = .ok driver → ∃ bound, driver.params = some bound ∧
      bound.map some = named.map (boundValue? values) ∧
      (bound.map some = named.map (namedValue? values) ↔ ∀ digits ∈ named, Text.natOfDigits digits ≠ 0) := by
  obtain ⟨mark, plain, made⟩ := driverStatement_positional statement byPosition (listed.holds nonempty)
  rw [made, stretches_of_cut cut, positional, placeholderValues_eq_mapM, placeholders]
  have readable := @placeholders_ok_iff _ _ named listed nonempty short
  refine ⟨⟨?_, fun all => ?_⟩, ?_, ?_⟩
  · rintro ⟨driver, rendered⟩
    obtain ⟨bound, found, _⟩ := bind_ok (misuse_ok rendered)
    exact readable.1 ⟨bound, found⟩
  · obtain ⟨bound, found⟩ := readable.2 all
    rw [found]
    exact ⟨_, rfl⟩
  · rintro before digits after rfl fine beyond
    rw [placeholders_fail listed nonempty short fine beyond]
    rfl
  · rintro driver rendered
    obtain ⟨bound, found, same⟩ := bind_ok (misuse_ok rendered)
    obtain rfl := pure_ok same
    have values_eq := placeholders_bound listed nonempty short found
    refine ⟨bound, rfl, values_eq, ?_⟩
    rw [values_eq]
    exact bound_eq_named_iff nonempty (readable.1 ⟨bound, found⟩)

def pairSample : List Value := [.text "a", .text "b"]

/-- The second placeholder of the first statement has no value; in the other one zeros stand before a number. -/
theorem pairSample_refused :
    driverStatement "in ($1, $3)" (.tuple pairSample) .qmark = .error (.ofMisuse (.outOfRange "tuple")) ∧
    ∃ driver bound, driverStatement "in ($002, $1)" (.tuple pairSample) .qmark = .ok driver ∧ driver.params = some bound ∧
      bound.map some = [some (.text "b"), some (.text "a")] := by
  have listed : Lists (.tuple pairSample) pairSample := ⟨rfl, rfl⟩
  have refused := refused_beyond "in ($1, $3)" listed (by decide) (by decide) (.inr (.inr rfl)) (cut_stretches _) rfl
  have made := refused_beyond "in ($002, $1)" listed (by decide) (by decide) (.inr (.inr rfl)) (cut_stretches _) rfl
  have reach : ∀ digits ∈ [['0', '0', '2'], ['1']], Reaches pairSample digits := by
    simp only [List.mem_cons, List.not_mem_nil, or_false, forall_eq_or_imp, forall_eq]
    exact ⟨⟨by decide, by decide⟩, ⟨by decide, by decide⟩⟩
  refine ⟨refused.2.1 [['1']] ['3'] [] rfl ?_ ?_, ?_⟩
  · simp only [List.mem_singleton, forall_eq]
    exact ⟨by decide, by decide⟩
  · exact fun reaches => absurd reaches.inside (by decide)
  · obtain ⟨driver, rendered⟩ := made.1.2 reach
    obtain ⟨bound, params, values, _⟩ := made.2.2 driver rendered
    exact ⟨driver, bound, rendered, params, values⟩

/-- A placeholder with the number zero is no place of a value, and it is not refused: it gets the last value. -/
theorem zero_reaches_last : Cut "a = $0".toList [.plain 'a', .plain ' ', .plain '=', .plain ' ', .placeholder ['0']] ∧
    Text.natOfDigits ['0'] = 0 ∧ namedValue? pairSample ['0'] = none ∧
    driverStatement "a = $0" (.list pairSample) .qmark = .ok ⟨"a = ?", some [.text "b"]⟩ :=
  ⟨cut_iff.2 rfl, rfl, rfl, rfl⟩

end RecordStore.Sql
