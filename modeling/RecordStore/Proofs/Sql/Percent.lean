import RecordStore.Proofs.Sql.Drivers

/-!
# Percent signs and placeholders

Drivers with percent marks read two percent signs as one and `%s` as the next value. Whatever a statement holds, its percent
signs are doubled before its placeholders are marked, so the driver finds the statement with the values that the placeholders
name, and nothing else.
-/

namespace RecordStore.Sql

/-! ### Taking statements apart -/

/-- A text and its stretches: a placeholder is a dollar sign with all the digits behind it, and at least one; every other
character stands for itself. -/
inductive Cut : List Char → List Stretch → Prop
  | done : Cut [] []
  | plain {c : Char} {rest : List Char} {parts : List Stretch} (noMark : c = '$' → NoDigit rest) (later : Cut rest parts) :
      Cut (c :: rest) (.plain c :: parts)
  | placeholder {digits rest : List Char} {parts : List Stretch} (nonempty : digits ≠ [])
      (each : ∀ c ∈ digits, Text.isDigit c = true) (whole : NoDigit rest) (later : Cut rest parts) :
      Cut ('$' :: (digits ++ rest)) (.placeholder digits :: parts)

/-- The digits that a text starts with, and what is behind them. -/
theorem digits_split {cs : List Char} (some : ¬ NoDigit cs) :
    ∃ digits rest, cs = digits ++ rest ∧ digits ≠ [] ∧ (∀ c ∈ digits, Text.isDigit c = true) ∧ NoDigit rest := by
  refine ⟨leadingDigits cs, cs.dropWhile Text.isDigit, List.takeWhile_append_dropWhile.symm, ?_, ?_, ?_⟩
  · exact fun none => some (leadingDigits_nil.1 none)
  · exact List.all_eq_true.1 List.all_takeWhile
  · intro c first
    have found := List.head?_dropWhile_not Text.isDigit cs
    rw [Option.mem_def.1 first] at found
    exact found

theorem stretches_of_cut {cs : List Char} {parts : List Stretch} (cut : Cut cs parts) : stretches cs = parts := by
  induction cut with
  | done => rfl
  | plain noMark _ ih => rw [stretches_char noMark, ih]
  | placeholder nonempty each whole _ ih => rw [stretches_placeholder nonempty each whole, ih]

theorem cut_stretches : ∀ cs : List Char, Cut cs (stretches cs)
  | [] => .done
  | c :: rest => by
    by_cases mark : c = '$' → NoDigit rest
    · rw [stretches_char mark]
      exact .plain mark (cut_stretches rest)
    · rw [Classical.not_imp] at mark
      obtain ⟨rfl, some⟩ := mark
      obtain ⟨digits, tail, split, nonempty, each, whole⟩ := digits_split some
      have shorter : tail.length ≤ rest.length := by
        rw [split, List.length_append]
        exact Nat.le_add_left ..
      -- all digits are taken at once, so it is what stands behind them that is shorter
      have later := cut_stretches tail
      subst split
      rw [stretches_placeholder nonempty each whole]
      exact .placeholder nonempty each whole later
termination_by cs => cs.length
decreasing_by
  · exact Nat.lt_succ_self _
  · exact Nat.lt_succ_of_le shorter

/-- Every text has its stretches, and no others. -/
theorem cut_iff {cs : List Char} {parts : List Stretch} : Cut cs parts ↔ parts = stretches cs := by
  constructor
  · exact fun cut => (stretches_of_cut cut).symm
  · rintro rfl
    exact cut_stretches cs

/-! ### Percent marks -/

/-- What a driver with percent marks gets for a statement, and finds in it: the stretches of the statement, with the value of
its number in the place of each placeholder. It takes exactly the values that it gets. -/
structure FoundByPercent (statement : String) (params : Value) (values : List Value) (style : ParamStyle)
    (parts : List Stretch) (sql : String) (bound : List Value) : Prop where
  made : driverStatement statement params style = .ok ⟨sql, some bound⟩
  found : filled bound (formatPlaces sql.toList) = parts.map (spotOf values)
  taken : (filled bound (formatPlaces sql.toList)).filterMap Spot.value? = bound
  count : (formatPlaces sql.toList).countP (· matches .next) = bound.length

theorem countP_places (values : List Value) (parts : List Stretch) :
    (parts.map placeOf).countP (· matches .next) = (parts.map (spotOf values)).countP Spot.isMark := by
  induction parts with
  | nil => rfl
  | cons part rest ih =>
    rw [List.map_cons, List.map_cons, List.countP_cons, List.countP_cons, ih]
    cases part with
    | plain c => rfl
    | placeholder digits =>
      rw [spotOf]
      cases namedValue? values digits <;> rfl

theorem driverStatement_percent (statement : String) (params : Value) {style : ParamStyle}
    (percent : style = .format ∨ style = .extendedFormat) (holds : params.holds = true) :
    driverStatement statement params style =
      liftM (positional ['%', 's'] doublePercent params (stretches statement.toList)) := by
  rcases percent with rfl | rfl
  · simp only [driverStatement, holds]
    rfl
  · simp only [driverStatement, holds]
    rfl

/-- Whatever a statement holds, drivers with percent marks find it with the values in the places of its placeholders, as long
as these number values and can be read. -/
theorem found_by_percent (statement : String) {params : Value} {values : List Value} (listed : Lists params values)
    (nonempty : values ≠ []) (short : values.length ≤ indexLimit)
    (numbered : ∀ parts, Cut statement.toList parts → ∀ digits, .placeholder digits ∈ parts → Numbers values digits)
    {style : ParamStyle} (percent : style = .format ∨ style = .extendedFormat) :
    ∃ parts sql bound, (∀ other, Cut statement.toList other ↔ other = parts) ∧
      FoundByPercent statement params values style parts sql bound := by
  have named := fun digits member => (numbered _ (cut_stretches statement.toList) digits member).names
  obtain ⟨bound, values_eq, read, count, taken⟩ := placeholderValues_named listed short named
  have places : formatPlaces (String.ofList (markedText (fun _ => ['%', 's']) doublePercent
      (stretches statement.toList))).toList = (stretches statement.toList).map placeOf := by
    rw [String.toList_ofList, formatPlaces_marked]
  refine ⟨stretches statement.toList,
    String.ofList (markedText (fun _ => ['%', 's']) doublePercent (stretches statement.toList)), bound,
    fun other => cut_iff, ?_, ?_, ?_, ?_⟩
  · rw [driverStatement_percent statement params percent (listed.holds nonempty), positional, values_eq]
    rfl
  · rw [places, read]
  · rw [places, read, taken]
  · rw [places, countP_places values, count]

def percentSample : String := "%$12%%s$1\"$x%s$02"

def twelve : List Value := (List.range 12).map fun n => .int n.succ

/-- Placeholders beside percent signs and other dollar signs, out of order and with a zero before the number. -/
theorem percentSample_found :
    (∃ parts sql bound, (∀ other, Cut percentSample.toList other ↔ other = parts) ∧
      FoundByPercent percentSample (.tuple twelve) twelve .extendedFormat parts sql bound) ∧
    driverStatement percentSample (.tuple twelve) .extendedFormat =
      .ok ⟨"%%%s%%%%s%s\"$x%%s%s", some [.int 12, .int 1, .int 2]⟩ := by
  refine ⟨found_by_percent percentSample ⟨rfl, rfl⟩ (by decide) (by decide) ?_ (.inr rfl), rfl⟩
  intro parts cut digits member
  have parts_eq : parts = [.plain '%', .placeholder ['1', '2'], .plain '%', .plain '%', .plain 's', .placeholder ['1'],
      .plain '"', .plain '$', .plain 'x', .plain '%', .plain 's', .placeholder ['0', '2']] :=
    (cut_iff.1 cut).trans (by decide)
  have found : digits = ['1', '2'] ∨ digits = ['1'] ∨ digits = ['0', '2'] := by simpa [parts_eq] using member
  rcases found with rfl | rfl | rfl
  · exact ⟨by decide, by decide, by decide⟩
  · exact ⟨by decide, by decide, by decide⟩
  · exact ⟨by decide, by decide, by decide⟩

/-! ### Placeholders that cannot be read -/

theorem placeholderValue_unread (params : Value) {digits : List Char} (long : digitLimit < digits.length) :
    placeholderValue params digits = .error (.malformed (.readDigits digits.length)) := by
  rw [placeholderValue, placeholderNumber, if_neg (Nat.not_le.2 long)]
  rfl

theorem natOfDigits_zeros (n : Nat) (digits : List Char) :
    Text.natOfDigits (List.replicate n '0' ++ digits) = Text.natOfDigits digits := by
  induction n with
  | zero => rfl
  | succ n ih => exact ih

/-- The number one behind as many zeros as there may be digits. -/
def longOne : List Char := List.replicate digitLimit '0' ++ ['1']

/-- A placeholder that numbers a value and has more digits than may be read makes the statement fail. -/
theorem longOne_unread : Cut ('$' :: longOne) [.placeholder longOne] ∧ Text.natOfDigits longOne = 1 ∧
    driverStatement (String.ofList ('$' :: longOne)) (.list [.text "a"]) .extendedFormat =
      .error (.ofMisuse (.malformed (.readDigits (digitLimit + 1)))) := by
  have length : longOne.length = digitLimit + 1 := by
    rw [longOne, List.length_append, List.length_replicate]
    rfl
  have each : ∀ c ∈ longOne, Text.isDigit c = true := by
    intro c member
    rcases List.mem_append.1 member with zero | one
    · rw [List.eq_of_mem_replicate zero]
      decide
    · rw [List.mem_singleton.1 one]
      decide
  have nonempty : longOne ≠ [] := List.append_ne_nil_of_right_ne_nil _ (List.cons_ne_nil _ _)
  have cut : Cut ('$' :: longOne) [.placeholder longOne] := by
    have alone := @Cut.placeholder longOne [] [] nonempty each nofun .done
    rwa [List.append_nil] at alone
  refine ⟨cut, natOfDigits_zeros _ _, ?_⟩
  rw [driverStatement_percent _ _ (.inr rfl) rfl, String.toList_ofList, stretches_of_cut cut, positional,
    placeholderValues, placeholderValue_unread _ (by omega), length]
  rfl

end RecordStore.Sql
