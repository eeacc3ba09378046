import RecordStore.Proofs.Number.Numeral
import RecordStore.Proofs.Number.Rounding

/-!
# The text of a floating-point number reads back

`shortest` finds digits that round to the number it is given, and every layout that `magnitudeText`
chooses spells those digits. `finite_chars` puts both together.
-/

namespace RecordStore.Binary64

/-! ### The digits -/

theorem nearestOnGrid?_place {place : Fin finiteCount} {power : Int} {d : Decimal}
    (h : nearestOnGrid? place power = some d) : decimalPlace d.digits d.power = place := by
  unfold nearestOnGrid? at h
  generalize onGrid place power = grid at h
  obtain ⟨num, den⟩ := grid
  dsimp only at h
  split at h
  · cases h
  · rename_i below _
    injection h with h
    subst h
    exact decimalPlace_of_ofDecimal (by simpa using below)
  · rename_i _ above
    injection h with h
    subst h
    exact decimalPlace_of_ofDecimal (by simpa using above)
  · rename_i below above
    injection h with h
    subst h
    -- a rounded quotient is one of its two neighbours
    have neighbour : roundHalfEven num den = num / den ∨ roundHalfEven num den = num / den + 1 := by
      unfold roundHalfEven
      dsimp only
      split
      · exact Or.inl rfl
      · split
        · exact Or.inr rfl
        · omega
    rcases neighbour with same | next
    · exact decimalPlace_of_ofDecimal (by simpa [same] using below)
    · exact decimalPlace_of_ofDecimal (by simpa [next] using above)

/-- The expansion that `shortest` falls back to is exact. -/
theorem decimalPlace_expansion (place : Nat) : decimalPlace (units place * Nat.pow 5 1074) (-1074) = place := by
  obtain ⟨k, eq, hk⟩ := one_eq
  have power : (-(-1074) : Int).toNat = k := by omega
  have none : (-1074 : Int).toNat = 0 := by decide
  have fives : Nat.pow 5 1074 = 5 ^ k := by
    rw [← hk]
    exact Nat.pow_eq
  unfold decimalPlace
  rw [power, none, Nat.pow_zero, Nat.mul_one, fives]
  refine (nearestPlace_congr (Nat.pow_pos (by decide)) one_pos ?_).trans (nearestPlace_units place)
  rw [eq, Nat.mul_assoc, ← Nat.mul_pow]

theorem stripped_go_place (fuel digits : Nat) (power : Int) :
    let d := Decimal.stripped.go fuel digits power
    decimalPlace d.digits d.power = decimalPlace digits power := by
  induction fuel generalizing digits power with
  | zero => rfl
  | succ fuel ih =>
    unfold Decimal.stripped.go
    split
    · rename_i ten
      have whole : digits / 10 * 10 ^ 1 = digits := by omega
      refine (ih (digits / 10) (power + 1)).trans ?_
      have shift := decimalPlace_mul_pow (digits / 10) 1 power
      rw [whole] at shift
      exact shift.symm
    · rfl

theorem stripped_place (d : Decimal) :
    decimalPlace d.stripped.digits d.stripped.power = decimalPlace d.digits d.power :=
  stripped_go_place ..

theorem shortest_eq (place : Fin finiteCount) :
    shortest place = (((List.range 17).findSome? fun (n : Nat) =>
      nearestOnGrid? place (pointPlace place - (n + 1 : Int))).getD
        ⟨units place * Nat.pow 5 1074, -1074⟩).stripped := rfl

theorem shortest_place (place : Fin finiteCount) :
    decimalPlace (shortest place).digits (shortest place).power = place := by
  rw [shortest_eq, stripped_place]
  generalize hf : (List.range 17).findSome? _ = found
  cases found with
  | none =>
    simp only [Option.getD_none]
    exact decimalPlace_expansion place
  | some d =>
    obtain ⟨n, _, grid⟩ := List.exists_of_findSome?_eq_some hf
    exact nearestOnGrid?_place grid

theorem shortest_digits_ne_zero {place : Fin finiteCount} (h : place.val ≠ 0) : (shortest place).digits ≠ 0 := by
  intro none
  have same := shortest_place place
  rw [none, decimalPlace_zero] at same
  exact h same.symm

/-! ### The layout -/

/-- A numeral that spells the number at a place, and as a floating-point number. -/
structure Spells (n : Numeral) (place : Nat) : Prop where
  wellFormed : n.WellFormed
  positive : n.negative = false
  isFloat : n.isWhole = false
  place : decimalPlace (natOfDigits (n.whole ++ n.fraction.getD []))
    (n.exponent.getD 0 - (n.fraction.getD []).length) = place

theorem pointed_spells {whole fraction : List Char} {place : Nat} (nonempty : whole ≠ [])
    (inside : ∀ c ∈ whole, c.isDigit = true) (leading : ¬ (whole.head? = some '0' ∧ whole.length > 1))
    (fractionNonempty : fraction ≠ []) (fractionInside : ∀ c ∈ fraction, c.isDigit = true)
    (same : decimalPlace (natOfDigits (whole ++ fraction)) (-fraction.length) = place) :
    Spells ⟨false, whole, some fraction, none⟩ place where
  wellFormed := ⟨nonempty, inside, leading, by simpa using fractionNonempty, by simpa using fractionInside⟩
  positive := rfl
  isFloat := rfl
  place := by simpa using same

theorem pointed_chars (whole fraction : List Char) :
    Numeral.chars ⟨false, whole, some fraction, none⟩ = whole ++ '.' :: fraction := by
  simp [Numeral.chars, Numeral.signChars, Numeral.fractionChars, Numeral.exponentChars]

/-- The layout that is chosen for the digits of a number other than zero. -/
def layout (d : Decimal) : List Char :=
  let digits := Nat.toDigits 10 d.digits
  let point := (digits.length : Int) + d.power
  if -4 < point ∧ point ≤ 16 then
    if point ≤ 0 then '0' :: '.' :: (List.replicate (-point).toNat '0' ++ digits)
    else
      let before := point.toNat
      if digits.length ≤ before then
        digits ++ List.replicate (before - digits.length) '0' ++ ['.', '0']
      else digits.take before ++ '.' :: digits.drop before
  else
    let fraction := match digits.drop 1 with
      | [] => []
      | rest => '.' :: rest
    digits.take 1 ++ fraction ++ 'e' :: exponentText (point - 1)

theorem magnitudeText_of_ne_zero {place : Fin finiteCount} (h : place.val ≠ 0) :
    magnitudeText place = layout (shortest place) := by
  refine (if_neg h).trans ?_
  generalize shortest place = d
  by_cases near : -4 < ((Nat.toDigits 10 d.digits).length : Int) + d.power ∧
      ((Nat.toDigits 10 d.digits).length : Int) + d.power ≤ 16
  · exact (if_pos near).trans (if_pos near).symm
  · refine (if_neg near).trans (Eq.trans ?_ (if_neg near).symm)
    match Nat.toDigits 10 d.digits with
    | [] => rfl
    | [_] => rfl
    | _ :: _ :: _ => rfl

theorem magnitudeText_of_zero {place : Fin finiteCount} (h : place.val = 0) :
    magnitudeText place = ['0', '.', '0'] := by
  rw [magnitudeText.eq_def, if_pos h]

/-- The digits of a number other than zero. -/
structure DigitsOf (digits : List Char) (n : Nat) : Prop where
  nonempty : digits ≠ []
  inside : ∀ c ∈ digits, c.isDigit = true
  leading : digits.head? ≠ some '0'
  value : natOfDigits digits = n

theorem digitsOf_toDigits {n : Nat} (nonzero : n ≠ 0) : DigitsOf (Nat.toDigits 10 n) n :=
  ⟨Nat.toDigits_ne_nil, fun _ hc => isDigit_of_mem_toDigits hc, toDigits_head nonzero, natOfDigits_toDigits n⟩

theorem isDigit_of_mem_zeros {k : Nat} : ∀ c ∈ List.replicate k '0', c.isDigit = true := by
  intro c hc
  rw [(List.mem_replicate.1 hc).2]
  rfl

section Layouts
variable {digits : List Char} {n : Nat}

theorem zerosBefore_spells (h : DigitsOf digits n) {zeros : Nat} :
    Spells ⟨false, ['0'], some (List.replicate zeros '0' ++ digits), none⟩
      (decimalPlace n (-(zeros + digits.length : Nat))) := by
  apply pointed_spells (by simp) (by simp) (by simp)
  · simp [h.nonempty]
  · intro c hc
    rcases List.mem_append.1 hc with zero | digit
    · exact isDigit_of_mem_zeros c zero
    · exact h.inside c digit
  · have front : ['0'] ++ List.replicate zeros '0' = List.replicate (zeros + 1) '0' := rfl
    rw [← List.append_assoc, natOfDigits_append, h.value, front, natOfDigits_zeros, Nat.zero_mul, Nat.zero_add,
      List.length_append, List.length_replicate]

theorem zerosAfter_spells (h : DigitsOf digits n) {zeros : Nat} :
    Spells ⟨false, digits ++ List.replicate zeros '0', some ['0'], none⟩ (decimalPlace n zeros) := by
  have leading : (digits ++ List.replicate zeros '0').head? ≠ some '0' := by
    obtain ⟨first, more, rfl⟩ := List.exists_cons_of_ne_nil h.nonempty
    exact h.leading
  apply pointed_spells (by simp [h.nonempty]) _ (fun zero => leading zero.1) (by simp) (by simp)
  · have back : List.replicate zeros '0' ++ ['0'] = List.replicate (zeros + 1) '0' := List.replicate_succ'.symm
    have power : -((['0'].length : Nat) : Int) + ((zeros + 1 : Nat) : Int) = zeros := by
      simp only [List.length_singleton]
      omega
    rw [List.append_assoc, natOfDigits_append, h.value, back, natOfDigits_zeros, Nat.add_zero, decimalPlace_mul_pow,
      List.length_replicate, power]
  · intro c hc
    rcases List.mem_append.1 hc with digit | zero
    · exact h.inside c digit
    · exact isDigit_of_mem_zeros c zero

theorem pointInside_spells (h : DigitsOf digits n) {before : Nat} (low : 0 < before) (high : before < digits.length) :
    Spells ⟨false, digits.take before, some (digits.drop before), none⟩
      (decimalPlace n (-(digits.length - before : Nat))) := by
  apply pointed_spells
  · intro empty
    have short := congrArg List.length empty
    rw [List.length_take, List.length_nil] at short
    omega
  · exact fun c hc => h.inside c (List.mem_of_mem_take hc)
  · rintro ⟨zero, _⟩
    rw [List.head?_take, if_neg (by omega)] at zero
    exact h.leading zero
  · intro empty
    have short := congrArg List.length empty
    rw [List.length_drop, List.length_nil] at short
    omega
  · exact fun c hc => h.inside c (List.mem_of_mem_drop hc)
  · rw [List.take_append_drop, h.value, List.length_drop]

theorem exponent_spells {first : Char} {more : List Char} (h : DigitsOf (first :: more) n) (exponent : Int) :
    Spells ⟨false, [first], if more = [] then none else some more, some exponent⟩
      (decimalPlace n (exponent - more.length)) := by
  have digits : (if more = [] then none else some more).getD [] = more := by
    cases more <;> rfl
  have given : ∀ f, (if more = [] then none else some more) = some f → f = more ∧ more ≠ [] := by
    intro f hf
    split at hf
    · cases hf
    · rename_i nonempty
      cases hf
      exact ⟨rfl, nonempty⟩
  refine ⟨⟨by simp, ?_, by simp, ?_, ?_⟩, rfl, by simp [Numeral.isWhole], ?_⟩
  · simpa using h.inside first List.mem_cons_self
  · intro f hf
    obtain ⟨rfl, nonempty⟩ := given f hf
    exact nonempty
  · intro f hf c hc
    obtain ⟨rfl, _⟩ := given f hf
    exact h.inside c (List.mem_cons_of_mem _ hc)
  · dsimp only
    rw [digits, List.singleton_append, h.value, Option.getD_some]

end Layouts

theorem exponent_chars (first : Char) (more : List Char) (exponent : Int) :
    Numeral.chars ⟨false, [first], if more = [] then none else some more, some exponent⟩ =
      [first] ++ (match more with
        | [] => []
        | rest => '.' :: rest) ++ 'e' :: exponentText exponent := by
  cases more <;> simp [Numeral.chars, Numeral.signChars, Numeral.fractionChars, Numeral.exponentChars]

theorem layout_spells {d : Decimal} {place : Nat} (nonzero : d.digits ≠ 0)
    (rounds : decimalPlace d.digits d.power = place) : ∃ n : Numeral, layout d = n.chars ∧ Spells n place := by
  have own := digitsOf_toDigits nonzero
  unfold layout
  dsimp only
  rw [← rounds]
  generalize Nat.toDigits 10 d.digits = digits at own ⊢
  by_cases near : -4 < (digits.length : Int) + d.power ∧ (digits.length : Int) + d.power ≤ 16
  · rw [if_pos near]
    by_cases low : (digits.length : Int) + d.power ≤ 0
    · -- zeros stand between the point and the digits
      rw [if_pos low]
      generalize hz : (-((digits.length : Int) + d.power)).toNat = zeros
      have power : d.power = -(zeros + digits.length : Nat) := by omega
      rw [power]
      exact ⟨_, (pointed_chars ['0'] _).symm, zerosBefore_spells own⟩
    · rw [if_neg low]
      by_cases short : digits.length ≤ ((digits.length : Int) + d.power).toNat
      · -- zeros stand between the digits and the point
        rw [if_pos short]
        generalize hz : ((digits.length : Int) + d.power).toNat - digits.length = zeros
        have power : d.power = zeros := by omega
        rw [power]
        exact ⟨_, (pointed_chars _ ['0']).symm, zerosAfter_spells own⟩
      · -- the point stands among the digits
        rw [if_neg short]
        generalize hb : ((digits.length : Int) + d.power).toNat = before at short
        have power : d.power = -(digits.length - before : Nat) := by omega
        rw [power]
        exact ⟨_, (pointed_chars _ _).symm, pointInside_spells own (by omega) (by omega)⟩
  · -- one digit stands before the point, and an exponent behind the digits
    rw [if_neg near]
    obtain ⟨first, more, rfl⟩ := List.exists_cons_of_ne_nil own.nonempty
    generalize he : (((first :: more).length : Int) + d.power - 1) = exponent
    have power : d.power = exponent - more.length := by
      rw [List.length_cons] at he
      omega
    rw [power]
    exact ⟨_, (exponent_chars first more exponent).symm, exponent_spells own exponent⟩

theorem magnitudeText_spells (place : Fin finiteCount) :
    ∃ n : Numeral, magnitudeText place = n.chars ∧ Spells n place := by
  by_cases zero : place.val = 0
  · refine ⟨⟨false, ['0'], some ['0'], none⟩, magnitudeText_of_zero zero, ?_⟩
    apply pointed_spells (by simp) (by simp) (by simp) (by simp) (by simp)
    rw [zero]
    exact decimalPlace_zero _
  · rw [magnitudeText_of_ne_zero zero]
    exact layout_spells (shortest_digits_ne_zero zero) (shortest_place place)

/-- The text of a finite number is a numeral that stands for the number. -/
theorem finite_chars (negative : Bool) (place : Fin finiteCount) :
    ∃ n : Numeral, (finite negative place).chars = n.chars ∧ n.WellFormed ∧ n.isWhole = false ∧
      n.toBinary64 = .finite negative place := by
  obtain ⟨n, written, spells⟩ := magnitudeText_spells place
  obtain ⟨sign, whole, fraction, exponent⟩ := n
  obtain ⟨wellFormed, positive, isFloat, rounds⟩ := spells
  dsimp only at positive rounds
  subst positive
  refine ⟨⟨negative, whole, fraction, exponent⟩, ?_, ⟨wellFormed.1, wellFormed.2, wellFormed.3, wellFormed.4,
    wellFormed.5⟩, isFloat, ofDecimal_of_decimalPlace negative rounds⟩
  change (if negative = true then ['-'] else []) ++ magnitudeText place = _
  rw [written]
  rfl

end RecordStore.Binary64
