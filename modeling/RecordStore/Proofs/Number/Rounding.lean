import Mathlib.Algebra.Group.Nat.Defs
import RecordStore.Number.Binary64

/-!
# Rounding to floating-point numbers

`ofRatio` and `ofDecimal` are governed by one function, the place that a quotient is rounded to.
It depends on the quotient only, it is the identity on the numbers themselves, and the powers that
`ofDecimal` does not compute are decided as if they were.
-/

namespace RecordStore.Binary64

/-- The place of the number nearest to a quotient; beyond the last place it stands for infinity. -/
def nearestPlace (num den : Nat) : Nat :=
  let whole := num * one / den
  let scale := if whole < 2 ^ 53 then 0 else whole.log2 - 52
  scale * 2 ^ 52 + roundHalfEven (num * one) (den * 2 ^ scale)

theorem ofRatio_eq (negative : Bool) (num den : Nat) :
    ofRatio negative num den =
      if h : nearestPlace num den < finiteCount then .finite negative ⟨nearestPlace num den, h⟩
      else .infinite negative := rfl

theorem ofRatio_of_nearestPlace {num den : Nat} (negative : Bool) (place : Fin finiteCount)
    (h : nearestPlace num den = place) : ofRatio negative num den = .finite negative place := by
  rw [ofRatio_eq, dif_pos (h ▸ place.isLt)]
  congr 1
  exact Fin.ext h

theorem nearestPlace_of_ofRatio {num den : Nat} {place : Fin finiteCount} {negative : Bool}
    (h : ofRatio negative num den = .finite negative place) : nearestPlace num den = place := by
  rw [ofRatio_eq] at h
  split at h
  · injection h with _ same
    exact congrArg Fin.val same
  · cases h

/-! ### The quotient alone decides -/

theorem roundHalfEven_mul (num den : Nat) {k : Nat} (hk : 0 < k) :
    roundHalfEven (k * num) (k * den) = roundHalfEven num den := by
  unfold roundHalfEven
  have twice : 2 * (k * num % (k * den)) = k * (2 * (num % den)) := by
    rw [Nat.mul_mod_mul_left, Nat.mul_left_comm]
  simp only [twice, Nat.mul_div_mul_left _ _ hk, Nat.mul_lt_mul_left hk]

theorem nearestPlace_mul (num den : Nat) {k : Nat} (hk : 0 < k) :
    nearestPlace (k * num) (k * den) = nearestPlace num den := by
  unfold nearestPlace
  simp only [Nat.mul_assoc k, Nat.mul_div_mul_left _ _ hk, roundHalfEven_mul _ _ hk]

theorem nearestPlace_congr {num₁ den₁ num₂ den₂ : Nat} (h₁ : 0 < den₁) (h₂ : 0 < den₂)
    (h : num₁ * den₂ = num₂ * den₁) : nearestPlace num₁ den₁ = nearestPlace num₂ den₂ := by
  rw [← nearestPlace_mul num₁ den₁ h₂, ← nearestPlace_mul num₂ den₂ h₁, Nat.mul_comm den₂ num₁, h,
    Nat.mul_comm num₂ den₁, Nat.mul_comm den₂ den₁]

/-! ### The numbers themselves -/

/-- The exponent is kept behind a name, since the power is too large to be computed. -/
theorem one_eq : ∃ k, one = 2 ^ k ∧ k = 1074 := by
  unfold one
  generalize 1074 = e
  exact ⟨e, Nat.pow_eq, rfl⟩

theorem one_pos : 0 < one := by
  obtain ⟨k, eq, _⟩ := one_eq
  rw [eq]
  exact Nat.two_pow_pos k

theorem roundHalfEven_multiple (whole : Nat) {den : Nat} (hden : 0 < den) :
    roundHalfEven (whole * den) den = whole := by
  unfold roundHalfEven
  simp [Nat.mul_div_cancel _ hden, hden]

theorem units_of_small {place : Nat} (h : place < 2 ^ 52) : units place = place := by
  have below : place < Nat.pow 2 52 := h
  have exponent_zero : exponent place = 0 := by
    unfold exponent
    rw [Nat.div_eq_of_lt below]
  unfold units mantissa
  rw [exponent_zero, if_pos below]
  exact Nat.mul_one place

theorem mantissa_bounds {place : Nat} (h : 2 ^ 52 ≤ place) :
    2 ^ 52 ≤ mantissa place ∧ mantissa place < 2 ^ 53 ∧
      exponent place * 2 ^ 52 + mantissa place = place := by
  have split := Nat.div_add_mod place (2 ^ 52)
  have below := Nat.mod_lt place (show 0 < 2 ^ 52 by decide)
  have above : 1 ≤ place / 2 ^ 52 := (Nat.one_le_div_iff (by decide)).2 h
  simp only [mantissa, exponent, Nat.pow_eq, Nat.not_lt.2 h, if_false]
  generalize place / 2 ^ 52 = q at *
  generalize place % 2 ^ 52 = r at *
  omega

/-- A number lies at its own place. -/
theorem nearestPlace_units (place : Nat) : nearestPlace (units place) one = place := by
  unfold nearestPlace
  rw [Nat.mul_div_cancel _ one_pos]
  by_cases small : place < 2 ^ 52
  · have narrow : place < 2 ^ 53 := Nat.lt_trans small (by decide)
    rw [units_of_small small]
    simp only [narrow, if_true, Nat.zero_mul, Nat.zero_add, Nat.pow_zero, Nat.mul_one]
    exact roundHalfEven_multiple _ one_pos
  · obtain ⟨low, high, sum⟩ := mantissa_bounds (Nat.le_of_not_lt small)
    by_cases flat : exponent place = 0
    · have same : units place = mantissa place := by simp [units, flat]
      simp only [same, high, if_true, Nat.pow_zero, Nat.mul_one, Nat.zero_mul, Nat.zero_add]
      rw [roundHalfEven_multiple _ one_pos]
      simpa [flat] using sum
    · -- the exponent is read off the highest bit of the units
      have powered : 2 ^ (52 + exponent place) ≤ units place := by
        rw [Nat.pow_add]
        exact Nat.mul_le_mul_right _ low
      have bounded : units place < 2 ^ (52 + exponent place + 1) := by
        rw [show 52 + exponent place + 1 = 53 + exponent place by omega, Nat.pow_add]
        exact Nat.mul_lt_mul_of_pos_right high (Nat.pow_pos (by decide))
      have positive : units place ≠ 0 :=
        Nat.ne_of_gt (Nat.lt_of_lt_of_le (Nat.pow_pos (by decide)) powered)
      have wide : ¬ units place < 2 ^ 53 := by
        have : 2 ^ 53 ≤ 2 ^ (52 + exponent place) := Nat.pow_le_pow_right (by decide) (by omega)
        omega
      have log : (units place).log2 - 52 = exponent place := by
        rw [(Nat.log2_eq_iff positive).2 ⟨powered, bounded⟩]
        omega
      simp only [wide, if_false, log]
      have exact : units place * one = mantissa place * (one * 2 ^ exponent place) := by
        rw [units, Nat.pow_eq, Nat.mul_assoc, Nat.mul_comm one]
      rw [exact, roundHalfEven_multiple _ (Nat.mul_pos one_pos (Nat.pow_pos (by decide)))]
      exact sum

/-! ### Quotients out of range -/

theorem roundHalfEven_ge (num den : Nat) : num / den ≤ roundHalfEven num den := by
  unfold roundHalfEven
  dsimp only
  split
  · exact Nat.le_refl _
  · split <;> omega

theorem nearestPlace_of_huge {num den a : Nat} (ha : 1024 ≤ a) (hden : 0 < den) (h : 2 ^ a * den ≤ num) :
    finiteCount ≤ nearestPlace num den := by
  obtain ⟨k, eq, hk⟩ := one_eq
  have large : 2 ^ (a + k) ≤ num * one / den := by
    rw [Nat.le_div_iff_mul_le hden, eq, Nat.pow_add, Nat.mul_right_comm]
    exact Nat.mul_le_mul_right _ h
  unfold nearestPlace
  generalize hw : num * one / den = whole at large
  have positive : whole ≠ 0 := Nat.ne_of_gt (Nat.lt_of_lt_of_le (Nat.two_pow_pos _) large)
  have wide : ¬ whole < 2 ^ 53 :=
    Nat.not_lt.2 (Nat.le_trans (Nat.pow_le_pow_right (by decide) (by omega)) large)
  have log : a + k ≤ whole.log2 := (Nat.le_log2 positive).2 large
  simp only [wide, if_false]
  have rounded : 2 ^ 52 ≤ roundHalfEven (num * one) (den * 2 ^ (whole.log2 - 52)) := by
    refine Nat.le_trans ?_ (roundHalfEven_ge _ _)
    rw [← Nat.div_div_eq_div_mul, hw, Nat.le_div_iff_mul_le (Nat.two_pow_pos _), ← Nat.pow_add,
      show 52 + (whole.log2 - 52) = whole.log2 by omega]
    exact Nat.log2_self_le positive
  have scaled : 2046 * 2 ^ 52 ≤ (whole.log2 - 52) * 2 ^ 52 := Nat.mul_le_mul_right _ (by omega)
  have count : finiteCount = 2046 * 2 ^ 52 + 2 ^ 52 := rfl
  omega

theorem nearestPlace_of_tiny {num den : Nat} (h : 2 * (num * one) < den) : nearestPlace num den = 0 := by
  unfold nearestPlace
  generalize num * one = scaled at h
  have small : scaled < den := by omega
  simp [Nat.div_eq_of_lt small, roundHalfEven, Nat.mod_eq_of_lt small, h]

/-! ### Decimal numbers -/

/-- The place of the number nearest to `digits` times ten to the `power`. -/
def decimalPlace (digits : Nat) (power : Int) : Nat :=
  nearestPlace (digits * 10 ^ power.toNat) (10 ^ (-power).toNat)

theorem decimalPlace_zero (power : Int) : decimalPlace 0 power = 0 := by
  unfold decimalPlace
  apply nearestPlace_of_tiny
  rw [Nat.zero_mul, Nat.zero_mul]
  exact Nat.pow_pos (by decide)

theorem decimalPlace_mul_pow (digits k : Nat) (power : Int) :
    decimalPlace (digits * 10 ^ k) power = decimalPlace digits (power + k) := by
  unfold decimalPlace
  apply nearestPlace_congr (Nat.pow_pos (by decide)) (Nat.pow_pos (by decide))
  have exponents : k + power.toNat + (-(power + k)).toNat = (power + k).toNat + (-power).toNat := by omega
  simp only [Nat.mul_assoc, ← Nat.pow_add]
  rw [exponents]

theorem ofRatio_zero (negative : Bool) {den : Nat} (hden : 0 < den) : ofRatio negative 0 den = zero negative :=
  ofRatio_of_nearestPlace negative ⟨0, by decide⟩ (nearestPlace_of_tiny (by rw [Nat.zero_mul]; exact hden))

/-- The shortcuts for powers far out of range give what computing the powers would give. -/
theorem ofDecimal_eq_ofRatio (negative : Bool) (digits : Nat) (power : Int) :
    ofDecimal negative digits power =
      ofRatio negative (digits * 10 ^ power.toNat) (10 ^ (-power).toNat) := by
  unfold ofDecimal
  by_cases none : digits = 0
  · rw [if_pos none, none, Nat.zero_mul, ofRatio_zero _ (Nat.pow_pos (by decide))]
  rw [if_neg none]
  by_cases up : power ≥ 0
  · have den : (-power).toNat = 0 := by omega
    rw [if_pos up, den, Nat.pow_zero]
    split
    · rename_i far
      have huge : 2 ^ (3 * power.toNat) * 1 ≤ digits * 10 ^ power.toNat := by
        calc 2 ^ (3 * power.toNat) * 1 = 8 ^ power.toNat := by rw [Nat.mul_one, Nat.pow_mul]
          _ ≤ 10 ^ power.toNat := Nat.pow_le_pow_left (by decide) _
          _ ≤ digits * 10 ^ power.toNat := Nat.le_mul_of_pos_left _ (Nat.pos_of_ne_zero none)
      rw [ofRatio_eq, dif_neg (Nat.not_lt.2 (nearestPlace_of_huge (by omega) Nat.one_pos huge))]
    · rfl
  · have num : power.toNat = 0 := by omega
    rw [if_neg up, num, Nat.pow_zero, Nat.mul_one]
    split
    · rename_i far
      obtain ⟨k, eq, hk⟩ := one_eq
      have tiny : 2 * (digits * one) < 10 ^ (-power).toNat := by
        calc 2 * (digits * one) = digits * 2 ^ (k + 1) := by
              rw [eq, Nat.pow_succ, Nat.mul_left_comm, Nat.mul_comm 2]
          _ < 2 ^ (digits.log2 + 1) * 2 ^ (k + 1) :=
              Nat.mul_lt_mul_of_pos_right Nat.lt_log2_self (Nat.two_pow_pos _)
          _ = 2 ^ (digits.log2 + 1 + (k + 1)) := (Nat.pow_add ..).symm
          _ ≤ 2 ^ (3 * (-power).toNat) := Nat.pow_le_pow_right (by decide) (by omega)
          _ = 8 ^ (-power).toNat := Nat.pow_mul ..
          _ ≤ 10 ^ (-power).toNat := Nat.pow_le_pow_left (by decide) _
      exact (ofRatio_of_nearestPlace negative ⟨0, by decide⟩ (nearestPlace_of_tiny tiny)).symm
    · rfl

theorem ofDecimal_of_decimalPlace {digits : Nat} {power : Int} {place : Fin finiteCount} (negative : Bool)
    (h : decimalPlace digits power = place) : ofDecimal negative digits power = .finite negative place := by
  rw [ofDecimal_eq_ofRatio]
  exact ofRatio_of_nearestPlace negative place h

theorem decimalPlace_of_ofDecimal {digits : Nat} {power : Int} {place : Fin finiteCount} {negative : Bool}
    (h : ofDecimal negative digits power = .finite negative place) : decimalPlace digits power = place := by
  rw [ofDecimal_eq_ofRatio] at h
  exact nearestPlace_of_ofRatio h

end RecordStore.Binary64
