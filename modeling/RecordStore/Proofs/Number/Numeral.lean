import Mathlib.Algebra.Group.Nat.Defs
import RecordStore.Number.Numeral
import RecordStore.Number.Shortest

/-!
# Written numbers

A numeral is written as a sign, its whole part, its fraction and its exponent. `read?_chars` shows that
reading takes a written numeral apart again.
-/

namespace RecordStore

/-! ### Decimal digits -/

theorem natOfDigits_append (xs ys : List Char) :
    natOfDigits (xs ++ ys) = natOfDigits xs * 10 ^ ys.length + natOfDigits ys := by
  simp only [natOfDigits, ← Nat.ofDigitChars_eq_foldl]
  rw [Nat.ofDigitChars_append, Nat.ofDigitChars_eq_ofDigitChars_zero, Nat.mul_comm]

theorem natOfDigits_toDigits (n : Nat) : natOfDigits (Nat.toDigits 10 n) = n := by
  simp only [natOfDigits, ← Nat.ofDigitChars_eq_foldl]
  exact Nat.ofDigitChars_ten_toDigits

theorem natOfDigits_zeros (k : Nat) : natOfDigits (List.replicate k '0') = 0 := by
  simp only [natOfDigits, ← Nat.ofDigitChars_eq_foldl]
  rw [Nat.ofDigitChars_replicate_zero, Nat.mul_zero]

theorem isDigit_of_mem_toDigits {n : Nat} {c : Char} (h : c ∈ Nat.toDigits 10 n) : c.isDigit = true :=
  Nat.isDigit_of_mem_toDigits (by decide) (by decide) h

theorem toDigits_head {n : Nat} (h : n ≠ 0) : (Nat.toDigits 10 n).head? ≠ some '0' := by
  induction n using Nat.strongRecOn with
  | ind n ih =>
    by_cases small : n < 10
    · simpa [Nat.toDigits_of_lt_base small] using h
    · obtain ⟨c, more, first⟩ := List.exists_cons_of_ne_nil (@Nat.toDigits_ne_nil (n / 10) 10)
      have other := ih (n / 10) (by omega) (by omega)
      rw [Nat.toDigits_of_base_le (by decide) (Nat.le_of_not_lt small), first]
      rw [first] at other
      exact other

/-! ### Runs of digits -/

/-- A text that does not go on with a digit. -/
def EndsDigits (rest : List Char) : Prop := ∀ c ∈ rest.head?, c.isDigit = false

theorem takeWhile_digits {digits rest : List Char} (inside : ∀ c ∈ digits, c.isDigit = true)
    (boundary : EndsDigits rest) : (digits ++ rest).takeWhile Char.isDigit = digits := by
  rw [List.takeWhile_append_of_pos inside]
  cases rest with
  | nil => simp
  | cons c rest => simp [boundary c rfl]

theorem dropWhile_digits {digits rest : List Char} (inside : ∀ c ∈ digits, c.isDigit = true)
    (boundary : EndsDigits rest) : (digits ++ rest).dropWhile Char.isDigit = rest := by
  rw [List.dropWhile_append_of_pos inside]
  cases rest with
  | nil => rfl
  | cons c rest => simp [boundary c rfl]

namespace Numeral

def signChars (negative : Bool) : List Char := if negative then ['-'] else []

def fractionChars : Option (List Char) → List Char
  | none => []
  | some digits => '.' :: digits

def exponentChars : Option Int → List Char
  | none => []
  | some e => 'e' :: Binary64.exponentText e

/-- A numeral as it is written. -/
def chars (n : Numeral) : List Char :=
  signChars n.negative ++ (n.whole ++ (fractionChars n.fraction ++ exponentChars n.exponent))

/-- Both sides of the point have digits, and no zero stands before other digits of the whole part. -/
structure WellFormed (n : Numeral) : Prop where
  whole_ne_nil : n.whole ≠ []
  whole_digits : ∀ c ∈ n.whole, c.isDigit = true
  no_leading_zero : ¬ (n.whole.head? = some '0' ∧ n.whole.length > 1)
  fraction_ne_nil : ∀ digits ∈ n.fraction, digits ≠ []
  fraction_digits : ∀ digits ∈ n.fraction, ∀ c ∈ digits, c.isDigit = true

theorem endsDigits_exponent (e : Option Int) : EndsDigits (exponentChars e) := by
  cases e <;> simp [EndsDigits, exponentChars]

theorem endsDigits_fraction (f : Option (List Char)) (e : Option Int) :
    EndsDigits (fractionChars f ++ exponentChars e) := by
  cases f with
  | none => exact endsDigits_exponent e
  | some digits => simp [EndsDigits, fractionChars]

theorem exponentDigits {n : Nat} :
    let digits := Nat.toDigits 10 n
    let padded := if digits.length < 2 then '0' :: digits else digits
    padded ≠ [] ∧ (∀ c ∈ padded, c.isDigit = true) ∧ natOfDigits padded = n := by
  intro digits padded
  have inside : ∀ c ∈ digits, c.isDigit = true := fun c hc => isDigit_of_mem_toDigits hc
  by_cases short : digits.length < 2
  · simp only [padded, short, if_true]
    refine ⟨by simp, by simpa using inside, ?_⟩
    rw [show '0' :: digits = List.replicate 1 '0' ++ digits from rfl, natOfDigits_append, natOfDigits_zeros,
      Nat.zero_mul, Nat.zero_add, natOfDigits_toDigits]
  · simp only [padded, short, if_false]
    exact ⟨Nat.toDigits_ne_nil, inside, natOfDigits_toDigits n⟩

theorem exponentOf?_exponentText (e : Int) : exponentOf? (Binary64.exponentText e) = some e := by
  obtain ⟨nonempty, inside, value⟩ := exponentDigits (n := e.natAbs)
  unfold Binary64.exponentText
  dsimp only at nonempty inside value ⊢
  generalize (if (Nat.toDigits 10 e.natAbs).length < 2 then '0' :: Nat.toDigits 10 e.natAbs
    else Nat.toDigits 10 e.natAbs) = padded at nonempty inside value ⊢
  have digits : padded ≠ [] ∧ padded.all Char.isDigit = true := ⟨nonempty, List.all_eq_true.2 inside⟩
  by_cases below : e < 0
  · simp only [below, if_true, exponentOf?, exponentOf?.unsigned?, if_pos digits, intOfDigits, value]
    congr 1
    omega
  · simp only [below, if_false, exponentOf?, exponentOf?.unsigned?, if_pos digits, intOfDigits, value,
      Bool.false_eq_true]
    congr 1
    omega

theorem read?_chars {n : Numeral} (h : n.WellFormed) : read? n.chars = some n := by
  obtain ⟨negative, whole, fraction, exponent⟩ := n
  obtain ⟨nonempty, inside, leading, fractionNonempty, fractionInside⟩ := h
  dsimp only at nonempty inside leading fractionNonempty fractionInside
  -- the sign is told from the first digit
  have sign : ∀ rest, ((signChars negative ++ (whole ++ rest)).head? == some '-') = negative := by
    intro rest
    cases negative with
    | true => rfl
    | false =>
      obtain ⟨c, more, rfl⟩ := List.exists_cons_of_ne_nil nonempty
      have digit := inside c List.mem_cons_self
      have other : c ≠ '-' := by rintro rfl; exact absurd digit (by decide)
      simp [signChars, other]
  have unsigned : ∀ rest, (if negative = true then (signChars negative ++ (whole ++ rest)).drop 1
      else signChars negative ++ (whole ++ rest)) = whole ++ rest := by
    intro rest
    cases negative <;> rfl
  have notEmpty : ¬ (whole = [] ∨ whole.head? = some '0' ∧ whole.length > 1) := by
    rintro (empty | zero)
    · exact nonempty empty
    · exact leading zero
  unfold read?
  dsimp only [chars]
  have boundary := endsDigits_fraction fraction exponent
  rw [sign, unsigned, takeWhile_digits inside boundary, dropWhile_digits inside boundary, if_neg notEmpty]
  cases fraction with
  | none =>
    cases exponent with
    | none => rfl
    | some e => simp [fractionChars, exponentChars, isExponentMark, exponentOf?_exponentText]
  | some digits =>
    have some_digits := fractionNonempty digits rfl
    have all_digits := fractionInside digits rfl
    simp only [fractionChars, List.cons_append, takeWhile_digits all_digits (endsDigits_exponent _),
      dropWhile_digits all_digits (endsDigits_exponent _), if_neg some_digits]
    cases exponent with
    | none => rfl
    | some e => simp [exponentChars, isExponentMark, exponentOf?_exponentText]

end Numeral
end RecordStore
