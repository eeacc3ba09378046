import RecordStore.Json.Reader
import RecordStore.Json.Writer
import RecordStore.Proofs.Number.Shortest

/-!
# Numbers in JSON text

Whole and floating-point numbers are written as words that stand for them, the ones that are no
finite numbers included.
-/

namespace RecordStore.Json

/-- A word that is read as a value. -/
structure Denotes (word : List Char) (v : Value) : Prop where
  nonempty : word ≠ []
  inside : ∀ c ∈ word, isWordChar c = true
  value : wordValue? word = some v

theorem denotes_closed {word : List Char} {v : Value} (nonempty : word ≠ []) (inside : word.all isWordChar = true)
    (value : wordValue? word = some v) : Denotes word v :=
  ⟨nonempty, List.all_eq_true.1 inside, value⟩

theorem denotes_null : Denotes "null".toList .null := denotes_closed (by decide) (by decide) rfl

theorem denotes_true : Denotes "true".toList (.bool true) := denotes_closed (by decide) (by decide) rfl

theorem denotes_false : Denotes "false".toList (.bool false) := denotes_closed (by decide) (by decide) rfl

theorem isWordChar_of_isDigit {c : Char} (h : c.isDigit = true) : isWordChar c = true := by
  simp [isWordChar, Char.isAlphanum, h]

theorem isWordChar_exponentText (e : Int) : ∀ c ∈ Binary64.exponentText e, isWordChar c = true := by
  intro c hc
  obtain ⟨_, inside, _⟩ := @Numeral.exponentDigits e.natAbs
  rcases List.mem_cons.1 hc with rfl | digit
  · by_cases below : e < 0
    · rw [if_pos below]
      rfl
    · rw [if_neg below]
      rfl
  · exact isWordChar_of_isDigit (inside c digit)

section Numerals
variable {n : Numeral}

theorem isWordChar_chars (h : n.WellFormed) : ∀ c ∈ n.chars, isWordChar c = true := by
  intro c hc
  simp only [Numeral.chars, List.mem_append] at hc
  rcases hc with sign | whole | fraction | exponent
  · cases negative : n.negative <;> simp [Numeral.signChars, negative] at sign
    subst sign
    rfl
  · exact isWordChar_of_isDigit (h.whole_digits c whole)
  · cases given : n.fraction with
    | none => simp [given, Numeral.fractionChars] at fraction
    | some digits =>
      rw [given] at fraction
      rcases List.mem_cons.1 fraction with rfl | digit
      · rfl
      · exact isWordChar_of_isDigit (h.fraction_digits digits given c digit)
  · cases given : n.exponent with
    | none => simp [given, Numeral.exponentChars] at exponent
    | some e =>
      rw [given] at exponent
      rcases List.mem_cons.1 exponent with rfl | more
      · rfl
      · exact isWordChar_exponentText e c more

theorem wordValue?_chars (h : n.WellFormed) : n.chars ≠ [] ∧ wordValue? n.chars = numberOf? n.chars := by
  obtain ⟨c, more, whole⟩ := List.exists_cons_of_ne_nil h.whole_ne_nil
  have digit : c.isDigit = true := h.whole_digits c (by simp [whole])
  have other : ∀ d, d.isDigit = false → c ≠ d := by
    rintro d letter rfl
    simp [digit] at letter
  unfold Numeral.chars
  rw [whole]
  generalize more ++ (Numeral.fractionChars n.fraction ++ Numeral.exponentChars n.exponent) = rest
  cases n.negative with
  | true => simp [Numeral.signChars, wordValue?, other 'I' rfl]
  | false =>
    simp [Numeral.signChars, wordValue?, other 'n' rfl, other 't' rfl, other 'f' rfl, other 'N' rfl, other 'I' rfl,
      other '-' rfl]

theorem denotes_float (h : n.WellFormed) (isFloat : n.isWhole = false) :
    Denotes n.chars (.float n.toBinary64) where
  nonempty := (wordValue?_chars h).1
  inside := isWordChar_chars h
  value := by simp [(wordValue?_chars h).2, numberOf?, Numeral.read?_chars h, isFloat]

theorem denotes_int (h : n.WellFormed) (isWhole : n.isWhole = true) (short : n.whole.length ≤ digitLimit) :
    Denotes n.chars (.int n.toInt) where
  nonempty := (wordValue?_chars h).1
  inside := isWordChar_chars h
  value := by simp [(wordValue?_chars h).2, numberOf?, Numeral.read?_chars h, isWhole, short]

end Numerals

def intNumeral (n : Int) : Numeral := ⟨n < 0, Nat.toDigits 10 n.natAbs, none, none⟩

theorem intNumeral_wellFormed (n : Int) : (intNumeral n).WellFormed where
  whole_ne_nil := Nat.toDigits_ne_nil
  whole_digits := fun _ hc => isDigit_of_mem_toDigits hc
  no_leading_zero := by
    rintro ⟨zero, long⟩
    by_cases none : n.natAbs = 0
    · simp [intNumeral, none] at long
    · exact toDigits_head none zero
  fraction_ne_nil := by simp [intNumeral]
  fraction_digits := by simp [intNumeral]

theorem intNumeral_chars (n : Int) : (intNumeral n).chars = Literal.ofInt n := by
  by_cases below : n < 0 <;>
    simp [intNumeral, Numeral.chars, Numeral.signChars, Numeral.fractionChars, Numeral.exponentChars, Literal.ofInt,
      below]

theorem intNumeral_toInt (n : Int) : (intNumeral n).toInt = n := by
  unfold intNumeral Numeral.toInt intOfDigits
  dsimp only
  rw [natOfDigits_toDigits]
  by_cases below : n < 0
  · simp only [below, decide_true, if_true]
    omega
  · simp only [below, decide_false, Bool.false_eq_true, if_false]
    omega

theorem denotes_intChars {n : Int} {cs : List Char} (h : intChars n = .ok cs) : Denotes cs (.int n) := by
  unfold intChars at h
  split at h
  · rename_i below
    simp only [Nat.pow_eq] at below
    have short : (Nat.toDigits 10 n.natAbs).length ≤ digitLimit := by
      simp only [Nat.length_toDigits_le_iff (show 1 < 10 by decide) (show 0 < digitLimit by decide), below]
    have number := denotes_int (intNumeral_wellFormed n) rfl short
    rwa [intNumeral_toInt, intNumeral_chars, Except.ok.inj h] at number
  · cases h

theorem denotes_floatChars (x : Binary64) : Denotes (floatChars x) (.float x) := by
  cases x with
  | nan => exact denotes_closed (by decide) (by decide) rfl
  | infinite negative => cases negative <;> exact denotes_closed (by decide) (by decide) rfl
  | finite negative place =>
    obtain ⟨n, written, wellFormed, isFloat, value⟩ := Binary64.finite_chars negative place
    rw [floatChars, written, ← value]
    · exact denotes_float wellFormed isFloat
    · simp
    · simp

end RecordStore.Json
