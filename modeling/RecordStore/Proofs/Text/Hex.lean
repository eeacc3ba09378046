import RecordStore.Proofs.Error.Outcome
import RecordStore.Text.Hex

/-!
# Hexadecimal text

`decode_ok_iff` says which characters are read as which bytes. What is written for bytes spells them, so it reads back as the
same bytes (`decode_encode`).
-/

namespace RecordStore.Hex

/-! ### Spellings -/

/-- A digit for a number below sixteen, in either case. -/
def IsDigit (c : Char) (n : Nat) : Prop := n < 16 ∧ (c = Nat.digitChar n ∨ c = (Nat.digitChar n).toUpper)

instance (c : Char) (n : Nat) : Decidable (IsDigit c n) := inferInstanceAs (Decidable (_ ∧ _))

def blanks : List Char := [' ', '\t', '\n', '\x0b', '\x0c', '\r']

/-- Characters that spell bytes: two digits for each, and blanks only before a byte or at the end. -/
inductive Spells : List Char → List UInt8 → Prop
  | nothing : Spells [] []
  | blank {c : Char} {cs : List Char} {data : List UInt8} (space : c ∈ blanks) (rest : Spells cs data) : Spells (c :: cs) data
  | byte {c d : Char} {high low : Nat} {cs : List Char} {data : List UInt8} (first : IsDigit c high) (second : IsDigit d low)
    (rest : Spells cs data) : Spells (c :: d :: cs) (UInt8.ofNat (16 * high + low) :: data)

theorem ascii_of_blank {c : Char} (blank : c ∈ blanks) : c.toNat < 128 := by
  have all : blanks.all (·.toNat < 128) = true := by decide
  exact of_decide_eq_true (List.all_eq_true.1 all c blank)

theorem eq_ofNat_of_ascii {c : Char} (ascii : c.toNat < 128) : ∃ k < 128, c = Char.ofNat k :=
  ⟨c.toNat, ascii, (Char.ofNat_toNat c).symm⟩

theorem isBlank_iff {c : Char} : isBlank c = true ↔ c ∈ blanks := by
  have all : ∀ k < 128, isBlank (Char.ofNat k) = decide (Char.ofNat k ∈ blanks) := by decide
  by_cases ascii : c.toNat < 128
  · obtain ⟨k, small, rfl⟩ := eq_ofNat_of_ascii ascii
    rw [all k small, decide_eq_true_iff]
  · refine iff_of_false (fun blank => ?_) fun member => ?_
    · obtain same | range := (Bool.or_eq_true ..).mp blank
      · exact ascii (beq_iff_eq.1 same ▸ by decide)
      · simp only [Bool.and_eq_true, decide_eq_true_eq] at range
        omega
    · exact ascii (ascii_of_blank member)

/-- What holds of the digits in both cases holds of all. -/
theorem IsDigit.of_each {P : Char → Nat → Prop} (each : ∀ n < 16, P (Nat.digitChar n) n ∧ P (Nat.digitChar n).toUpper n)
    {c : Char} {n : Nat} (digit : IsDigit c n) : P c n := by
  obtain ⟨small, rfl | rfl⟩ := digit
  · exact (each n small).1
  · exact (each n small).2

theorem IsDigit.isBlank {c : Char} {n : Nat} (digit : IsDigit c n) : isBlank c = false :=
  digit.of_each (P := fun c _ => Hex.isBlank c = false) (by decide)

theorem IsDigit.ascii {c : Char} {n : Nat} (digit : IsDigit c n) : c.toNat < 128 :=
  digit.of_each (P := fun c _ => c.toNat < 128) (by decide)

theorem digit?_eq_some_iff {c : Char} {n : Nat} : digit? c = some n ↔ IsDigit c n := by
  constructor
  · intro digit
    have ascii : c.toNat < 128 := by
      unfold digit? at digit
      split at digit
      · next range => exact Nat.lt_of_le_of_lt range.2 (by decide : '9'.toNat < 128)
      · split at digit
        · next range => exact Nat.lt_of_le_of_lt range.2 (by decide : 'f'.toNat < 128)
        · split at digit
          · next range => exact Nat.lt_of_le_of_lt range.2 (by decide : 'F'.toNat < 128)
          · cases digit
    have all : ∀ k < 128, ∀ m ∈ digit? (Char.ofNat k), IsDigit (Char.ofNat k) m := by decide
    obtain ⟨k, small, rfl⟩ := eq_ofNat_of_ascii ascii
    exact all k small n digit
  · exact IsDigit.of_each (P := fun c n => digit? c = some n) (by decide)

theorem Spells.ascii {cs : List Char} {data : List UInt8} (spells : Spells cs data) : ∀ c ∈ cs, c.toNat < 128 := by
  induction spells with
  | nothing => exact nofun
  | blank space _ ih => exact List.forall_mem_cons.2 ⟨ascii_of_blank space, ih⟩
  | byte first second _ ih => exact List.forall_mem_cons.2 ⟨first.ascii, List.forall_mem_cons.2 ⟨second.ascii, ih⟩⟩

theorem spells_of_decodeFrom {position : Nat} {cs : List Char} {data : List UInt8}
    (read : decodeFrom position cs = .ok data) : Spells cs data := by
  induction position, cs using decodeFrom.induct generalizing data with
  | case1 =>
    cases read
    exact .nothing
  | case2 position c rest space ih =>
    unfold decodeFrom at read
    rw [if_pos space] at read
    exact .blank (isBlank_iff.1 space) (ih read)
  | case3 position c rest filled none => simp [decodeFrom, filled, none] at read
  | case4 position c filled high first => simp [decodeFrom, filled, first] at read
  | case5 position c filled high d rest first none => simp [decodeFrom, filled, first, none] at read
  | case6 position c filled high d rest first low second ih =>
    unfold decodeFrom at read
    simp only [filled, first, second] at read
    obtain ⟨others, more, rfl⟩ := map_ok read
    exact .byte (digit?_eq_some_iff.1 first) (digit?_eq_some_iff.1 second) (ih more)

theorem decodeFrom_of_spells {cs : List Char} {data : List UInt8} (spells : Spells cs data) (position : Nat) :
    decodeFrom position cs = .ok data := by
  induction spells generalizing position with
  | nothing => rfl
  | blank space _ ih =>
    unfold decodeFrom
    rw [if_pos (isBlank_iff.2 space)]
    exact ih _
  | byte first second _ ih =>
    unfold decodeFrom
    simp only [first.isBlank, digit?_eq_some_iff.2 first, digit?_eq_some_iff.2 second, ih]
    rfl

/-- Exactly the characters that spell bytes are read as these. -/
theorem decode_ok_iff {cs : List Char} {data : List UInt8} : decode cs = .ok data ↔ Spells cs data := by
  constructor
  · intro read
    unfold decode at read
    split at read
    · cases read
    · exact spells_of_decodeFrom read
  · intro spells
    have plain : cs.findIdx? (fun c => c.toNat ≥ 128) = none := by
      rw [List.findIdx?_eq_none_iff]
      intro c member
      simpa using spells.ascii c member
    rw [decode, plain]
    exact decodeFrom_of_spells spells 0

/-! ### Written bytes -/

theorem isDigit_digit (n : Nat) : IsDigit (digit n) (n % 16) := ⟨Nat.mod_lt n (by decide), .inl rfl⟩

theorem digit?_digit (n : Nat) : digit? (digit n) = some (n % 16) := digit?_eq_some_iff.2 (isDigit_digit n)

theorem digit_ascii (n : Nat) : (digit n).toNat < 128 := (isDigit_digit n).ascii

theorem spells_encode (data : List UInt8) : Spells (encode data) data := by
  induction data with
  | nil => exact .nothing
  | cons b rest ih =>
    have bound := b.toNat_lt
    have byte : 16 * (b.toNat / 16 % 16) + b.toNat % 16 = b.toNat := by omega
    have spelled := Spells.byte (isDigit_digit (b.toNat / 16)) (isDigit_digit b.toNat) ih
    rwa [byte, UInt8.ofNat_toNat] at spelled

theorem decode_encode (data : List UInt8) : decode (encode data) = .ok data := decode_ok_iff.2 (spells_encode data)

end RecordStore.Hex
