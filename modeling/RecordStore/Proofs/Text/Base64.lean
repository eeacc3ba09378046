import RecordStore.Text.Base64

/-!
# Base 64 text

Bytes written in the base 64 alphabet read back as the same bytes (`decode_encode`). Without equals signs the letters are
free: every text of whole groups is the written form of some bytes (`exists_encode_eq`).
-/

namespace RecordStore.Base64

/-! ### Reading -/

/-- The number that a letter of the alphabet stands for. -/
def digit? (c : Char) : Option Nat := alphabet.findIdx? (· == c)

/-- The bytes in the digits of a group: one less than there are digits, and what is left of the last digit is dropped. -/
def groupBytes : List Nat → List UInt8
  | [a, b, c, d] =>
    let n := a * 262144 + b * 4096 + c * 64 + d
    [.ofNat (n / 65536), .ofNat (n / 256), .ofNat n]
  | [a, b, c] =>
    let n := a * 262144 + b * 4096 + c * 64
    [.ofNat (n / 65536), .ofNat (n / 256)]
  | [a, b] =>
    let n := a * 262144 + b * 4096
    [.ofNat (n / 65536)]
  | _ => []

/-- Reads on behind the digits of an incomplete group and the equals signs after them. Other characters are passed over,
and so is everything behind a group that was filled up. -/
def decodeFrom (group : List Nat) (signs : Nat) : List Char → Option (List UInt8)
  | [] => if group.isEmpty then some [] else none
  | c :: rest =>
    match digit? c with
    | some n =>
      if group.length = 3 then (decodeFrom [] 0 rest).map (groupBytes (group ++ [n]) ++ ·)
      else decodeFrom (group ++ [n]) 0 rest
    | none =>
      if c = '=' ∧ 2 ≤ group.length then
        -- Two letters need two equals signs behind them, three letters need one.
        if group.length + signs = 3 then some (groupBytes group) else decodeFrom group (signs + 1) rest
      else decodeFrom group signs rest

/-- The bytes of a text, which has to be ASCII and must not end inside a group. -/
def decode (cs : List Char) : Option (List UInt8) :=
  if cs.all (·.toNat < 128) then decodeFrom [] 0 cs else none

/-! ### Digits -/

theorem digit?_digit (n : Nat) : digit? (digit n) = some (n % 64) := by
  have all : ∀ k < 64, digit? (alphabet.getD k 'A') = some k := by decide
  exact all (n % 64) (Nat.mod_lt n (by decide))

theorem length_alphabet : alphabet.length = 64 := by decide

theorem digit_place {n : Nat} (small : n < alphabet.length) : digit n = alphabet[n] := by
  have wrapped : n % 64 = n := Nat.mod_eq_of_lt (length_alphabet ▸ small)
  rw [digit, wrapped, List.getD_eq_getElem?_getD, List.getElem?_eq_getElem small, Option.getD_some]

theorem digit_congr {m n : Nat} (same : m % 64 = n % 64) : digit m = digit n := by
  rw [digit, digit, same]

theorem digit_mem (n : Nat) : digit n ∈ alphabet := by
  have small : n % 64 < alphabet.length := length_alphabet ▸ Nat.mod_lt n (by decide)
  rw [digit_congr (Nat.mod_mod n 64).symm, digit_place small]
  exact List.getElem_mem small

theorem exists_digit {c : Char} (letter : c ∈ alphabet) : ∃ n < 64, digit n = c := by
  obtain ⟨n, small, place⟩ := List.mem_iff_getElem.1 letter
  exact ⟨n, length_alphabet ▸ small, (digit_place small).trans place⟩

theorem alphabet_ascii : alphabet.all (·.toNat < 128) = true := by decide

theorem sign_not_mem : '=' ∉ alphabet := by decide

theorem digit?_sign : digit? '=' = none := by
  refine List.findIdx?_eq_none_iff.2 fun c letter => beq_eq_false_iff_ne.2 ?_
  rintro rfl
  exact sign_not_mem letter

/-! ### Groups -/

theorem ofNat_eq {n : Nat} {b : UInt8} (last : n % 256 = b.toNat) : UInt8.ofNat n = b := by
  rw [← UInt8.toNat_inj, UInt8.toNat_ofNat', last]

section Bytes
variable {a b c : UInt8} {n : Nat}

theorem sum_digits (small : n < 16777216) :
    n / 262144 % 64 * 262144 + n / 4096 % 64 * 4096 + n / 64 % 64 * 64 + n % 64 = n := by
  omega

theorem groupBytes_three (whole : n = a.toNat * 65536 + b.toNat * 256 + c.toNat) :
    groupBytes [n / 262144 % 64, n / 4096 % 64, n / 64 % 64, n % 64] = [a, b, c] := by
  have boundA := a.toNat_lt
  have boundB := b.toNat_lt
  have boundC := c.toNat_lt
  simp only [groupBytes, sum_digits (show n < 16777216 by omega), List.cons.injEq, and_true]
  exact ⟨ofNat_eq (by omega), ofNat_eq (by omega), ofNat_eq (by omega)⟩

theorem groupBytes_two (whole : n = a.toNat * 65536 + b.toNat * 256) :
    groupBytes [n / 262144 % 64, n / 4096 % 64, n / 64 % 64] = [a, b] := by
  have boundA := a.toNat_lt
  have boundB := b.toNat_lt
  simp only [groupBytes, List.cons.injEq, and_true]
  exact ⟨ofNat_eq (by omega), ofNat_eq (by omega)⟩

theorem groupBytes_one (whole : n = a.toNat * 65536) : groupBytes [n / 262144 % 64, n / 4096 % 64] = [a] := by
  have boundA := a.toNat_lt
  simp only [groupBytes, List.cons.injEq, and_true]
  exact ofNat_eq (by omega)

end Bytes

section Characters
variable (group : List Nat) (signs n : Nat) (rest : List Char)

theorem decodeFrom_digit : decodeFrom group signs (digit n :: rest) =
    if group.length = 3 then (decodeFrom [] 0 rest).map (groupBytes (group ++ [n % 64]) ++ ·)
    else decodeFrom (group ++ [n % 64]) 0 rest := by
  simp only [decodeFrom, digit?_digit]

theorem decodeFrom_sign : decodeFrom group signs ('=' :: rest) =
    if 2 ≤ group.length then
      if group.length + signs = 3 then some (groupBytes group) else decodeFrom group (signs + 1) rest
    else decodeFrom group signs rest := by
  simp [decodeFrom, digit?_sign]

end Characters

theorem decodeFrom_encode (data : List UInt8) : decodeFrom [] 0 (encode data) = some data := by
  fun_induction encode data with
  | case1 a b c rest n ih => simp [decodeFrom_digit, groupBytes_three (show n = _ from rfl), ih]
  | case2 a b n => simp [decodeFrom_digit, decodeFrom_sign, groupBytes_two (show n = _ from rfl)]
  | case3 a n => simp [decodeFrom_digit, decodeFrom_sign, groupBytes_one (show n = _ from rfl)]
  | case4 => rfl

/-! ### Written bytes -/

theorem encode_characters (data : List UInt8) : ∀ c ∈ encode data, c ∈ alphabet ∨ c = '=' := by
  fun_induction encode data with
  | case1 a b c rest n ih => simpa [digit_mem] using ih
  | case2 a b n => simp [digit_mem]
  | case3 a n => simp [digit_mem]
  | case4 => simp

theorem decode_encode (data : List UInt8) : decode (encode data) = some data := by
  have ascii : (encode data).all (·.toNat < 128) = true := by
    refine List.all_eq_true.2 fun c member => ?_
    rcases encode_characters data c member with letter | rfl
    · exact List.all_eq_true.1 alphabet_ascii c letter
    · decide
  rw [decode, if_pos ascii, decodeFrom_encode]

theorem encode_injective : Function.Injective encode := by
  intro data other same
  have read := decode_encode data
  rw [same, decode_encode] at read
  exact (Option.some.inj read).symm

theorem length_encode (data : List UInt8) : (encode data).length = (data.length + 2) / 3 * 4 := by
  fun_induction encode data with
  | case1 a b c rest n ih =>
    simp only [List.length_cons, ih]
    omega
  | case2 a b n => simp
  | case3 a n => simp
  | case4 => rfl

theorem encode_letters {data : List UInt8} (whole : data.length % 3 = 0) : ∀ c ∈ encode data, c ∈ alphabet := by
  fun_induction encode data with
  | case1 a b c rest n ih =>
    have whole : rest.length % 3 = 0 := by
      simp only [List.length_cons] at whole
      omega
    simpa [digit_mem] using ih whole
  | case2 a b n => simp at whole
  | case3 a n => simp at whole
  | case4 => simp

/-- A number of three bytes is written as its four digits. -/
theorem encode_number {n : Nat} (small : n < 16777216) (rest : List UInt8) :
    encode (.ofNat (n / 65536) :: .ofNat (n / 256) :: .ofNat n :: rest) =
      digit (n / 262144) :: digit (n / 4096) :: digit (n / 64) :: digit n :: encode rest := by
  have again : n / 65536 % 2 ^ 8 * 65536 + n / 256 % 2 ^ 8 * 256 + n % 2 ^ 8 = n := by omega
  simp only [encode, UInt8.toNat_ofNat', again]

theorem encode_groupBytes {a b c d : Nat} (digits : a < 64 ∧ b < 64 ∧ c < 64 ∧ d < 64) (rest : List UInt8) :
    encode (groupBytes [a, b, c, d] ++ rest) = digit a :: digit b :: digit c :: digit d :: encode rest := by
  obtain ⟨n, whole⟩ : ∃ n, a * 262144 + b * 4096 + c * 64 + d = n := ⟨_, rfl⟩
  have bytes : groupBytes [a, b, c, d] = [.ofNat (n / 65536), .ofNat (n / 256), .ofNat n] := by rw [← whole, groupBytes]
  rw [bytes, List.cons_append, List.cons_append, List.cons_append, List.nil_append, encode_number (by omega)]
  rw [digit_congr (show n / 262144 % 64 = a % 64 by omega), digit_congr (show n / 4096 % 64 = b % 64 by omega),
    digit_congr (show n / 64 % 64 = c % 64 by omega), digit_congr (show n % 64 = d % 64 by omega)]

/-- A text of whole groups of letters is what some bytes are written as. -/
theorem exists_encode_eq {count : Nat} {cs : List Char} (whole : cs.length = count * 4) (letters : ∀ c ∈ cs, c ∈ alphabet) :
    ∃ data : List UInt8, data.length = count * 3 ∧ encode data = cs := by
  induction count generalizing cs with
  | zero => exact ⟨[], rfl, (List.length_eq_zero_iff.1 (by omega)).symm⟩
  | succ count ih =>
    -- Four letters are the digits of three bytes, and what is written behind them is the rest.
    match cs with
    | w :: x :: y :: z :: rest =>
      simp only [List.forall_mem_cons] at letters
      obtain ⟨first, second, third, fourth, letters⟩ := letters
      obtain ⟨a, boundA, rfl⟩ := exists_digit first
      obtain ⟨b, boundB, rfl⟩ := exists_digit second
      obtain ⟨c, boundC, rfl⟩ := exists_digit third
      obtain ⟨d, boundD, rfl⟩ := exists_digit fourth
      obtain ⟨data, length, rfl⟩ := ih (by simp only [List.length_cons] at whole; omega) letters
      refine ⟨groupBytes [a, b, c, d] ++ data, ?_, encode_groupBytes ⟨boundA, boundB, boundC, boundD⟩ data⟩
      rw [List.length_append, length, groupBytes]
      simp only [List.length_cons, List.length_nil]
      omega
    | [] | [_] | [_, _] | [_, _, _] => simp only [List.length_cons, List.length_nil] at whole; omega

end RecordStore.Base64
