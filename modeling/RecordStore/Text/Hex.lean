/-!
Bytes as pairs of hexadecimal digits. Blanks may stand between pairs but not inside one; a text that
is no such list is refused with the position of the first character that does not fit.
-/

namespace RecordStore.Hex

def digit (n : Nat) : Char := Nat.digitChar (n % 16)

def digit? (c : Char) : Option Nat :=
  if '0' ≤ c ∧ c ≤ '9' then some (c.toNat - '0'.toNat)
  else if 'a' ≤ c ∧ c ≤ 'f' then some (c.toNat - 'a'.toNat + 10)
  else if 'A' ≤ c ∧ c ≤ 'F' then some (c.toNat - 'A'.toNat + 10)
  else none

def encode : List UInt8 → List Char
  | [] => []
  | b :: rest => digit (b.toNat / 16) :: digit b.toNat :: encode rest

def isBlank (c : Char) : Bool := c == ' ' || (9 ≤ c.toNat && c.toNat ≤ 13)

/-- Reads pairs; `position` is that of the first character still to read. -/
def decodeFrom (position : Nat) : List Char → Except Nat (List UInt8)
  | [] => .ok []
  | c :: rest =>
    if isBlank c then decodeFrom (position + 1) rest
    else match digit? c, rest with
      | none, _ => .error position
      | some _, [] => .error (position + 1)
      | some high, d :: rest =>
        match digit? d with
        | none => .error (position + 1)
        | some low => (decodeFrom (position + 2) rest).map (UInt8.ofNat (16 * high + low) :: ·)

/-- A character outside ASCII is reported before any other fault. -/
def decode (cs : List Char) : Except Nat (List UInt8) :=
  match cs.findIdx? (fun c => c.toNat ≥ 128) with
  | some position => .error position
  | none => decodeFrom 0 cs

end RecordStore.Hex
