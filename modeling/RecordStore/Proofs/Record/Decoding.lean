import Mathlib.Data.List.Forall2
import RecordStore.Proofs.Record.RoundTrip
import RecordStore.Proofs.Text.Hex
import RecordStore.Proofs.Value.Access

/-!
# What stored values stand for

In a field for bytes, bytes of any form stand for bytes, and a text behind the mark stands for the bytes that its digits
spell. In a structured field, a text stands for what it means in JSON. All other values stand for themselves. An array stands
for what its elements stand for, and a repeated link for itself.
-/

namespace RecordStore

variable {nesting : Option Nat} {kind : Kind} {field : Field} {v w : Value}

namespace Value

/-- Values that a kind of field stores in place of others. -/
def IsCoded (nesting : Option Nat) : Kind → Value → Prop
  | .binary, .bytes .. => True
  | .binary, .text s => binaryMark <+: s.chars
  | .structured, .text s => Json.read nesting s ≠ .error .malformed
  | _, _ => False

/-- What a value that comes from the store stands for in a field of a kind. -/
inductive StandsFor (nesting : Option Nat) : Kind → Value → Value → Prop
  | bytes {form : BytesForm} {data : List UInt8} : StandsFor nesting .binary (.bytes form data) (.bytes .fixed data)
  | hex {s : Text} {digits : List Char} {data : List UInt8} (marked : s.chars = binaryMark ++ digits)
    (spelled : Hex.Spells digits data) : StandsFor nesting .binary (.text s) (.bytes .fixed data)
  | json {s : Text} {v : Value} (means : Json.read nesting s = .ok v) : StandsFor nesting .structured (.text s) v
  | itself {kind : Kind} {v : Value} (plain : ¬IsCoded nesting kind v) : StandsFor nesting kind v v

theorem decodedBinary_marked {s : Text} {digits : List Char} (marked : s.chars = binaryMark ++ digits) :
    (Value.text s).decodedBinary = .ok w ↔ ∃ data, Hex.Spells digits data ∧ w = .bytes .fixed data := by
  have marked : s.chars = '\\' :: 'x' :: digits := marked
  unfold decodedBinary
  simp only [marked]
  constructor
  · intro read
    split at read
    · rename_i data decoded
      exact ⟨data, Hex.decode_ok_iff.1 decoded, (Except.ok.inj read).symm⟩
    · cases read
  · rintro ⟨data, spells, rfl⟩
    rw [Hex.decode_ok_iff.2 spells]

theorem decodedBinary_unmarked {s : Text} (plain : ¬binaryMark <+: s.chars) :
    (Value.text s).decodedBinary = .ok (.text s) := by
  unfold decodedBinary
  dsimp only
  split
  · next digits marked => exact absurd ⟨digits, marked.symm⟩ plain
  · rfl

theorem decodedBinary_ok_iff : v.decodedBinary = .ok w ↔ StandsFor nesting .binary v w := by
  cases v with
  | bytes form data =>
    constructor
    · rintro ⟨⟩
      exact .bytes
    · rintro (_ | _ | _ | ⟨plain⟩)
      · rfl
      · exact absurd trivial plain
  | text s =>
    by_cases marked : binaryMark <+: s.chars
    · obtain ⟨digits, same⟩ := marked
      rw [decodedBinary_marked same.symm]
      constructor
      · rintro ⟨data, spells, rfl⟩
        exact .hex same.symm spells
      · rintro (_ | ⟨own, spelled⟩ | _ | ⟨plain⟩)
        · obtain rfl := List.append_cancel_left (same.trans own)
          exact ⟨_, spelled, rfl⟩
        · exact absurd ⟨digits, same⟩ plain
    · rw [decodedBinary_unmarked marked]
      constructor
      · rintro ⟨⟩
        exact .itself marked
      · rintro (_ | ⟨own, _⟩ | _ | _)
        · exact absurd ⟨_, own.symm⟩ marked
        · rfl
  | _ =>
    constructor
    · rintro ⟨⟩
      exact .itself id
    · rintro (_ | _ | _ | _)
      rfl

theorem decodedStructured_ok_iff : v.decodedStructured nesting = .ok w ↔ StandsFor nesting .structured v w := by
  cases v with
  | text s =>
    unfold decodedStructured
    dsimp only
    cases read : Json.read nesting s with
    | ok own =>
      constructor
      · rintro ⟨⟩
        exact .json read
      · rintro (_ | _ | ⟨means⟩ | ⟨plain⟩)
        · rw [← read, means]
        · exact absurd (fun malformed => by cases read.symm.trans malformed) plain
    | error fault =>
      cases fault with
      | malformed =>
        constructor
        · rintro ⟨⟩
          exact .itself fun coded => coded read
        · rintro (_ | _ | ⟨means⟩ | _)
          · cases read.symm.trans means
          · rfl
      | tooDeep =>
        constructor
        · rintro ⟨⟩
        · rintro (_ | _ | ⟨means⟩ | ⟨plain⟩)
          · cases read.symm.trans means
          · exact absurd (fun malformed => by cases read.symm.trans malformed) plain
  | _ =>
    constructor
    · rintro ⟨⟩
      exact .itself id
    · rintro (_ | _ | _ | _)
      rfl

/-- Reading a value finds exactly what it stands for. -/
theorem decoded_ok_iff : v.decoded nesting kind = .ok w ↔ StandsFor nesting kind v w := by
  cases kind with
  | binary => exact decodedBinary_ok_iff
  | structured => exact decodedStructured_ok_iff
  | _ =>
    constructor
    · rintro ⟨⟩
      exact .itself id
    · rintro (_ | _ | _ | _)
      rfl

theorem mapM_decoded_ok_iff {items read : List Value} :
    items.mapM (decoded nesting kind) = .ok read ↔ List.Forall₂ (StandsFor nesting kind) items read := by
  induction items generalizing read with
  | nil =>
    rw [List.forall₂_nil_left_iff]
    exact ⟨fun made => (Except.ok.inj made).symm, fun none => congrArg Except.ok none.symm⟩
  | cons item rest ih =>
    rw [List.mapM_cons, List.forall₂_cons_left_iff]
    constructor
    · intro made
      obtain ⟨w, first, made⟩ := bind_ok made
      obtain ⟨others, more, made⟩ := bind_ok made
      cases made
      exact ⟨w, others, decoded_ok_iff.1 first, ih.1 more, rfl⟩
    · rintro ⟨w, others, first, more, rfl⟩
      rw [decoded_ok_iff.2 first, ih.2 more]
      rfl

end Value

/-- What a value that comes from the store stands for in a field. -/
inductive Field.StandsFor (nesting : Option Nat) (field : Field) : Value → Value → Prop
  | kept {v : Value} (inverse : field.isInverse = true) : StandsFor nesting field v v
  | missing (own : field.isInverse = false) (array : field.isArray = true) : StandsFor nesting field .null .null
  | each {v : Value} {items read : List Value} (own : field.isInverse = false) (array : field.isArray = true)
    (filled : v ≠ .null) (listed : v.elements? = some items)
    (all : List.Forall₂ (Value.StandsFor nesting field.kind) items read) : StandsFor nesting field v (.list read)
  | single {v w : Value} (own : field.isInverse = false) (one : field.isArray = false)
    (stands : Value.StandsFor nesting field.kind v w) : StandsFor nesting field v w

/-- Reading what a field holds finds exactly what it stands for there. -/
theorem Field.decode_ok_iff : field.decode nesting v = .ok w ↔ field.StandsFor nesting v w := by
  unfold decode
  cases inverse : field.isInverse with
  | true =>
    constructor
    · rintro ⟨⟩
      exact .kept inverse
    · rintro (_ | ⟨own⟩ | ⟨own⟩ | ⟨own⟩)
      · rfl
      all_goals cases inverse.symm.trans own
  | false =>
    rw [if_neg Bool.false_ne_true]
    cases array : field.isArray with
    | false =>
      rw [convert_one array, Value.decoded_ok_iff]
      constructor
      · exact .single inverse array
      · rintro (⟨kept⟩ | ⟨_, repeated⟩ | ⟨_, repeated⟩ | ⟨_, _, stands⟩)
        · cases inverse.symm.trans kept
        · cases array.symm.trans repeated
        · cases array.symm.trans repeated
        · exact stands
    | true =>
      by_cases null : v = .null
      · subst null
        rw [convert_null]
        constructor
        · intro read
          obtain rfl : Value.null = w := by
            cases kind : field.kind <;> exact Except.ok.inj (kind ▸ read :)
          exact .missing inverse array
        · rintro (⟨kept⟩ | _ | ⟨_, _, filled⟩ | ⟨_, one⟩)
          · cases inverse.symm.trans kept
          · cases field.kind <;> rfl
          · exact absurd rfl filled
          · cases array.symm.trans one
      · rw [convert_each array null]
        constructor
        · rintro ⟨items, read, listed, each, rfl⟩
          exact .each inverse array null listed (Value.mapM_decoded_ok_iff.1 each)
        · rintro (⟨kept⟩ | _ | ⟨_, _, _, listed, all⟩ | ⟨_, one⟩)
          · cases inverse.symm.trans kept
          · exact absurd rfl null
          · exact ⟨_, _, listed, Value.mapM_decoded_ok_iff.2 all, rfl⟩
          · cases array.symm.trans one

end RecordStore
