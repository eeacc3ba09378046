import RecordStore.Proofs.Error.Outcome
import RecordStore.Proofs.Json.Number
import RecordStore.Proofs.Text.Hex

/-!
# Written JSON text is ASCII

Words are made of letters, digits and signs, and whatever else a string holds is escaped by its UTF-16 units.
-/

namespace RecordStore.Json

def IsAscii (cs : List Char) : Prop := ∀ c ∈ cs, c.toNat < 128

theorem isAscii_nil : IsAscii [] := nofun

theorem isAscii_append {first second : List Char} (left : IsAscii first) (right : IsAscii second) :
    IsAscii (first ++ second) :=
  fun c member => (List.mem_append.1 member).elim (left c) (right c)

theorem isAscii_cons {c : Char} {rest : List Char} (first : c.toNat < 128) (others : IsAscii rest) :
    IsAscii (c :: rest) :=
  List.forall_mem_cons.2 ⟨first, others⟩

theorem isAlphanum_ascii {c : Char} (h : c.isAlphanum = true) : c.toNat < 128 := by
  have ranges : (decide ('A'.val ≤ c.val ∧ c.val ≤ 'Z'.val) || 'a'.val ≤ c.val && c.val ≤ 'z'.val ||
      '0'.val ≤ c.val && c.val ≤ '9'.val) = true := h
  simp only [Bool.or_eq_true, Bool.and_eq_true, decide_eq_true_eq, UInt32.le_iff_toNat_le] at ranges
  rw [← Char.toNat_val]
  rcases ranges with (⟨_, last⟩ | ⟨_, last⟩) | ⟨_, last⟩
  all_goals exact Nat.lt_of_le_of_lt last (by decide)

theorem isWordChar_ascii {c : Char} (h : isWordChar c = true) : c.toNat < 128 := by
  simp only [isWordChar, Bool.or_eq_true, beq_iff_eq] at h
  rcases h with ((word | rfl) | rfl) | rfl
  · exact isAlphanum_ascii word
  · decide
  · decide
  · decide

theorem Denotes.ascii {word : List Char} {v : Value} (denotes : Denotes word v) : IsAscii word :=
  fun c member => isWordChar_ascii (denotes.inside c member)

theorem unitEscape_ascii (n : Nat) : IsAscii (unitEscape n) := by
  refine isAscii_cons (by decide) (isAscii_cons (by decide) ?_)
  exact isAscii_cons (Hex.digit_ascii _) (isAscii_cons (Hex.digit_ascii _)
    (isAscii_cons (Hex.digit_ascii _) (isAscii_cons (Hex.digit_ascii _) isAscii_nil)))

theorem escapedChar_ascii (c : Char) : IsAscii (escapedChar c) := by
  have pair : ∀ d : Char, d.toNat < 128 → IsAscii ['\\', d] :=
    fun d ascii => isAscii_cons (by decide) (isAscii_cons ascii isAscii_nil)
  unfold escapedChar
  split
  · exact pair _ (by decide)
  split
  · exact pair _ (by decide)
  split
  · exact pair _ (by decide)
  split
  · exact pair _ (by decide)
  split
  · exact pair _ (by decide)
  split
  · exact pair _ (by decide)
  split
  · exact pair _ (by decide)
  split
  · exact isAscii_cons (by omega) isAscii_nil
  split
  · exact unitEscape_ascii _
  · exact isAscii_append (unitEscape_ascii _) (unitEscape_ascii _)

theorem escapedPoint_ascii (p : CodePoint) : IsAscii (escapedPoint p) := by
  cases p with
  | char c => exact escapedChar_ascii c
  | half s => exact unitEscape_ascii s.unit

theorem quoted_ascii (t : Text) : IsAscii (quoted t) := by
  refine isAscii_cons (by decide) (isAscii_append ?_ (isAscii_cons (by decide) isAscii_nil))
  intro c member
  obtain ⟨p, _, inside⟩ := List.mem_flatMap.1 member
  exact escapedPoint_ascii p c inside

/-- The text of an entry behind those before it, or of an item. -/
theorem more_ascii {cs : List Char} (h : IsAscii cs) : IsAscii (',' :: ' ' :: cs) :=
  isAscii_cons (by decide) (isAscii_cons (by decide) h)

theorem entry_ascii {value others : List Char} (key : Text) (first : IsAscii value) (rest : IsAscii others) :
    IsAscii (quoted key ++ ':' :: ' ' :: (value ++ others)) :=
  isAscii_append (quoted_ascii key)
    (isAscii_cons (by decide) (isAscii_cons (by decide) (isAscii_append first rest)))

theorem enclosed_ascii {opening closing : Char} {cs : List Char} (opens : opening.toNat < 128)
    (closes : closing.toNat < 128) (h : IsAscii cs) : IsAscii (opening :: cs ++ [closing]) :=
  isAscii_append (isAscii_cons opens h) (isAscii_cons closes isAscii_nil)

mutual

theorem write_ascii : ∀ (v : Value) {nesting : Option Nat} {cs : List Char}, write nesting v = .ok cs → IsAscii cs
  | .null => by
    intro h
    rw [← Except.ok.inj h]
    exact denotes_null.ascii
  | .bool true => by
    intro h
    rw [← Except.ok.inj h]
    exact denotes_true.ascii
  | .bool false => by
    intro h
    rw [← Except.ok.inj h]
    exact denotes_false.ascii
  | .int _ => fun h => (denotes_intChars h).ascii
  | .float x => by
    intro h
    rw [← Except.ok.inj h]
    exact (denotes_floatChars x).ascii
  | .text s => by
    intro h
    rw [← Except.ok.inj h]
    exact quoted_ascii s
  | .bytes .. => nofun
  | .list items => by
    intro h
    rw [write] at h
    obtain ⟨limit, _, h⟩ := bind_ok h
    obtain ⟨inner, written, h⟩ := bind_ok h
    rw [← pure_ok h]
    exact enclosed_ascii (by decide) (by decide) (writeItems_ascii items written)
  | .tuple items => by
    intro h
    rw [write] at h
    obtain ⟨limit, _, h⟩ := bind_ok h
    obtain ⟨inner, written, h⟩ := bind_ok h
    rw [← pure_ok h]
    exact enclosed_ascii (by decide) (by decide) (writeItems_ascii items written)
  | .map entries => by
    intro h
    rw [write] at h
    obtain ⟨limit, _, h⟩ := bind_ok h
    obtain ⟨inner, written, h⟩ := bind_ok h
    rw [← pure_ok h]
    exact enclosed_ascii (by decide) (by decide) (writeEntries_ascii entries written)

theorem writeItems_ascii : ∀ (items : List Value) {nesting : Option Nat} {cs : List Char},
    writeItems nesting items = .ok cs → IsAscii cs
  | [] => by
    intro h
    rw [← Except.ok.inj h]
    exact isAscii_nil
  | v :: rest => by
    intro h
    rw [writeItems] at h
    obtain ⟨first, written, h⟩ := bind_ok h
    obtain ⟨others, more, h⟩ := bind_ok h
    rw [← pure_ok h]
    exact isAscii_append (write_ascii v written) (writeMoreItems_ascii rest more)

theorem writeMoreItems_ascii : ∀ (items : List Value) {nesting : Option Nat} {cs : List Char},
    writeMoreItems nesting items = .ok cs → IsAscii cs
  | [] => by
    intro h
    rw [← Except.ok.inj h]
    exact isAscii_nil
  | v :: rest => by
    intro h
    rw [writeMoreItems] at h
    obtain ⟨first, written, h⟩ := bind_ok h
    obtain ⟨others, more, h⟩ := bind_ok h
    rw [← pure_ok h]
    exact more_ascii (isAscii_append (write_ascii v written) (writeMoreItems_ascii rest more))

theorem writeEntries_ascii : ∀ (entries : List (Value × Value)) {nesting : Option Nat} {cs : List Char},
    writeEntries nesting entries = .ok cs → IsAscii cs
  | [] => by
    intro h
    rw [← Except.ok.inj h]
    exact isAscii_nil
  | (k, v) :: rest => by
    intro h
    rw [writeEntries] at h
    obtain ⟨key, _, h⟩ := bind_ok h
    obtain ⟨value, written, h⟩ := bind_ok h
    obtain ⟨others, more, h⟩ := bind_ok h
    rw [← pure_ok h]
    exact entry_ascii key (write_ascii v written) (writeMoreEntries_ascii rest more)

theorem writeMoreEntries_ascii : ∀ (entries : List (Value × Value)) {nesting : Option Nat} {cs : List Char},
    writeMoreEntries nesting entries = .ok cs → IsAscii cs
  | [] => by
    intro h
    rw [← Except.ok.inj h]
    exact isAscii_nil
  | (k, v) :: rest => by
    intro h
    rw [writeMoreEntries] at h
    obtain ⟨key, _, h⟩ := bind_ok h
    obtain ⟨value, written, h⟩ := bind_ok h
    obtain ⟨others, more, h⟩ := bind_ok h
    rw [← pure_ok h]
    exact more_ascii (entry_ascii key (write_ascii v written) (writeMoreEntries_ascii rest more))

end

end RecordStore.Json
