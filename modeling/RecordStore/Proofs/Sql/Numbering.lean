import RecordStore.Proofs.Sql.Text
import RecordStore.Sql.Placeholder

/-!
# Numbered values

`Inlined` text has values standing in it. Numbering it puts a slot in the place of every value, and the
placeholders that are found in the resulting text are those slots, in their order.
-/

namespace RecordStore.Sql

/-- A piece of text, or a value in the place where it belongs. -/
inductive Part where
  | text (s : String)
  | value (v : Value)

abbrev Inlined := List Part

namespace Inlined

def values : Inlined → List Value
  | [] => []
  | .text _ :: rest => values rest
  | .value v :: rest => v :: values rest

/-- The text with slots in the places of the values, numbered from `next`. -/
def numbered (next : Nat) : Inlined → Fragment
  | [] => []
  | .text s :: rest => .text s :: numbered next rest
  | .value _ :: rest => .slot next :: numbered (next + 1) rest

def join (separator : String) : List Inlined → Inlined
  | [] => []
  | [part] => part
  | part :: rest => part ++ .text separator :: join separator rest

def allValues (parts : List Inlined) : List Value := parts.flatMap values

def numberedEach (next : Nat) : List Inlined → List Fragment
  | [] => []
  | part :: rest => part.numbered next :: numberedEach (next + part.values.length) rest

theorem values_append (a b : Inlined) : values (a ++ b) = values a ++ values b := by
  induction a with
  | nil => rfl
  | cons p a ih => cases p <;> simp [values, ih]

theorem numbered_append (next : Nat) (a b : Inlined) :
    numbered next (a ++ b) = numbered next a ++ numbered (next + (values a).length) b := by
  induction a generalizing next with
  | nil => rfl
  | cons p a ih =>
    cases p with
    | text s => simp [numbered, values, ih]
    | value v => simp [numbered, values, ih, Nat.add_assoc, Nat.add_comm 1]

theorem allValues_append (as bs : List Inlined) : allValues (as ++ bs) = allValues as ++ allValues bs :=
  List.flatMap_append

theorem numberedEach_append (next : Nat) (as bs : List Inlined) :
    numberedEach next (as ++ bs) = numberedEach next as ++ numberedEach (next + (allValues as).length) bs := by
  induction as generalizing next with
  | nil => rfl
  | cons a as ih => simp [numberedEach, allValues, ih, Nat.add_assoc]

theorem join_cons (separator : String) (a b : Inlined) (rest : List Inlined) :
    join separator (a :: b :: rest) = a ++ .text separator :: join separator (b :: rest) := rfl

theorem values_join (separator : String) (parts : List Inlined) : values (join separator parts) = allValues parts := by
  induction parts with
  | nil => rfl
  | cons a rest ih =>
    cases rest with
    | nil => simp [join, allValues]
    | cons b rest =>
      rw [join_cons, values_append, values, ih]
      rfl

theorem numbered_join (separator : String) (next : Nat) (parts : List Inlined) :
    numbered next (join separator parts) = Fragment.join separator (numberedEach next parts) := by
  induction parts generalizing next with
  | nil => rfl
  | cons a rest ih =>
    cases rest with
    | nil => rfl
    | cons b rest =>
      rw [join_cons, numbered_append, numbered, ih]
      rfl

/-- The numbers of the slots start with the first one and go up by one. -/
theorem slots_numbered (next : Nat) (parts : Inlined) :
    (numbered next parts).slots = List.range' next (values parts).length := by
  induction parts generalizing next with
  | nil => rfl
  | cons p rest ih =>
    cases p with
    | text s => exact ih next
    | value v =>
      change next :: (numbered (next + 1) rest).slots = _
      rw [ih, values, List.length_cons, List.range'_succ]

theorem slots_numberedEach (next : Nat) (parts : List Inlined) :
    (numberedEach next parts).flatMap Fragment.slots = List.range' next (allValues parts).length := by
  induction parts generalizing next with
  | nil => rfl
  | cons a rest ih =>
    have length : (allValues (a :: rest)).length = a.values.length + (allValues rest).length := by
      simp [allValues]
    rw [numberedEach, List.flatMap_cons, slots_numbered, ih, length, List.range'_append_1]

end Inlined

/-! ### Placeholders in text -/

def NoDigit (rest : List Char) : Prop := ∀ c ∈ rest.head?, Text.isDigit c = false

/-- Text that has no mark of a placeholder and lengthens none before it. -/
structure Unmarked (s : String) : Prop where
  nonempty : s.toList ≠ []
  starts : NoDigit s.toList
  plain : ∀ c ∈ s.toList, c ≠ '$'

theorem leadingDigits_nil {rest : List Char} : leadingDigits rest = [] ↔ NoDigit rest := by
  cases rest with
  | nil => simp [leadingDigits, NoDigit]
  | cons c rest => simp [leadingDigits, NoDigit, List.takeWhile_cons]

theorem leadingDigits_append {digits rest : List Char} (each : ∀ c ∈ digits, Text.isDigit c = true)
    (follows : NoDigit rest) : leadingDigits (digits ++ rest) = digits := by
  have none := leadingDigits_nil.2 follows
  unfold leadingDigits at none ⊢
  rw [List.takeWhile_append_of_pos each, none, List.append_nil]

theorem stretches_char {c : Char} {rest : List Char} (noMark : c = '$' → NoDigit rest) :
    stretches (c :: rest) = .plain c :: stretches rest := by
  have unmarked : ¬ (c = '$' ∧ leadingDigits rest ≠ []) := fun h => h.2 (leadingDigits_nil.2 (noMark h.1))
  rw [stretches, stretchesFrom, if_neg unmarked]
  rfl

theorem stretches_plain {cs : List Char} (plain : ∀ c ∈ cs, c ≠ '$') (rest : List Char) :
    stretches (cs ++ rest) = cs.map .plain ++ stretches rest := by
  induction cs with
  | nil => rfl
  | cons c cs ih =>
    rw [List.cons_append, stretches_char fun dollar => absurd dollar (plain c List.mem_cons_self),
      ih fun d hd => plain d (List.mem_cons_of_mem _ hd)]
    rfl

theorem stretchesFrom_skip (cs rest : List Char) : stretchesFrom cs.length (cs ++ rest) = stretches rest := by
  induction cs with
  | nil => rfl
  | cons c cs ih => exact ih

theorem stretches_placeholder {digits rest : List Char} (nonempty : digits ≠ [])
    (each : ∀ c ∈ digits, Text.isDigit c = true) (follows : NoDigit rest) :
    stretches ('$' :: (digits ++ rest)) = .placeholder digits :: stretches rest := by
  rw [stretches, stretchesFrom, leadingDigits_append each follows, if_pos ⟨rfl, nonempty⟩, stretchesFrom_skip]

theorem digitValue?_of_isDigit {c : Char} (h : c.isDigit = true) :
    Text.digitValue? c = some (c.toNat - '0'.toNat) := by
  have bounds : 48 ≤ c.toNat ∧ c.toNat ≤ 57 := Char.isDigit_iff_toNat.1 h
  have found : Text.zeros.find? (fun start => start ≤ c.toNat && c.toNat < start + 10) = some 48 :=
    List.find?_cons_of_pos (by simp; omega)
  rw [Text.digitValue?, found]
  rfl

theorem isDigit_text {c : Char} (h : c.isDigit = true) : Text.isDigit c = true := by
  rw [Text.isDigit, digitValue?_of_isDigit h]
  rfl

theorem natOfDigits_text {ds : List Char} (digits : ∀ c ∈ ds, c.isDigit = true) :
    Text.natOfDigits ds = natOfDigits ds := by
  have all : ∀ start, ds.foldl (fun n c => 10 * n + (Text.digitValue? c).getD 0) start =
      ds.foldl (fun n c => 10 * n + (c.toNat - '0'.toNat)) start := by
    induction ds with
    | nil => exact fun _ => rfl
    | cons d ds ih =>
      intro start
      rw [List.foldl_cons, List.foldl_cons, digitValue?_of_isDigit (digits d List.mem_cons_self)]
      exact ih (fun c hc => digits c (List.mem_cons_of_mem _ hc)) _
  exact all 0

theorem natOfDigits_slot (n : Nat) : Text.natOfDigits (Nat.toDigits 10 n) = n :=
  (natOfDigits_text fun _ hc => isDigit_of_mem_toDigits hc).trans (natOfDigits_toDigits n)

theorem isDigit_number {n : Nat} : ∀ c ∈ Nat.toDigits 10 n, Text.isDigit c = true :=
  fun _ hc => isDigit_text (isDigit_of_mem_toDigits hc)

theorem leadingDigits_number (n : Nat) {rest : List Char} (follows : NoDigit rest) :
    leadingDigits (Nat.toDigits 10 n ++ rest) = Nat.toDigits 10 n :=
  leadingDigits_append isDigit_number follows

theorem stretches_slot (n : Nat) {rest : List Char} (follows : NoDigit rest) :
    stretches ('$' :: Nat.toDigits 10 n ++ rest) = .placeholder (Nat.toDigits 10 n) :: stretches rest :=
  stretches_placeholder Nat.toDigits_ne_nil isDigit_number follows

namespace Fragment

/-- The stretches that a piece is found as. -/
def pieceStretches : Piece → List Stretch
  | .text s => s.toList.map .plain
  | .slot n => [.placeholder (Nat.toDigits 10 n)]

/-- Fragments whose texts look like no placeholders. -/
def Clean (fragment : Fragment) : Prop := ∀ s, Piece.text s ∈ fragment → Unmarked s

theorem noDigit_chars {fragment : Fragment} (clean : fragment.Clean) : NoDigit fragment.chars := by
  cases fragment with
  | nil => simp [NoDigit, chars]
  | cons p rest =>
    cases p with
    | text s =>
      have unmarked := clean s List.mem_cons_self
      obtain ⟨c, more, whole⟩ := List.exists_cons_of_ne_nil unmarked.nonempty
      have starts := unmarked.starts
      rw [whole] at starts
      rw [chars_text, whole]
      exact starts
    | slot n =>
      rw [chars_slot]
      intro c hc
      obtain rfl : '$' = c := Option.some.inj hc
      decide

/-- The placeholders that are found in the text of a fragment are its slots. -/
theorem stretches_chars {fragment : Fragment} (clean : fragment.Clean) :
    stretches fragment.chars = fragment.flatMap pieceStretches := by
  induction fragment with
  | nil => rfl
  | cons p rest ih =>
    have cleanRest : Clean rest := fun s hs => clean s (List.mem_cons_of_mem _ hs)
    cases p with
    | text s => rw [chars_text, stretches_plain (clean s List.mem_cons_self).plain, ih cleanRest, List.flatMap_cons]; rfl
    | slot n => rw [chars_slot, stretches_slot n (noDigit_chars cleanRest), ih cleanRest, List.flatMap_cons]; rfl

end Fragment

/-- The numbers of the placeholders in a text, from left to right. -/
def placeholders (text : String) : List Nat :=
  (stretches text.toList).filterMap fun
    | .plain _ => none
    | .placeholder digits => some (Text.natOfDigits digits)

theorem placeholders_sql {fragment : Fragment} (clean : fragment.Clean) : placeholders fragment.sql = fragment.slots := by
  rw [placeholders, Fragment.toList_sql, Fragment.stretches_chars clean]
  induction fragment with
  | nil => rfl
  | cons p rest ih =>
    have others := ih fun s hs => clean s (List.mem_cons_of_mem _ hs)
    rw [List.flatMap_cons, List.filterMap_append, others]
    cases p with
    | text s => simp [Fragment.pieceStretches, Fragment.slots, List.filterMap_map]
    | slot n => simp [Fragment.pieceStretches, Fragment.slots, natOfDigits_slot]

/-! ### Values in their places -/

/-- A character of a text, the value that a placeholder names, or a placeholder that names none. -/
inductive Spot where
  | char (c : Char)
  | value (v : Value)
  | dangling (digits : List Char)

/-- The value that a placeholder names. -/
def namedValue? (values : List Value) (digits : List Char) : Option Value :=
  match Text.natOfDigits digits with
  | 0 => none
  | n + 1 => values[n]?

def spotOf (values : List Value) : Stretch → Spot
  | .plain c => .char c
  | .placeholder digits =>
    match namedValue? values digits with
    | some v => .value v
    | none => .dangling digits

/-- A text with the values in the places of the placeholders that name them. -/
def resolved (values : List Value) (text : String) : List Spot := (stretches text.toList).map (spotOf values)

namespace Inlined

def spots : Inlined → List Spot
  | [] => []
  | .text s :: rest => s.toList.map .char ++ spots rest
  | .value v :: rest => .value v :: spots rest

def Clean (parts : Inlined) : Prop := ∀ s, Part.text s ∈ parts → Unmarked s

theorem clean_numbered {parts : Inlined} (clean : parts.Clean) (next : Nat) : (numbered next parts).Clean := by
  induction parts generalizing next with
  | nil => simp [numbered, Fragment.Clean]
  | cons p rest ih =>
    have others := ih fun s hs => clean s (List.mem_cons_of_mem _ hs)
    intro s hs
    cases p with
    | text t =>
      rcases List.mem_cons.1 hs with same | later
      · cases same
        exact clean s List.mem_cons_self
      · exact others _ s later
    | value v =>
      rcases List.mem_cons.1 hs with same | later
      · cases same
      · exact others _ s later

theorem clean_of_numbered (next : Nat) {parts : Inlined} (clean : (numbered next parts).Clean) : parts.Clean := by
  induction parts generalizing next with
  | nil => simp [Clean]
  | cons p rest ih =>
    intro s hs
    cases p with
    | text t =>
      rcases List.mem_cons.1 hs with same | later
      · cases same
        exact clean s List.mem_cons_self
      · exact ih next (fun u hu => clean u (List.mem_cons_of_mem _ hu)) s later
    | value v =>
      rcases List.mem_cons.1 hs with same | later
      · cases same
      · exact ih (next + 1) (fun u hu => clean u (List.mem_cons_of_mem _ hu)) s later

/-- In the numbered text, every placeholder names the value in whose place it stands. -/
theorem resolved_numbered {parts : Inlined} (clean : parts.Clean) (before after : List Value) :
    resolved (before ++ (parts.values ++ after)) (numbered (before.length + 1) parts).sql = parts.spots := by
  rw [resolved, Fragment.toList_sql, Fragment.stretches_chars (clean_numbered clean _)]
  induction parts generalizing before with
  | nil => rfl
  | cons p rest ih =>
    have cleanRest : Clean rest := fun s hs => clean s (List.mem_cons_of_mem _ hs)
    cases p with
    | text s =>
      rw [numbered, List.flatMap_cons, List.map_append, values, ih cleanRest before, spots]
      simp [Fragment.pieceStretches, spotOf]
    | value v =>
      have others := ih cleanRest (before ++ [v])
      rw [List.length_append, List.append_assoc] at others
      have named : spotOf (before ++ (v :: values rest ++ after)) (.placeholder (Nat.toDigits 10 (before.length + 1))) =
          .value v := by
        rw [spotOf, namedValue?, natOfDigits_slot]
        simp
      rw [numbered, List.flatMap_cons, List.map_append, values, spots]
      change [spotOf _ _] ++ _ = _
      rw [named]
      exact congrArg _ others

end Inlined

end RecordStore.Sql
