import RecordStore.Proofs.Sql.Numbering
import RecordStore.Proofs.Sql.Precedence
import RecordStore.Proofs.Sql.Quoting
import RecordStore.Proofs.Sql.Slots

/-!
# Conditions without marks

The texts between the slots of a condition are words and quoted names. No driver takes any of their
characters for a mark, and they never start with a digit, so no placeholder is found in the text of a
condition but its slots.
-/

namespace RecordStore.Sql

/-- Whether no digit stands right behind a colon. -/
def colonsApart : List Char → Bool
  | [] => true
  | c :: rest => (c != ':' || !rest.head?.any Text.isDigit) && colonsApart rest

/-- Text that holds no mark of any driver: besides having no mark of a placeholder, it has no percent sign,
no question mark and no number behind a colon. Only names stand in quotes. -/
structure Wording (s : String) : Prop extends Unmarked s where
  calm : ∀ c ∈ s.toList, c ≠ '%' ∧ c ≠ '?'
  apart : colonsApart s.toList = true
  quotes : QuotesNames s.toList

/-- Whether a text is one that holds neither marks nor names. -/
def isWording : List Char → Bool
  | [] => false
  | c :: rest =>
    !Text.isDigit c && (c :: rest).all (fun d => d != '$' && d != '%' && d != '?' && d != '"') && colonsApart (c :: rest)

theorem wording_closed {s : String} (h : isWording s.toList = true) : Wording s := by
  cases whole : s.toList with
  | nil => simp [whole, isWording] at h
  | cons c rest =>
    rw [whole] at h
    simp only [isWording, Bool.and_eq_true, Bool.not_eq_true', List.all_eq_true, bne_iff_ne] at h
    obtain ⟨⟨noDigit, plain⟩, apart⟩ := h
    refine ⟨⟨by simp [whole], ?_, ?_⟩, ?_, by rw [whole]; exact apart, ?_⟩
    · rw [whole]
      intro d hd
      obtain rfl : c = d := Option.some.inj hd
      exact noDigit
    · rw [whole]
      exact fun d hd => (plain d hd).1.1.1
    · rw [whole]
      exact fun d hd => ⟨(plain d hd).1.1.2, (plain d hd).1.2⟩
    · rw [whole]
      exact quotesNames_of_plain fun d hd => (plain d hd).2

theorem colonsApart_append {cs ds : List Char} (first : colonsApart cs = true) (second : colonsApart ds = true)
    (starts : NoDigit ds) : colonsApart (cs ++ ds) = true := by
  induction cs with
  | nil => exact second
  | cons c rest ih =>
    simp only [colonsApart, Bool.and_eq_true] at first
    simp only [List.cons_append, colonsApart, Bool.and_eq_true]
    refine ⟨?_, ih first.2⟩
    cases rest with
    | cons d rest => exact first.1
    | nil =>
      cases ds with
      | nil => exact first.1
      | cons d ds => simp [starts d rfl]

theorem colonsApart_behind {cs ds : List Char} (first : colonsApart cs = true) (second : colonsApart ds = true)
    (ends : cs.getLast? ≠ some ':') : colonsApart (cs ++ ds) = true := by
  induction cs with
  | nil => exact second
  | cons c rest ih =>
    simp only [colonsApart, Bool.and_eq_true] at first
    simp only [List.cons_append, colonsApart, Bool.and_eq_true]
    cases rest with
    | cons d rest => exact ⟨first.1, ih first.2 (by rwa [List.getLast?_cons_cons] at ends)⟩
    | nil =>
      have noColon : c ≠ ':' := fun same => ends (by rw [same]; rfl)
      exact ⟨by simp [noColon], second⟩

theorem wording_append {s t : String} (first : Wording s) (second : Wording t) : Wording (s ++ t) := by
  obtain ⟨c, rest, whole⟩ := List.exists_cons_of_ne_nil first.nonempty
  have starts := first.starts
  rw [whole] at starts
  refine ⟨⟨by simp [String.toList_append, whole], ?_, ?_⟩, ?_, ?_, ?_⟩
  · rw [String.toList_append, whole]
    exact starts
  · intro d hd
    rw [String.toList_append] at hd
    exact (List.mem_append.1 hd).elim (first.plain d) (second.plain d)
  · intro d hd
    rw [String.toList_append] at hd
    exact (List.mem_append.1 hd).elim (first.calm d) (second.calm d)
  · rw [String.toList_append]
    exact colonsApart_append first.apart second.apart second.starts
  · rw [String.toList_append]
    exact first.quotes.append second.quotes

theorem wording_ends {s t : String} (h : Wording s) (ending : isWording t.toList = true) : Wording (s ++ t) :=
  wording_append h (wording_closed ending)

theorem colonsApart_of_none {cs : List Char} (h : ∀ c ∈ cs, c ≠ ':') : colonsApart cs = true := by
  induction cs with
  | nil => rfl
  | cons c rest ih =>
    simp only [colonsApart, Bool.and_eq_true]
    exact ⟨by simp [h c List.mem_cons_self], ih fun d hd => h d (List.mem_cons_of_mem _ hd)⟩

theorem quoted_avoids (column : Identifier) {c : Char} (noWord : isIdentifierChar c = false) (noEnd : c ≠ '\n')
    (noQuote : c ≠ '"') : ∀ d ∈ column.quoted.toList, d ≠ c := by
  intro d hd
  simp only [Identifier.quoted, String.toList_append, List.mem_append] at hd
  rcases hd with (quote | inside) | quote
  · rintro rfl
    exact noQuote (by simpa using quote)
  · exact identifier_avoids column noWord noEnd d inside
  · rintro rfl
    exact noQuote (by simpa using quote)

theorem wording_quoted (column : Identifier) : Wording column.quoted := by
  have avoids : ∀ {c : Char}, isIdentifierChar c = false → c ≠ '\n' → c ≠ '"' → ∀ d ∈ column.quoted.toList, d ≠ c :=
    fun noWord noEnd noQuote => quoted_avoids column noWord noEnd noQuote
  refine ⟨⟨by simp [Identifier.quoted], ?_, avoids rfl (by decide) (by decide)⟩, fun d hd => ?_, ?_, quotesNames_quoted column⟩
  · intro c hc
    simp only [Identifier.quoted, String.toList_append] at hc
    obtain rfl : '"' = c := Option.some.inj hc
    decide
  · exact ⟨avoids rfl (by decide) (by decide) d hd, avoids rfl (by decide) (by decide) d hd⟩
  · exact colonsApart_of_none (avoids rfl (by decide) (by decide))

theorem wording_column (column : Identifier) {after : String} (ending : isWording after.toList = true) :
    Wording (column.quoted ++ after) :=
  wording_ends (wording_quoted column) ending

theorem wording_around {before after : String} (column : Identifier) (opening : isWording before.toList = true)
    (ending : isWording after.toList = true) : Wording (before ++ column.quoted ++ after) :=
  wording_ends (wording_append (wording_closed opening) (wording_quoted column)) ending

theorem wording_length (column : Identifier) : Wording (lengthText column) :=
  wording_around column (by decide +kernel) (by decide +kernel)

theorem wording_operand (operand : Operand) : Wording operand.text := by
  unfold Operand.text
  split
  · exact wording_length operand.column
  · exact wording_quoted operand.column

namespace Fragment

/-- Fragments whose texts hold no marks. -/
def Worded (fragment : Fragment) : Prop := ∀ s, Piece.text s ∈ fragment → Wording s

theorem Worded.clean {fragment : Fragment} (worded : fragment.Worded) : fragment.Clean :=
  fun s hs => (worded s hs).toUnmarked

/-- Places of values are no names, so in a whole statement only names stand in quotes too. -/
theorem Worded.quotes {fragment : Fragment} (worded : fragment.Worded) : QuotesNames fragment.chars := by
  induction fragment with
  | nil => exact .nil
  | cons piece rest ih =>
    have others := ih fun s member => worded s (List.mem_cons_of_mem _ member)
    cases piece with
    | text s => exact (worded s List.mem_cons_self).quotes.append others
    | slot number =>
      rw [chars_slot]
      refine QuotesNames.append (quotesNames_of_plain fun c member => ?_) others
      rcases List.mem_cons.1 member with rfl | digit
      · decide
      · rintro rfl
        exact absurd (isDigit_of_mem_toDigits digit) (by decide)

theorem Worded.accepted {fragment : Fragment} (worded : fragment.Worded) : QuotedAccepted fragment.sql := by
  refine QuotesNames.accepted ?_
  rw [toList_sql]
  exact worded.quotes

theorem worded_nil : Worded [] := by simp [Worded]

theorem worded_append {a b : Fragment} (first : a.Worded) (second : b.Worded) : Worded (a ++ b) :=
  fun s hs => (List.mem_append.1 hs).elim (first s) (second s)

theorem worded_cons {s : String} {rest : Fragment} (first : Wording s) (second : rest.Worded) :
    Worded (.text s :: rest) := by
  intro t ht
  rcases List.mem_cons.1 ht with same | later
  · cases same
    exact first
  · exact second t later

theorem worded_text {s : String} (h : Wording s) : Worded [.text s] := worded_cons h worded_nil

theorem worded_join {separator : String} (between : Wording separator) {fragments : List Fragment}
    (worded : ∀ f ∈ fragments, Worded f) : Worded (join separator fragments) := by
  induction fragments with
  | nil => exact worded_nil
  | cons f rest ih =>
    have others := ih fun g hg => worded g (List.mem_cons_of_mem _ hg)
    cases rest with
    | nil => exact worded f List.mem_cons_self
    | cons g rest => exact worded_append (worded f List.mem_cons_self) (worded_cons between others)

end Fragment

open Fragment

theorem Slot.worded {slot : Slot} (safe : slot.cast ∈ castTexts) : slot.fragment.Worded := by
  unfold Slot.fragment
  simp only [castTexts, List.mem_cons, List.not_mem_nil, or_false] at safe
  rcases safe with none | int | bytes
  · rw [none]
    simp [Worded]
  · rw [int]
    intro s hs
    obtain rfl : s = "::int" := by simpa using hs
    exact wording_closed (by decide +kernel)
  · rw [bytes]
    intro s hs
    obtain rfl : s = "::bytea" := by simpa using hs
    exact wording_closed (by decide +kernel)

theorem Slot.clean {slot : Slot} (safe : slot.cast ∈ castTexts) : slot.fragment.Clean := (Slot.worded safe).clean

theorem worded_slots {slots : List Slot} (safe : ∀ slot ∈ slots, slot.cast ∈ castTexts) : (ofSlots slots).Worded := by
  refine worded_join (wording_closed (by decide +kernel)) fun f hf => ?_
  obtain ⟨slot, member, rfl⟩ := List.mem_map.1 hf
  exact Slot.worded (safe slot member)

theorem safe_slotsFrom (next count : Nat) : ∀ slot ∈ slotsFrom next count, slot.cast ∈ castTexts := by
  intro slot member
  simp [castTexts, cast_slotsFrom member]

theorem worded_identifiers (names : List Identifier) : (ofIdentifiers names).Worded := by
  refine worded_join (wording_closed (by decide +kernel)) fun f member => ?_
  obtain ⟨name, _, rfl⟩ := List.mem_map.1 member
  exact worded_text (wording_quoted name)

theorem Test.worded {t : Test} (safe : t.Safe) : t.fragment.Worded := by
  have parenthesis : Wording ")" := wording_closed (by decide +kernel)
  have bracket : Wording "]" := wording_closed (by decide +kernel)
  have lone : ∀ slot, t.slots = [slot] → slot.fragment.Worded :=
    fun slot only => Slot.worded (safe slot (by simp [only]))
  cases t with
  | always => exact worded_text (wording_closed (by decide +kernel))
  | never => exact worded_text (wording_closed (by decide +kernel))
  | equal column value => exact worded_cons (wording_column column (by decide +kernel)) (lone _ rfl)
  | oneOf column values =>
    exact worded_append (worded_cons (wording_column column (by decide +kernel)) (worded_slots safe))
      (worded_text parenthesis)
  | holdsAll column values =>
    exact worded_append (worded_cons (wording_column column (by decide +kernel)) (worded_slots safe))
      (worded_text bracket)
  | atLeast operand bound =>
    exact worded_cons (wording_ends (wording_operand operand) (by decide +kernel)) (lone _ rfl)
  | atMost operand bound =>
    exact worded_cons (wording_ends (wording_operand operand) (by decide +kernel)) (lone _ rfl)
  | isSet column => exact worded_text (wording_column column (by decide +kernel))
  | isUnset column => exact worded_text (wording_column column (by decide +kernel))
  | hasElements column => exact worded_text (wording_ends (wording_length column) (by decide +kernel))
  | hasNoElements column => exact worded_text (wording_ends (wording_length column) (by decide +kernel))
  | like column pattern => exact worded_cons (wording_column column (by decide +kernel)) (lone _ rfl)
  | anyLike column pattern =>
    have before := @wording_around "exists (select 1 from unnest(" ") as x where x::text ilike " column
      (by decide +kernel) (by decide +kernel)
    exact worded_append (worded_cons before (lone _ rfl)) (worded_text parenthesis)

namespace Condition

theorem wording_word (connective : Connective) : Wording connective.word := by
  cases connective with
  | all => exact wording_closed (by decide +kernel)
  | any => exact wording_closed (by decide +kernel)

mutual

theorem worded_fragment : ∀ {c : Condition}, c.Readable → c.fragment.Worded
  | test _, h => Test.worded h
  | joined connective parts, h => by
    rw [fragment]
    exact worded_cons (wording_closed (by decide +kernel))
      (worded_append (worded_joinFragments connective h.2) (worded_text (wording_closed (by decide +kernel))))
  | negated inner, h => by
    rw [fragment]
    exact worded_cons (wording_closed (by decide +kernel))
      (worded_append (worded_fragment (c := inner) h) (worded_text (wording_closed (by decide +kernel))))

theorem worded_joinFragments (connective : Connective) : ∀ {parts : List Condition}, AllReadable parts →
    (joinFragments connective.word parts).Worded
  | [], _ => by
    rw [joinFragments]
    exact worded_nil
  | [part], h => by
    rw [joinFragments]
    exact worded_fragment h.1
  | part :: next :: rest, h => by
    rw [joinFragments]
    · exact worded_append (worded_fragment h.1)
        (worded_cons (wording_word connective) (worded_joinFragments connective h.2))
    · simp

end

theorem clean_fragment {c : Condition} (readable : c.Readable) : c.fragment.Clean := (worded_fragment readable).clean

theorem clean_joinFragments (connective : Connective) {parts : List Condition} (readable : AllReadable parts) :
    (joinFragments connective.word parts).Clean :=
  (worded_joinFragments connective readable).clean

end Condition

end RecordStore.Sql
