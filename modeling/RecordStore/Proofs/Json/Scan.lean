import RecordStore.Proofs.Error.Outcome
import RecordStore.Proofs.Json.Normal
import RecordStore.Proofs.Json.Number
import RecordStore.Proofs.Text.Hex

/-!
# The tokens of written JSON text

`scan_write` shows that the text written for a value is cut into the tokens of the value: strings through
their escapes, numbers through their digits, and everything else by its punctuation.
-/

namespace RecordStore.Json

mutual

/-- The tokens of a value as it is written. -/
def tokens : Value → List Token
  | .list items => .openList :: (itemTokens items ++ [.closeList])
  | .tuple items => .openList :: (itemTokens items ++ [.closeList])
  | .map entries => .openMap :: (entryTokens entries ++ [.closeMap])
  | v => [.scalar (normal v)]

def itemTokens : List Value → List Token
  | [] => []
  | v :: rest => tokens v ++ moreItemTokens rest

def moreItemTokens : List Value → List Token
  | [] => []
  | v :: rest => .comma :: (tokens v ++ moreItemTokens rest)

def entryTokens : List (Value × Value) → List Token
  | [] => []
  | (k, v) :: rest => .scalar (.text (keyName k).joined) :: .colon :: (tokens v ++ moreEntryTokens rest)

def moreEntryTokens : List (Value × Value) → List Token
  | [] => []
  | (k, v) :: rest =>
    .comma :: .scalar (.text (keyName k).joined) :: .colon :: (tokens v ++ moreEntryTokens rest)

end

/-- The tokens of a text that is all characters. -/
def scanChars (state : TokenState) (cs : List Char) : List Token × Bool := scanFrom state (cs.map .char)

theorem scanChars_step {state next : TokenState} {c : Char} (rest : List Char) (h : state.stepChar? c = some next) :
    scanChars state (c :: rest) = scanChars next rest := by
  have step : state.step? (.char c) = some next := h
  rw [scanChars, List.map_cons, scanFrom, step]
  rfl

/-! ### Words -/

/-- A text that goes on with what may follow a value. -/
def Follows (rest : List Char) : Prop := ∀ c ∈ rest.head?, c = ',' ∨ c = ']' ∨ c = '\x7d'

theorem scan_wordChars {word : List Char} (inside : ∀ c ∈ word, isWordChar c = true) (tokens : List Token)
    (read rest : List Char) :
    scanChars ⟨tokens, .word read⟩ (word ++ rest) = scanChars ⟨tokens, .word (word.reverse ++ read)⟩ rest := by
  induction word generalizing read with
  | nil => rfl
  | cons c word ih =>
    have step : TokenState.stepChar? ⟨tokens, .word read⟩ c = some ⟨tokens, .word (c :: read)⟩ :=
      if_pos (inside c List.mem_cons_self)
    rw [List.cons_append, scanChars_step _ step, ih fun d hd => inside d (List.mem_cons_of_mem _ hd),
      List.reverse_cons, List.append_assoc]
    rfl

theorem scan_wordEnd {read rest : List Char} {v : Value} (value : wordValue? read.reverse = some v)
    (tokens : List Token) (follows : Follows rest) :
    scanChars ⟨tokens, .word read⟩ rest = scanChars ⟨.scalar v :: tokens, .between⟩ rest := by
  have finish : TokenState.finishWord? tokens read = some (.scalar v :: tokens) := by
    simp [TokenState.finishWord?, value]
  cases rest with
  | nil => simp [scanChars, scanFrom, TokenState.finish?, finish]
  | cons c rest =>
    have outside : isWordChar c = false ∧ ∃ next, TokenState.outside? (.scalar v :: tokens) c = some next := by
      rcases follows c rfl with rfl | rfl | rfl
      · exact ⟨rfl, _, rfl⟩
      · exact ⟨rfl, _, rfl⟩
      · exact ⟨rfl, _, rfl⟩
    obtain ⟨noWord, next, out⟩ := outside
    have fromWord : TokenState.stepChar? ⟨tokens, .word read⟩ c = some next := by
      simp [TokenState.stepChar?, noWord, finish, out]
    have fromBetween : TokenState.stepChar? ⟨.scalar v :: tokens, .between⟩ c = some next := out
    rw [scanChars_step _ fromWord, scanChars_step _ fromBetween]

theorem scan_word {word rest : List Char} {v : Value} (denotes : Denotes word v) (tokens : List Token)
    (follows : Follows rest) :
    scanChars ⟨tokens, .between⟩ (word ++ rest) = scanChars ⟨.scalar v :: tokens, .between⟩ rest := by
  obtain ⟨nonempty, inside, value⟩ := denotes
  obtain ⟨c, more, rfl⟩ := List.exists_cons_of_ne_nil nonempty
  have first := inside c List.mem_cons_self
  have noBlank : isBlank c = false := by
    cases blank : isBlank c with
    | false => rfl
    | true =>
      simp only [isBlank, Bool.or_eq_true, beq_iff_eq] at blank
      rcases blank with ((rfl | rfl) | rfl) | rfl <;> exact absurd first (by decide)
  have noQuote : c ≠ '"' := by rintro rfl; exact absurd first (by decide)
  have step : TokenState.stepChar? ⟨tokens, .between⟩ c = some ⟨tokens, .word [c]⟩ := by
    simp [TokenState.stepChar?, TokenState.outside?, noBlank, noQuote, first]
  rw [List.cons_append, scanChars_step _ step,
    scan_wordChars fun d hd => inside d (List.mem_cons_of_mem _ hd)]
  exact scan_wordEnd (by simpa using value) tokens follows

/-! ### Strings -/

/-- The last point that was read of a string was escaped by its number or is no half, so that an escaped point behind it is
joined with it wherever the two can be. -/
def Settled (read : List CodePoint) (escaped : Bool) : Prop :=
  escaped = false → ∀ p ∈ read.head?, p.isHalf = false

theorem pair?_of_not_half {q : CodePoint} (single : q.isHalf = false) (p : CodePoint) : q.pair? p = none := by
  cases q with
  | char c => rfl
  | half s => cases single

/-- What is read behind a settled text is joined with it, escaped or not. -/
theorem added_eq_push {read : List CodePoint} {escaped : Bool} (settled : Settled read escaped) (p : CodePoint) :
    (if escaped then CodePoint.push read p else p :: read) = CodePoint.push read p := by
  cases escaped with
  | true => rfl
  | false =>
    cases read with
    | nil => rfl
    | cons q rest => exact (CodePoint.push_apart (pair?_of_not_half (settled rfl q rfl) p)).symm

theorem settled_char (read : List CodePoint) (c : Char) : Settled (.char c :: read) false := by
  rintro - p ⟨⟩
  rfl

theorem settled_escaped (read : List CodePoint) : Settled read true := nofun

theorem push_char (read : List CodePoint) (c : Char) : CodePoint.push read (.char c) = .char c :: read := by
  cases read with
  | nil => rfl
  | cons q rest => exact CodePoint.push_apart (CodePoint.pair?_char q c)

theorem scan_unit {unit : Nat} (small : unit < 0x10000) (tokens : List Token) (read : List CodePoint) (escaped : Bool)
    (rest : List Char) :
    scanChars ⟨tokens, .string read escaped⟩ (unitEscape unit ++ rest) =
      scanChars ⟨tokens, .string (if escaped then CodePoint.push read (.ofNat unit) else .ofNat unit :: read) true⟩ rest := by
  have value : ((unit / 4096 % 16 * 16 + unit / 256 % 16) * 16 + unit / 16 % 16) * 16 + unit % 16 = unit := by omega
  have last : TokenState.stepChar? ⟨tokens, .hex read escaped [unit / 4096 % 16, unit / 256 % 16, unit / 16 % 16]⟩
      (Hex.digit unit) =
        some ⟨tokens, .string (if escaped then CodePoint.push read (.ofNat unit) else .ofNat unit :: read) true⟩ := by
    simp only [TokenState.stepChar?, Hex.digit?_digit, value]
  have first : ∀ n, TokenState.stepChar? ⟨tokens, .hex read escaped []⟩ (Hex.digit n) =
      some ⟨tokens, .hex read escaped [n % 16]⟩ := by
    intro n
    simp only [TokenState.stepChar?, Hex.digit?_digit, List.nil_append]
  have second : ∀ n x, TokenState.stepChar? ⟨tokens, .hex read escaped [x]⟩ (Hex.digit n) =
      some ⟨tokens, .hex read escaped [x, n % 16]⟩ := by
    intro n x
    simp only [TokenState.stepChar?, Hex.digit?_digit, List.cons_append, List.nil_append]
  have third : ∀ n x y, TokenState.stepChar? ⟨tokens, .hex read escaped [x, y]⟩ (Hex.digit n) =
      some ⟨tokens, .hex read escaped [x, y, n % 16]⟩ := by
    intro n x y
    simp only [TokenState.stepChar?, Hex.digit?_digit, List.cons_append, List.nil_append]
  have enter : TokenState.stepChar? ⟨tokens, .string read escaped⟩ '\\' = some ⟨tokens, .escape read escaped⟩ := rfl
  have mark : TokenState.stepChar? ⟨tokens, .escape read escaped⟩ 'u' = some ⟨tokens, .hex read escaped []⟩ := rfl
  change scanChars _ ('\\' :: 'u' :: Hex.digit _ :: Hex.digit _ :: Hex.digit _ :: Hex.digit _ :: rest) = _
  rw [scanChars_step _ enter, scanChars_step _ mark, scanChars_step _ (first _), scanChars_step _ (second _ _),
    scanChars_step _ (third _ _ _), scanChars_step _ last]

/-- The escapes of the two halves of a character above the first 2¹⁶ are read as the character. -/
theorem scan_pair {n : Nat} (h : n < 0x100000) (tokens : List Token) {read : List CodePoint} {escaped : Bool}
    (settled : Settled read escaped) (rest : List Char) :
    scanChars ⟨tokens, .string read escaped⟩
        (unitEscape (0xd800 + n / 0x400) ++ (unitEscape (0xdc00 + n % 0x400) ++ rest)) =
      scanChars ⟨tokens, .string (.char (Char.ofNat (0x10000 + n)) :: read) true⟩ rest := by
  have high : 0xd800 ≤ 0xd800 + n / 0x400 ∧ 0xd800 + n / 0x400 < 0xe000 := by omega
  have low : 0xd800 ≤ 0xdc00 + n % 0x400 ∧ 0xdc00 + n % 0x400 < 0xe000 := by omega
  have isHigh : 0xd800 + n / 0x400 < 0xdc00 := by omega
  have isLow : ¬ 0xdc00 + n % 0x400 < 0xdc00 := by omega
  have whole : 0x10000 + (0xd800 + n / 0x400 - 0xd800) * 0x400 + (0xdc00 + n % 0x400 - 0xdc00) = 0x10000 + n := by
    omega
  have first : CodePoint.push read (.ofNat (0xd800 + n / 0x400)) = .ofNat (0xd800 + n / 0x400) :: read := by
    cases read with
    | nil => rfl
    | cons q others =>
      refine CodePoint.push_apart ?_
      cases q with
      | char c => rfl
      | half s => simp [CodePoint.ofNat, high, CodePoint.pair?, Surrogate.isHigh, isHigh]
  have second : CodePoint.push (.ofNat (0xd800 + n / 0x400) :: read) (.ofNat (0xdc00 + n % 0x400)) =
      .char (Char.ofNat (0x10000 + n)) :: read := by
    rw [CodePoint.ofNat, dif_pos high, CodePoint.ofNat, dif_pos low, CodePoint.push]
    simp only [CodePoint.pair?, Surrogate.isHigh, Surrogate.pair, isHigh, isLow, decide_true, decide_false, Bool.not_false,
      Bool.and_self, if_true, whole]
  rw [scan_unit (by omega), added_eq_push settled, first, scan_unit (by omega), if_pos rfl, second]

theorem scan_escape {c d : Char} (h : simpleEscape? c = some d) (other : c ≠ 'u') (tokens : List Token)
    (read : List CodePoint) (escaped : Bool) (rest : List Char) :
    scanChars ⟨tokens, .string read escaped⟩ ('\\' :: c :: rest) =
      scanChars ⟨tokens, .string (.char d :: read) false⟩ rest := by
  have enter : TokenState.stepChar? ⟨tokens, .string read escaped⟩ '\\' = some ⟨tokens, .escape read escaped⟩ := rfl
  have step : TokenState.stepChar? ⟨tokens, .escape read escaped⟩ c = some ⟨tokens, .string (.char d :: read) false⟩ := by
    simp [TokenState.stepChar?, other, h]
  rw [scanChars_step _ enter, scanChars_step _ step]

/-- A written character is read as the character. Whether it was escaped by its number is left open. -/
theorem scan_escapedChar (c : Char) (tokens : List Token) {read : List CodePoint} {escaped : Bool}
    (settled : Settled read escaped) (rest : List Char) :
    ∃ now, Settled (.char c :: read) now ∧
      scanChars ⟨tokens, .string read escaped⟩ (escapedChar c ++ rest) =
        scanChars ⟨tokens, .string (.char c :: read) now⟩ rest := by
  unfold escapedChar
  by_cases quote : c = '"'
  · subst quote
    exact ⟨_, settled_char read _, scan_escape rfl (by decide) ..⟩
  by_cases backslash : c = '\\'
  · subst backslash
    exact ⟨_, settled_char read _, scan_escape rfl (by decide) ..⟩
  by_cases newline : c = '\n'
  · subst newline
    exact ⟨_, settled_char read _, scan_escape rfl (by decide) ..⟩
  by_cases carriage : c = '\r'
  · subst carriage
    exact ⟨_, settled_char read _, scan_escape rfl (by decide) ..⟩
  by_cases tab : c = '\t'
  · subst tab
    exact ⟨_, settled_char read _, scan_escape rfl (by decide) ..⟩
  rw [if_neg quote, if_neg backslash, if_neg newline, if_neg carriage, if_neg tab]
  have self : Char.ofNat c.toNat = c := Char.ofNat_toNat c
  by_cases back : c.toNat = 8
  · rw [if_pos back, ← self, back]
    exact ⟨_, settled_char read _, scan_escape rfl (by decide) ..⟩
  by_cases feed : c.toNat = 12
  · rw [if_neg back, if_pos feed, ← self, feed]
    exact ⟨_, settled_char read _, scan_escape rfl (by decide) ..⟩
  rw [if_neg back, if_neg feed]
  by_cases printed : 0x20 ≤ c.toNat ∧ c.toNat < 0x7f
  · rw [if_pos printed]
    have low : ¬ c.toNat < 0x20 := by omega
    have step : TokenState.stepChar? ⟨tokens, .string read escaped⟩ c = some ⟨tokens, .string (.char c :: read) false⟩ := by
      simp [TokenState.stepChar?, backslash, quote, low]
    exact ⟨_, settled_char read _, scanChars_step rest step⟩
  rw [if_neg printed]
  have valid : c.toNat < 0xd800 ∨ 0xdfff < c.toNat ∧ c.toNat < 0x110000 := c.valid
  by_cases narrow : c.toNat < 0x10000
  · have single : CodePoint.ofNat c.toNat = .char c := by rw [CodePoint.ofNat, dif_neg (by omega), self]
    rw [if_pos narrow, scan_unit narrow, added_eq_push settled, single, push_char]
    exact ⟨_, settled_escaped _, rfl⟩
  · rw [if_neg narrow]
    dsimp only
    rw [List.append_assoc, scan_pair (show c.toNat - 0x10000 < 0x100000 by omega) tokens settled,
      show 0x10000 + (c.toNat - 0x10000) = c.toNat by omega, self]
    exact ⟨_, settled_escaped _, rfl⟩

theorem scan_escapedPoint (p : CodePoint) (tokens : List Token) {read : List CodePoint} {escaped : Bool}
    (settled : Settled read escaped) (rest : List Char) :
    ∃ now, Settled (CodePoint.push read p) now ∧
      scanChars ⟨tokens, .string read escaped⟩ (escapedPoint p ++ rest) =
        scanChars ⟨tokens, .string (CodePoint.push read p) now⟩ rest := by
  cases p with
  | char c =>
    rw [push_char]
    exact scan_escapedChar c tokens settled rest
  | half s =>
    have unit : CodePoint.ofNat s.unit = .half s := dif_pos s.isHalf
    have small : s.unit < 0x10000 := Nat.lt_trans s.isHalf.2 (by decide)
    refine ⟨true, settled_escaped _, ?_⟩
    rw [escapedPoint, scan_unit small, unit, added_eq_push settled]

/-- The written points of a text are read joined, by induction on the points: after each of them the reader is settled. -/
theorem scan_escapedPoints (points : List CodePoint) (tokens : List Token) {read : List CodePoint} {escaped : Bool}
    (settled : Settled read escaped) (rest : List Char) :
    ∃ now, scanChars ⟨tokens, .string read escaped⟩ (points.flatMap escapedPoint ++ rest) =
      scanChars ⟨tokens, .string (points.foldl CodePoint.push read) now⟩ rest := by
  induction points generalizing read escaped with
  | nil => exact ⟨escaped, rfl⟩
  | cons p points ih =>
    obtain ⟨now, settledNow, first⟩ := scan_escapedPoint p tokens settled (points.flatMap escapedPoint ++ rest)
    obtain ⟨later, others⟩ := ih settledNow
    refine ⟨later, ?_⟩
    rw [List.flatMap_cons, List.append_assoc, first, others, List.foldl_cons]

theorem scan_quoted (t : Text) (tokens : List Token) (rest : List Char) :
    scanChars ⟨tokens, .between⟩ (quoted t ++ rest) =
      scanChars ⟨.scalar (.text t.joined) :: tokens, .between⟩ rest := by
  have opened : TokenState.stepChar? ⟨tokens, .between⟩ '"' = some ⟨tokens, .string [] false⟩ := rfl
  obtain ⟨now, inside⟩ := scan_escapedPoints t.points tokens (show Settled [] false from nofun) (['"'] ++ rest)
  have closed : TokenState.stepChar? ⟨tokens, .string (t.points.foldl CodePoint.push []) now⟩ '"' =
      some ⟨.scalar (.text t.joined) :: tokens, .between⟩ := by
    rw [Text.joined_eq]
    rfl
  rw [quoted, List.cons_append, List.append_assoc, scanChars_step _ opened, inside]
  exact scanChars_step rest closed

/-! ### Values -/

theorem scan_separator (tokens : List Token) (rest : List Char) :
    scanChars ⟨tokens, .between⟩ (',' :: ' ' :: rest) = scanChars ⟨.comma :: tokens, .between⟩ rest := by
  have comma : TokenState.stepChar? ⟨tokens, .between⟩ ',' = some ⟨.comma :: tokens, .between⟩ := rfl
  have blank : TokenState.stepChar? ⟨.comma :: tokens, .between⟩ ' ' = some ⟨.comma :: tokens, .between⟩ := rfl
  rw [scanChars_step _ comma, scanChars_step _ blank]

theorem scan_key (s : Text) (tokens : List Token) (rest : List Char) :
    scanChars ⟨tokens, .between⟩ (quoted s ++ ':' :: ' ' :: rest) =
      scanChars ⟨.colon :: .scalar (.text s.joined) :: tokens, .between⟩ rest := by
  have colon : ∀ tokens, TokenState.stepChar? ⟨tokens, .between⟩ ':' = some ⟨.colon :: tokens, .between⟩ := fun _ => rfl
  have blank : ∀ tokens, TokenState.stepChar? ⟨.colon :: tokens, .between⟩ ' ' = some ⟨.colon :: tokens, .between⟩ :=
    fun _ => rfl
  rw [scan_quoted, scanChars_step _ (colon _), scanChars_step _ (blank _)]

theorem follows_cons {c : Char} {rest : List Char} (h : c = ',' ∨ c = ']' ∨ c = '\x7d') : Follows (c :: rest) := by
  intro d hd
  obtain rfl : c = d := Option.some.inj hd
  exact h

theorem follows_moreItems {nesting : Option Nat} {items : List Value} {cs rest : List Char} (h : writeMoreItems nesting items = .ok cs)
    (follows : Follows rest) : Follows (cs ++ rest) := by
  cases items with
  | nil =>
    rw [writeMoreItems] at h
    rwa [← Except.ok.inj h]
  | cons v items =>
    rw [writeMoreItems] at h
    obtain ⟨first, _, h⟩ := bind_ok h
    obtain ⟨others, _, h⟩ := bind_ok h
    rw [← pure_ok h]
    exact follows_cons (.inl rfl)

theorem follows_moreEntries {nesting : Option Nat} {entries : List (Value × Value)} {cs rest : List Char}
    (h : writeMoreEntries nesting entries = .ok cs) (follows : Follows rest) : Follows (cs ++ rest) := by
  cases entries with
  | nil =>
    rw [writeMoreEntries] at h
    rwa [← Except.ok.inj h]
  | cons e entries =>
    rw [writeMoreEntries] at h
    obtain ⟨key, _, h⟩ := bind_ok h
    obtain ⟨value, _, h⟩ := bind_ok h
    obtain ⟨others, _, h⟩ := bind_ok h
    rw [← pure_ok h]
    exact follows_cons (.inl rfl)

section Lists
variable {tokens : List Token} {inner : List Token} {cs rest : List Char}

theorem scan_list
    (h : ∀ rest, Follows rest →
      scanChars ⟨.openList :: tokens, .between⟩ (cs ++ rest) =
        scanChars ⟨inner.reverse ++ .openList :: tokens, .between⟩ rest) :
    scanChars ⟨tokens, .between⟩ (('[' :: cs ++ [']']) ++ rest) =
      scanChars ⟨(.openList :: (inner ++ [.closeList])).reverse ++ tokens, .between⟩ rest := by
  have opened : TokenState.stepChar? ⟨tokens, .between⟩ '[' = some ⟨.openList :: tokens, .between⟩ := rfl
  have closed : ∀ tokens, TokenState.stepChar? ⟨tokens, .between⟩ ']' = some ⟨.closeList :: tokens, .between⟩ :=
    fun _ => rfl
  rw [List.append_assoc, List.cons_append, scanChars_step _ opened, List.cons_append,
    h _ (follows_cons (.inr (.inl rfl))), scanChars_step _ (closed _)]
  simp

theorem scan_map
    (h : ∀ rest, Follows rest →
      scanChars ⟨.openMap :: tokens, .between⟩ (cs ++ rest) =
        scanChars ⟨inner.reverse ++ .openMap :: tokens, .between⟩ rest) :
    scanChars ⟨tokens, .between⟩ (('\x7b' :: cs ++ ['\x7d']) ++ rest) =
      scanChars ⟨(.openMap :: (inner ++ [.closeMap])).reverse ++ tokens, .between⟩ rest := by
  have opened : TokenState.stepChar? ⟨tokens, .between⟩ '\x7b' = some ⟨.openMap :: tokens, .between⟩ := rfl
  have closed : ∀ tokens, TokenState.stepChar? ⟨tokens, .between⟩ '\x7d' = some ⟨.closeMap :: tokens, .between⟩ :=
    fun _ => rfl
  rw [List.append_assoc, List.cons_append, scanChars_step _ opened, List.cons_append,
    h _ (follows_cons (.inr (.inr rfl))), scanChars_step _ (closed _)]
  simp

end Lists

mutual

/-- The text written for a value is cut into the tokens of the value. -/
theorem scan_write : ∀ (v : Value) {nesting : Option Nat} {cs : List Char}, write nesting v = .ok cs → ∀ (done : List Token) {rest : List Char},
    Follows rest →
      scanChars ⟨done, .between⟩ (cs ++ rest) = scanChars ⟨(tokens v).reverse ++ done, .between⟩ rest
  | .null => by
    intro h done _ follows
    rw [← Except.ok.inj h]
    exact scan_word denotes_null done follows
  | .bool true => by
    intro h done _ follows
    rw [← Except.ok.inj h]
    exact scan_word denotes_true done follows
  | .bool false => by
    intro h done _ follows
    rw [← Except.ok.inj h]
    exact scan_word denotes_false done follows
  | .int _ => by
    intro h done _ follows
    rw [write] at h
    exact scan_word (denotes_intChars h) done follows
  | .float x => by
    intro h done _ follows
    rw [← Except.ok.inj h]
    exact scan_word (denotes_floatChars x) done follows
  | .text s => by
    intro h done _ follows
    rw [← Except.ok.inj h]
    exact scan_quoted s done _
  | .bytes .. => by
    intro h
    cases h
  | .list items => by
    intro h done _ follows
    rw [write] at h
    obtain ⟨limit, _, h⟩ := bind_ok h
    obtain ⟨cs, written, h⟩ := bind_ok h
    rw [← pure_ok h]
    exact scan_list fun _ follows => scan_writeItems items written (.openList :: done) follows
  | .tuple items => by
    intro h done _ follows
    rw [write] at h
    obtain ⟨limit, _, h⟩ := bind_ok h
    obtain ⟨cs, written, h⟩ := bind_ok h
    rw [← pure_ok h]
    exact scan_list fun _ follows => scan_writeItems items written (.openList :: done) follows
  | .map entries => by
    intro h done _ follows
    rw [write] at h
    obtain ⟨limit, _, h⟩ := bind_ok h
    obtain ⟨cs, written, h⟩ := bind_ok h
    rw [← pure_ok h]
    exact scan_map fun _ follows => scan_writeEntries entries written (.openMap :: done) follows

theorem scan_writeItems : ∀ (items : List Value) {nesting : Option Nat} {cs : List Char}, writeItems nesting items = .ok cs →
    ∀ (done : List Token) {rest : List Char}, Follows rest →
      scanChars ⟨done, .between⟩ (cs ++ rest) = scanChars ⟨(itemTokens items).reverse ++ done, .between⟩ rest
  | [] => by
    intro h done _ _
    rw [← Except.ok.inj h]
    rfl
  | v :: items => by
    intro h done _ follows
    rw [writeItems] at h
    obtain ⟨first, written, h⟩ := bind_ok h
    obtain ⟨others, more, h⟩ := bind_ok h
    rw [← pure_ok h, List.append_assoc, scan_write v written done (follows_moreItems more follows),
      scan_writeMoreItems items more _ follows, itemTokens, List.reverse_append, List.append_assoc]

theorem scan_writeMoreItems : ∀ (items : List Value) {nesting : Option Nat} {cs : List Char}, writeMoreItems nesting items = .ok cs →
    ∀ (done : List Token) {rest : List Char}, Follows rest →
      scanChars ⟨done, .between⟩ (cs ++ rest) = scanChars ⟨(moreItemTokens items).reverse ++ done, .between⟩ rest
  | [] => by
    intro h done _ _
    rw [← Except.ok.inj h]
    rfl
  | v :: items => by
    intro h done _ follows
    rw [writeMoreItems] at h
    obtain ⟨first, written, h⟩ := bind_ok h
    obtain ⟨others, more, h⟩ := bind_ok h
    rw [← pure_ok h, List.cons_append, List.cons_append, scan_separator, List.append_assoc,
      scan_write v written _ (follows_moreItems more follows), scan_writeMoreItems items more _ follows, moreItemTokens]
    simp

theorem scan_writeEntries : ∀ (entries : List (Value × Value)) {nesting : Option Nat} {cs : List Char}, writeEntries nesting entries = .ok cs →
    ∀ (done : List Token) {rest : List Char}, Follows rest →
      scanChars ⟨done, .between⟩ (cs ++ rest) = scanChars ⟨(entryTokens entries).reverse ++ done, .between⟩ rest
  | [] => by
    intro h done _ _
    rw [← Except.ok.inj h]
    rfl
  | (k, v) :: entries => by
    intro h done _ follows
    rw [writeEntries] at h
    obtain ⟨key, named, h⟩ := bind_ok h
    obtain ⟨value, written, h⟩ := bind_ok h
    obtain ⟨others, more, h⟩ := bind_ok h
    rw [← pure_ok h, List.append_assoc, List.cons_append, List.cons_append, scan_key, List.append_assoc,
      scan_write v written _ (follows_moreEntries more follows), scan_writeMoreEntries entries more _ follows, entryTokens,
      keyName_of_keyText named]
    simp

theorem scan_writeMoreEntries : ∀ (entries : List (Value × Value)) {nesting : Option Nat} {cs : List Char},
    writeMoreEntries nesting entries = .ok cs → ∀ (done : List Token) {rest : List Char}, Follows rest →
      scanChars ⟨done, .between⟩ (cs ++ rest) = scanChars ⟨(moreEntryTokens entries).reverse ++ done, .between⟩ rest
  | [] => by
    intro h done _ _
    rw [← Except.ok.inj h]
    rfl
  | (k, v) :: entries => by
    intro h done _ follows
    rw [writeMoreEntries] at h
    obtain ⟨key, named, h⟩ := bind_ok h
    obtain ⟨value, written, h⟩ := bind_ok h
    obtain ⟨others, more, h⟩ := bind_ok h
    rw [← pure_ok h, List.cons_append, List.cons_append, scan_separator, List.append_assoc, List.cons_append,
      List.cons_append, scan_key, List.append_assoc, scan_write v written _ (follows_moreEntries more follows),
      scan_writeMoreEntries entries more _ follows, moreEntryTokens, keyName_of_keyText named]
    simp

end

end RecordStore.Json
