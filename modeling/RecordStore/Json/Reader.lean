import RecordStore.Number.Numeral
import RecordStore.Text.Hex
import RecordStore.Value.Equality

/-!
Values from JSON text. The text is cut into tokens, and the tokens are folded into a stack of
unfinished lists and maps. A text that is not one value is refused; so are control characters inside a
string and whole numbers above the digit limit. An escaped high half of a surrogate pair and an escaped
low half right behind it make one character; other halves stay what they are. Of two entries with one
key the last value wins and the first place stays. How deep lists and maps may nest can be limited; of
two faults the first in the text counts.
-/

namespace RecordStore.Json

inductive Token where
  | openList
  | closeList
  | openMap
  | closeMap
  | comma
  | colon
  | scalar (v : Value)
  deriving Inhabited

def isBlank (c : Char) : Bool := c == ' ' || c == '\t' || c == '\n' || c == '\r'

def punctuation? (c : Char) : Option Token :=
  if c = '[' then some .openList
  else if c = ']' then some .closeList
  else if c = '\x7b' then some .openMap
  else if c = '\x7d' then some .closeMap
  else if c = ',' then some .comma
  else if c = ':' then some .colon
  else none

def isWordChar (c : Char) : Bool := c.isAlphanum || c == '+' || c == '-' || c == '.'

def numberOf? (word : List Char) : Option Value := do
  let n ← Numeral.read? word
  if n.isWhole then
    if n.whole.length ≤ digitLimit then some (.int n.toInt) else none
  else some (.float n.toBinary64)

def wordValue? (word : List Char) : Option Value :=
  if word = "null".toList then some .null
  else if word = "true".toList then some (.bool true)
  else if word = "false".toList then some (.bool false)
  else if word = "NaN".toList then some (.float .nan)
  else if word = "Infinity".toList then some (.float (.infinite false))
  else if word = "-Infinity".toList then some (.float (.infinite true))
  else numberOf? word

/-- Where the reader of tokens stands. What has been read of an unfinished token is kept in reverse;
`escaped` says that the last point of a string came from an escape by its number. -/
inductive Position where
  | between
  | word (read : List Char)
  | string (read : List CodePoint) (escaped : Bool)
  | escape (read : List CodePoint) (escaped : Bool)
  | hex (read : List CodePoint) (escaped : Bool) (digits : List Nat)
  deriving Inhabited

def simpleEscape? (c : Char) : Option Char :=
  if c = '"' ∨ c = '\\' ∨ c = '/' then some c
  else if c = 'b' then some (Char.ofNat 8)
  else if c = 'f' then some (Char.ofNat 12)
  else if c = 'n' then some '\n'
  else if c = 'r' then some '\r'
  else if c = 't' then some '\t'
  else none

structure TokenState where
  tokens : List Token := []
  position : Position := .between

namespace TokenState

def outside? (tokens : List Token) (c : Char) : Option TokenState :=
  if isBlank c then some ⟨tokens, .between⟩
  else if c = '"' then some ⟨tokens, .string [] false⟩
  else if isWordChar c then some ⟨tokens, .word [c]⟩
  else (punctuation? c).map fun t => ⟨t :: tokens, .between⟩

def finishWord? (tokens : List Token) (read : List Char) : Option (List Token) :=
  (wordValue? read.reverse).map fun v => .scalar v :: tokens

def stepChar? (state : TokenState) (c : Char) : Option TokenState :=
  match state.position with
  | .between => outside? state.tokens c
  | .word read =>
    if isWordChar c then some ⟨state.tokens, .word (c :: read)⟩
    else (finishWord? state.tokens read).bind (outside? · c)
  | .string read escaped =>
    if c = '\\' then some ⟨state.tokens, .escape read escaped⟩
    else if c = '"' then some ⟨.scalar (.text (.ofPoints read.reverse)) :: state.tokens, .between⟩
    else if c.toNat < 0x20 then none
    else some ⟨state.tokens, .string (.char c :: read) false⟩
  | .escape read escaped =>
    if c = 'u' then some ⟨state.tokens, .hex read escaped []⟩
    else (simpleEscape? c).map fun d => ⟨state.tokens, .string (.char d :: read) false⟩
  | .hex read escaped digits =>
    match Hex.digit? c, digits with
    | none, _ => none
    | some d, [x, y, z] =>
      let p := CodePoint.ofNat (((x * 16 + y) * 16 + z) * 16 + d)
      some ⟨state.tokens, .string (if escaped then CodePoint.push read p else p :: read) true⟩
    | some d, digits => some ⟨state.tokens, .hex read escaped (digits ++ [d])⟩

def step? (state : TokenState) : CodePoint → Option TokenState
  | .char c => state.stepChar? c
  | .half s =>
    match state.position with
    | .string read _ => some ⟨state.tokens, .string (.half s :: read) false⟩
    | _ => none

def finish? (state : TokenState) : Option (List Token) :=
  match state.position with
  | .between => some state.tokens.reverse
  | .word read => (finishWord? state.tokens read).map List.reverse
  | _ => none

end TokenState

/-- The tokens of a text up to its first fault, and whether there is none. -/
def scanFrom (state : TokenState) : List CodePoint → List Token × Bool
  | [] =>
    match state.finish? with
    | some tokens => (tokens, true)
    | none => (state.tokens.reverse, false)
  | p :: rest =>
    match state.step? p with
    | some state => scanFrom state rest
    | none => (state.tokens.reverse, false)

def scan (t : Text) : List Token × Bool := scanFrom {} t.points

inductive Frame where
  | list (items : List Value)
  | map (entries : List (Value × Value))
  | entry (entries : List (Value × Value)) (key : Text)
  deriving Inhabited

inductive Expected where
  | value
  | valueOrClose
  | key
  | keyOrClose
  | colon (key : Text)
  | separator
  deriving Inhabited

inductive Fault where
  | malformed
  | tooDeep
  deriving DecidableEq, Inhabited

structure ValueState where
  frames : List Frame := []
  expected : Expected := .value
  result : Option Value := none

namespace ValueState

def add? (frames : List Frame) (v : Value) : Option ValueState :=
  match frames with
  | [] => some { frames := [], expected := .separator, result := some v }
  | .list items :: rest => some { frames := .list (v :: items) :: rest, expected := .separator }
  | .entry entries key :: rest =>
    some { frames := .map (Value.putText key v entries) :: rest, expected := .separator }
  | .map _ :: _ => none

def startValue? (frames : List Frame) : Token → Option ValueState
  | .openList => some { frames := .list [] :: frames, expected := .valueOrClose }
  | .openMap => some { frames := .map [] :: frames, expected := .keyOrClose }
  | .scalar v => add? frames v
  | _ => none

def startKey? (frames : List Frame) : Token → Option ValueState
  | .scalar (.text key) => some { frames, expected := .colon key }
  | _ => none

def close? : List Frame → Token → Option ValueState
  | .list items :: rest, .closeList => add? rest (.list items.reverse)
  | .map entries :: rest, .closeMap => add? rest (.map entries)
  | _, _ => none

def step? (state : ValueState) (t : Token) : Option ValueState :=
  if state.result.isSome then none
  else match state.expected, t with
    | .value, t => startValue? state.frames t
    | .valueOrClose, .closeList => close? state.frames .closeList
    | .valueOrClose, t => startValue? state.frames t
    | .key, t => startKey? state.frames t
    | .keyOrClose, .closeMap => close? state.frames .closeMap
    | .keyOrClose, t => startKey? state.frames t
    | .colon key, .colon =>
      match state.frames with
      | .map entries :: rest => some { frames := .entry entries key :: rest, expected := .value }
      | _ => none
    | .colon _, _ => none
    | .separator, .comma =>
      match state.frames with
      | .list items :: rest => some { frames := .list items :: rest, expected := .value }
      | .map entries :: rest => some { frames := .map entries :: rest, expected := .key }
      | _ => none
    | .separator, t => close? state.frames t

/-- A step that opens no more lists and maps inside each other than there may be. -/
def stepWithin (nesting : Option Nat) (state : ValueState) (t : Token) : Except Fault ValueState :=
  match state.step? t with
  | none => .error .malformed
  | some next => if nesting.all (next.frames.length ≤ ·) then .ok next else .error .tooDeep

end ValueState

/-- The value that a JSON text stands for; `nesting` is how deep it may nest, if there is a limit. -/
def read (nesting : Option Nat) (s : Text) : Except Fault Value := do
  let (tokens, isWhole) := scan s
  let state ← tokens.foldlM (ValueState.stepWithin nesting) {}
  match state.result with
  | some v => if isWhole then return v else throw .malformed
  | none => throw .malformed

end RecordStore.Json
