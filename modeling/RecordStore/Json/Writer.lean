import RecordStore.Error.Misuse
import RecordStore.Number.Numeral

/-!
Values as JSON text in ASCII: a comma and a colon are followed by a space, every other character is
escaped by its UTF-16 units, and keys that are not text are written as the text of their value. Bytes
and keys of other shapes cannot be written, nor can numbers above the digit limit, nor lists and maps
that nest deeper than `nesting`, if there is such a limit. The first fault counts.
-/

namespace RecordStore.Json

def hex4 (n : Nat) : List Char :=
  [Hex.digit (n / 4096), Hex.digit (n / 256), Hex.digit (n / 16), Hex.digit n]

def unitEscape (n : Nat) : List Char := '\\' :: 'u' :: hex4 n

def escapedChar (c : Char) : List Char :=
  if c = '"' then ['\\', '"']
  else if c = '\\' then ['\\', '\\']
  else if c = '\n' then ['\\', 'n']
  else if c = '\r' then ['\\', 'r']
  else if c = '\t' then ['\\', 't']
  else if c.toNat = 8 then ['\\', 'b']
  else if c.toNat = 12 then ['\\', 'f']
  else if 0x20 ≤ c.toNat ∧ c.toNat < 0x7f then [c]
  else if c.toNat < 0x10000 then unitEscape c.toNat
  else
    let n := c.toNat - 0x10000
    unitEscape (0xd800 + n / 0x400) ++ unitEscape (0xdc00 + n % 0x400)

def escapedPoint : CodePoint → List Char
  | .char c => escapedChar c
  | .half s => unitEscape s.unit

def quoted (t : Text) : List Char := '"' :: (t.points.flatMap escapedPoint ++ ['"'])

def intChars (n : Int) : Except Misuse (List Char) :=
  if n.natAbs < Nat.pow 10 digitLimit then .ok (Literal.ofInt n)
  else .error (.malformed .writtenDigits)

def floatChars : Binary64 → List Char
  | .nan => "NaN".toList
  | .infinite negative => (if negative then ['-'] else []) ++ "Infinity".toList
  | x => x.chars

def keyText : Value → Except Misuse Text
  | .text s => .ok s
  | .null => .ok "null"
  | .bool true => .ok "true"
  | .bool false => .ok "false"
  | .int n => (intChars n).map fun cs => String.ofList cs
  | .float x => .ok (String.ofList (floatChars x))
  | key => .error (.unwritable key.shape)

/-- As many lists and maps inside each other as the calls that are open leave room for. -/
def depthLimit : Nat := 988

/-- The limit inside a list or a map, if one may be opened. -/
def inside : Option Nat → Except Misuse (Option Nat)
  | none => .ok none
  | some 0 => .error .tooDeep
  | some (limit + 1) => .ok (some limit)

mutual

def write (nesting : Option Nat) : Value → Except Misuse (List Char)
  | .null => .ok "null".toList
  | .bool true => .ok "true".toList
  | .bool false => .ok "false".toList
  | .int n => intChars n
  | .float x => .ok (floatChars x)
  | .text s => .ok (quoted s)
  | .bytes form data => .error (.unwritable (Value.bytes form data).shape)
  | .list items => do return '[' :: (← writeItems (← inside nesting) items) ++ [']']
  | .tuple items => do return '[' :: (← writeItems (← inside nesting) items) ++ [']']
  | .map entries => do return '\x7b' :: (← writeEntries (← inside nesting) entries) ++ ['\x7d']

def writeItems (nesting : Option Nat) : List Value → Except Misuse (List Char)
  | [] => .ok []
  | v :: rest => do
    let first ← write nesting v
    let others ← writeMoreItems nesting rest
    return first ++ others

def writeMoreItems (nesting : Option Nat) : List Value → Except Misuse (List Char)
  | [] => .ok []
  | v :: rest => do
    let first ← write nesting v
    let others ← writeMoreItems nesting rest
    return ',' :: ' ' :: (first ++ others)

def writeEntries (nesting : Option Nat) : List (Value × Value) → Except Misuse (List Char)
  | [] => .ok []
  | (k, v) :: rest => do
    let key ← keyText k
    let value ← write nesting v
    let others ← writeMoreEntries nesting rest
    return quoted key ++ ':' :: ' ' :: (value ++ others)

def writeMoreEntries (nesting : Option Nat) : List (Value × Value) → Except Misuse (List Char)
  | [] => .ok []
  | (k, v) :: rest => do
    let key ← keyText k
    let value ← write nesting v
    let others ← writeMoreEntries nesting rest
    return ',' :: ' ' :: (quoted key ++ ':' :: ' ' :: (value ++ others))

end

def text (nesting : Option Nat) (v : Value) : Except Misuse String := (write nesting v).map String.ofList

end RecordStore.Json
