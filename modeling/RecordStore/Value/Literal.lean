import RecordStore.Number.Numeral
import RecordStore.Number.Shortest
import RecordStore.Text.Hex
import RecordStore.Text.Printable
import RecordStore.Value.Basic

/-!
The text of a value. `shown` leaves a text as it is; `literal` quotes it, and everything inside a list,
a tuple or a map is shown as a literal. A whole number above the digit limit cannot be written.
-/

namespace RecordStore

def quoteMark (cs : List Char) : Char :=
  if cs.contains '\'' && !cs.contains '"' then '"' else '\''

namespace Literal

def hexDigits (width n : Nat) : List Char :=
  (List.range width).reverse.map fun i => Hex.digit (n / Nat.pow 16 i)

def numbered (n : Nat) : List Char :=
  if n < 0x100 then '\\' :: 'x' :: hexDigits 2 n
  else if n < 0x10000 then '\\' :: 'u' :: hexDigits 4 n
  else '\\' :: 'U' :: hexDigits 8 n

def escapedChar (mark c : Char) : List Char :=
  if c = mark ∨ c = '\\' then ['\\', c]
  else if c = '\n' then ['\\', 'n']
  else if c = '\r' then ['\\', 'r']
  else if c = '\t' then ['\\', 't']
  else if Text.isPrintable c then [c]
  else numbered c.toNat

def escapedPoint (mark : Char) : CodePoint → List Char
  | .char c => escapedChar mark c
  | .half s => numbered s.unit

def quoted (t : Text) : List Char :=
  let mark := quoteMark t.chars
  mark :: (t.points.flatMap (escapedPoint mark) ++ [mark])

def escapedByte (quote : Char) (b : UInt8) : List Char :=
  let c := Char.ofNat b.toNat
  if b.toNat < 0x7f then escapedChar quote c else '\\' :: 'x' :: hexDigits 2 b.toNat

/-- Bytes between two marks; `quote` is the one that is escaped among them. -/
def markedBytes (mark quote : Char) (data : List UInt8) : List Char :=
  'b' :: mark :: (data.flatMap (escapedByte quote) ++ [mark])

def ofBytes (form : BytesForm) (data : List UInt8) : List Char :=
  let mark := quoteMark (data.map fun b => Char.ofNat b.toNat)
  match form with
  | .fixed => markedBytes mark mark data
  | .growable => "bytearray(".toList ++ markedBytes mark '\'' data ++ [')']
  | .view => "<memory>".toList

def ofInt (n : Int) : List Char :=
  if n < 0 then '-' :: Nat.toDigits 10 n.natAbs else Nat.toDigits 10 n.natAbs

end Literal

namespace Value
open Literal

mutual

def literalChars : Value → List Char
  | null => "None".toList
  | bool true => "True".toList
  | bool false => "False".toList
  | int n => ofInt n
  | float x => x.chars
  | text s => quoted s
  | bytes form data => ofBytes form data
  | list items => '[' :: (itemChars items ++ [']'])
  | tuple [item] => '(' :: (literalChars item ++ [',', ')'])
  | tuple items => '(' :: (itemChars items ++ [')'])
  | map entries => '\x7b' :: (entryChars entries ++ ['\x7d'])

def itemChars : List Value → List Char
  | [] => []
  | v :: rest => literalChars v ++ moreItemChars rest

def moreItemChars : List Value → List Char
  | [] => []
  | v :: rest => ',' :: ' ' :: (literalChars v ++ moreItemChars rest)

def entryChars : List (Value × Value) → List Char
  | [] => []
  | (k, v) :: rest => literalChars k ++ ':' :: ' ' :: (literalChars v ++ moreEntryChars rest)

def moreEntryChars : List (Value × Value) → List Char
  | [] => []
  | (k, v) :: rest => ',' :: ' ' :: (literalChars k ++ ':' :: ' ' :: (literalChars v ++ moreEntryChars rest))

end

mutual

/-- Whether no whole number in the value has more digits than can be written. -/
def isWritable : Value → Bool
  | int n => (Nat.toDigits 10 n.natAbs).length ≤ digitLimit
  | list items => allWritable items
  | tuple items => allWritable items
  | map entries => entriesWritable entries
  | _ => true

def allWritable : List Value → Bool
  | [] => true
  | v :: rest => isWritable v && allWritable rest

def entriesWritable : List (Value × Value) → Bool
  | [] => true
  | (k, v) :: rest => isWritable k && isWritable v && entriesWritable rest

end

def literal (v : Value) : String := String.ofList v.literalChars

def shown : Value → Text
  | text s => s
  | v => v.literal

end Value
end RecordStore
