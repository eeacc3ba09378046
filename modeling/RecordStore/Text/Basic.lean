/-!
Texts. A text is a row of code points: characters, and halves of surrogate pairs that stand alone. What
has no such half is a string; what has one is kept point by point.
-/

namespace RecordStore

structure Surrogate where
  unit : Nat
  isHalf : 0xd800 ≤ unit ∧ unit < 0xe000
  deriving DecidableEq

namespace Surrogate

def isHigh (half : Surrogate) : Bool := half.unit < 0xdc00

/-- The character that two halves make. -/
def pair (high low : Surrogate) : Char :=
  Char.ofNat (0x10000 + (high.unit - 0xd800) * 0x400 + (low.unit - 0xdc00))

end Surrogate

inductive CodePoint where
  | char (c : Char)
  | half (s : Surrogate)
  deriving DecidableEq

namespace CodePoint

def isHalf : CodePoint → Bool
  | char _ => false
  | half _ => true

def char? : CodePoint → Option Char
  | char c => some c
  | half _ => none

/-- The character that a high half and a low half behind it make. -/
def pair? : CodePoint → CodePoint → Option Char
  | half high, half low => if high.isHigh && !low.isHigh then some (high.pair low) else none
  | _, _ => none

/-- Adds a code point to those before it, which are in reverse; a half is joined with its other half. -/
def push (before : List CodePoint) (p : CodePoint) : List CodePoint :=
  match before with
  | [] => [p]
  | q :: rest =>
    match q.pair? p with
    | some c => char c :: rest
    | none => p :: q :: rest

def ofNat (n : Nat) : CodePoint :=
  if h : 0xd800 ≤ n ∧ n < 0xe000 then half ⟨n, h⟩ else char (Char.ofNat n)

def toChar : CodePoint → Char
  | char c => c
  | half _ => '\ufffd'

end CodePoint

/-- Code points with a half among them. -/
structure TornText where
  points : List CodePoint
  isTorn : points.any CodePoint.isHalf = true
  deriving DecidableEq

inductive Text where
  | whole (s : String)
  | torn (t : TornText)
  deriving DecidableEq

namespace Text

instance : Coe String Text := ⟨whole⟩

instance : Inhabited Text := ⟨whole ""⟩

def points : Text → List CodePoint
  | whole s => s.toList.map .char
  | torn t => t.points

def ofPoints (points : List CodePoint) : Text :=
  if h : points.any CodePoint.isHalf = true then torn ⟨points, h⟩
  else whole (String.ofList (points.filterMap CodePoint.char?))

def string? : Text → Option String
  | whole s => some s
  | torn _ => none

def isEmpty : Text → Bool
  | whole s => s.isEmpty
  | torn _ => false

/-- The characters, for a search that no half and no replacement character has a part in. -/
def chars : Text → List Char
  | whole s => s.toList
  | torn t => t.points.map CodePoint.toChar

def letters : Text → List Text
  | whole s => s.toList.map fun c => whole c.toString
  | torn t => t.points.map fun p => ofPoints [p]

def append : Text → Text → Text
  | whole s, whole t => whole (s ++ t)
  | s, t => ofPoints (s.points ++ t.points)

instance : Append Text := ⟨append⟩

def intercalate (separator : Text) : List Text → Text
  | [] => ""
  | [t] => t
  | t :: rest => t ++ separator ++ intercalate separator rest

end Text
end RecordStore
