import RecordStore.Error.AdapterError

/-!
Names of tables and columns. Only identifiers ever become part of a statement's text, and every one is
checked before it can exist: a letter or underscore first, then letters, digits and underscores of
ASCII, at most 63 characters in all. One line end after the last character is tolerated.
-/

namespace RecordStore

/-- The store cuts longer names off. -/
def maxIdentifierLength : Nat := 63

def isIdentifierStart (c : Char) : Bool := c.isAlpha || c == '_'

def isIdentifierChar (c : Char) : Bool := c.isAlphanum || c == '_'

def withoutLineEnd (cs : List Char) : List Char :=
  if cs.getLast? = some '\n' then cs.dropLast else cs

def isIdentifierText (cs : List Char) : Bool :=
  match withoutLineEnd cs with
  | [] => false
  | c :: rest => isIdentifierStart c && rest.all isIdentifierChar

def isIdentifier (s : String) : Bool :=
  s.length ≤ maxIdentifierLength && isIdentifierText s.toList

/-- A name that may stand in a statement's text. -/
structure Identifier where
  text : String
  valid : isIdentifier text = true
  deriving DecidableEq

namespace Identifier

def ofText? (s : String) : Option Identifier :=
  if h : isIdentifier s = true then some ⟨s, h⟩ else none

def ofValue (name : Value) : Except AdapterError Identifier :=
  match name with
  | .text (.whole s) => match ofText? s with
    | some identifier => .ok identifier
    | none => .error (.invalidIdentifier name)
  | _ => .error (.invalidIdentifier name)

def quoted (name : Identifier) : String := "\"" ++ name.text ++ "\""

end Identifier
end RecordStore
