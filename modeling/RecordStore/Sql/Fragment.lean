import RecordStore.Schema.Identifier

/-!
Statement text in pieces. A slot stands for a bound value and names it by its number; everything else
is text. Only identifiers and fixed words ever become text.
-/

namespace RecordStore.Sql

/-- The place of a bound value: its number, counted from one, and the type it is cast to. -/
structure Slot where
  number : Nat
  cast : String := ""
  deriving DecidableEq, Inhabited

inductive Piece where
  | text (s : String)
  | slot (number : Nat)
  deriving DecidableEq, Inhabited

abbrev Fragment := List Piece

namespace Slot

def fragment (slot : Slot) : Fragment :=
  if slot.cast.isEmpty then [.slot slot.number] else [.slot slot.number, .text slot.cast]

end Slot

namespace Piece

def sql : Piece → String
  | text s => s
  | slot number => "$" ++ toString number

end Piece

namespace Fragment

def sql (fragment : Fragment) : String := String.join (fragment.map Piece.sql)

/-- The numbers of the slots, from left to right. -/
def slots (fragment : Fragment) : List Nat :=
  fragment.filterMap fun
    | .slot number => some number
    | .text _ => none

def join (separator : String) : List Fragment → Fragment
  | [] => []
  | [fragment] => fragment
  | fragment :: rest => fragment ++ .text separator :: join separator rest

def ofText (s : String) : Fragment := [.text s]

def ofIdentifier (name : Identifier) : Fragment := [.text name.quoted]

def ofSlots (slots : List Slot) : Fragment := join ", " (slots.map Slot.fragment)

def ofIdentifiers (names : List Identifier) : Fragment := join ", " (names.map ofIdentifier)

end Fragment
end RecordStore.Sql
