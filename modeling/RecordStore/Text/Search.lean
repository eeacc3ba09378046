import RecordStore.Text.Basic

/-!
Looking for one text inside another.
-/

namespace RecordStore.Text

def startsWith : List Char → List Char → Bool
  | [], _ => true
  | _, [] => false
  | p :: ps, c :: cs => p == c && startsWith ps cs

def contains (pattern : List Char) : List Char → Bool
  | [] => pattern.isEmpty
  | c :: cs => startsWith pattern (c :: cs) || contains pattern cs

/-- Whether a string stands somewhere in a text; it holds no replacement character. -/
def occursIn (pattern : String) (text : Text) : Bool := contains pattern.toList text.chars

end RecordStore.Text
