/-!
A place in a YAML text: what is still to read, and how many characters, lines and columns were passed.
Past the end every character is the null character, which no text contains.
-/

namespace RecordStore.Script.Yaml

structure Cursor where
  rest : List Char
  index : Nat := 0
  line : Nat := 0
  column : Nat := 0

def endChar : Char := Char.ofNat 0

def isBreak (c : Char) : Bool :=
  c == '\n' || c == '\r' || c.toNat == 0x85 || c.toNat == 0x2028 || c.toNat == 0x2029

def isBreakOrEnd (c : Char) : Bool := isBreak c || c == endChar

def isSpaceOrTab (c : Char) : Bool := c == ' ' || c == '\t'

def isBlankOrEnd (c : Char) : Bool := isSpaceOrTab c || isBreakOrEnd c

namespace Cursor

def peek (cursor : Cursor) (ahead : Nat := 0) : Char := cursor.rest.getD ahead endChar

def forward (cursor : Cursor) : Cursor :=
  match cursor.rest with
  | [] => cursor
  | c :: rest =>
    if isBreak c then { rest, index := cursor.index + 1, line := cursor.line + 1, column := 0 }
    else
      { rest, index := cursor.index + 1, line := cursor.line,
        column := if c.toNat = 0xfeff then cursor.column else cursor.column + 1 }

def forwardBy : Nat → Cursor → Cursor
  | 0, cursor => cursor
  | n + 1, cursor => forwardBy n cursor.forward

def takeWhile (cursor : Cursor) (p : Char → Bool) : List Char × Cursor :=
  let taken := cursor.rest.takeWhile p
  (taken, cursor.forwardBy taken.length)

def skipWhile (cursor : Cursor) (p : Char → Bool) : Cursor := (cursor.takeWhile p).2

/-- Takes one line break, if there is one. Line separators of their own kind stay what they are. -/
def lineBreak (cursor : Cursor) : List Char × Cursor :=
  let c := cursor.peek
  if c = '\n' ∨ c = '\r' ∨ c.toNat = 0x85 then (['\n'], cursor.forward)
  else if isBreak c then ([c], cursor.forward)
  else ([], cursor)

def startsWith (cursor : Cursor) (mark : List Char) : Bool := cursor.rest.take mark.length == mark

def atSeparator (cursor : Cursor) : Bool :=
  (cursor.startsWith ['-', '-', '-'] || cursor.startsWith ['.', '.', '.']) && isBlankOrEnd (cursor.peek 3)

def skipComment (cursor : Cursor) : Cursor :=
  let cursor := cursor.skipWhile (· == ' ')
  if cursor.peek = '#' then cursor.skipWhile (!isBreakOrEnd ·) else cursor

end Cursor
end RecordStore.Script.Yaml
