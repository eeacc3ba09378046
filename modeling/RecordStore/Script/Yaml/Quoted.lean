import RecordStore.Text.Hex
import RecordStore.Script.Yaml.Cursor
import RecordStore.Script.Yaml.Fault

/-!
Scalars with a style of their own: in quotes, and as blocks of lines. Each reader starts at the first
character of the scalar and gives its text and the place behind it; a scalar that does not end, or has
an escape that is none, is refused.
-/

namespace RecordStore.Script.Yaml
open Cursor

def foldedBreaks (first : List Char) (others : List Char) : List Char :=
  if first ≠ ['\n'] then first ++ others
  else if others = [] then [' ']
  else others

/-- The line breaks of blank lines inside a quoted scalar. A document separator may not stand there. -/
def quotedBreaks : Nat → Cursor → Except Fault (List Char × Cursor)
  | 0, cursor => .ok ([], cursor)
  | fuel + 1, cursor =>
    if cursor.atSeparator then .error .malformed
    else
      let next := cursor.skipWhile isSpaceOrTab
      if isBreak next.peek then do
        let (first, next) := next.lineBreak
        let (others, next) ← quotedBreaks fuel next
        return (first ++ others, next)
      else .ok ([], next)

def quotedBlanks (cursor : Cursor) : Except Fault (List Char × Cursor) :=
  let (blanks, next) := cursor.takeWhile isSpaceOrTab
  if next.peek = endChar then .error .malformed
  else if isBreak next.peek then do
    let (first, next) := next.lineBreak
    let (others, next) ← quotedBreaks next.rest.length next
    return (foldedBreaks first others, next)
  else .ok (blanks, next)

def escaped? (c : Char) : Option Char :=
  [('0', 0), ('a', 7), ('b', 8), ('t', 9), ('\t', 9), ('n', 10), ('v', 11), ('f', 12), ('r', 13),
    ('e', 27), (' ', 32), ('"', 34), ('\\', 92), ('/', 47), ('N', 0x85), ('_', 0xa0), ('L', 0x2028),
    ('P', 0x2029)].lookup c |>.map Char.ofNat

def escapeWidth? (c : Char) : Option Nat := [('x', 2), ('u', 4), ('U', 8)].lookup c

def hexValue? (digits : List Char) : Option Nat :=
  digits.foldlM (fun n c => (Hex.digit? c).map (16 * n + ·)) 0

/-- The character of a number. Halves of surrogate pairs are none. -/
def numberedChar (n : Nat) : Except Fault Char :=
  if n.isValidChar then .ok (Char.ofNat n)
  else if n < 0x110000 then .error .malformed
  else if n < 0x80000000 then .error (.foreign "ValueError" "chr() arg not in range(0x110000)")
  else .error (.foreign "OverflowError" "the number is too large for a character")

def escape (cursor : Cursor) : Except Fault (List Char × Cursor) :=
  let c := cursor.peek
  match escaped? c, escapeWidth? c with
  | some d, _ => .ok ([d], cursor.forward)
  | none, some width =>
    let digits := cursor.forward.rest.take width
    match hexValue? digits with
    | some n => do
      if digits.length < width then throw .malformed
      return ([← numberedChar n], cursor.forward.forwardBy width)
    | none => .error .malformed
  | none, none =>
    if isBreak c then
      let next := cursor.lineBreak.2
      quotedBreaks next.rest.length next
    else .error .malformed

/-- A character that stands for itself whatever the quotes. -/
def isOrdinary (c : Char) : Bool := c != '\'' && c != '"' && c != '\\' && !isBlankOrEnd c

def quotedRest (mark : Char) : Nat → Cursor → Except Fault (List Char × Cursor)
  | 0, _ => .error .malformed
  | fuel + 1, cursor => do
    let c := cursor.peek
    let isDouble := mark == '"'
    if c = '\'' ∧ mark = '\'' ∧ cursor.peek 1 = '\'' then
      let (others, next) ← quotedRest mark fuel (cursor.forwardBy 2)
      return ('\'' :: others, next)
    else if c = mark then return ([], cursor.forward)
    else if c = '\\' ∧ isDouble then
      let (first, next) ← escape cursor.forward
      let (others, next) ← quotedRest mark fuel next
      return (first ++ others, next)
    else if isBlankOrEnd c then
      let (first, next) ← quotedBlanks cursor
      let (others, next) ← quotedRest mark fuel next
      return (first ++ others, next)
    else
      let (others, next) ← quotedRest mark fuel cursor.forward
      return (c :: others, next)

def quoted (cursor : Cursor) : Except Fault (List Char × Cursor) :=
  quotedRest cursor.peek (cursor.rest.length + 1) cursor.forward

/-! ### Blocks of lines -/

inductive Chomping where
  | strip
  | clip
  | keep
  deriving DecidableEq

def chomping? (c : Char) : Option Chomping :=
  if c = '+' then some .keep else if c = '-' then some .strip else none

def increment? (c : Char) : Option Nat :=
  if '1' ≤ c ∧ c ≤ '9' then some (c.toNat - '0'.toNat) else none

def blockMarks (cursor : Cursor) : Chomping × Option Nat × Cursor :=
  match chomping? cursor.peek with
  | some chomping =>
    match increment? (cursor.peek 1) with
    | some n => (chomping, some n, cursor.forwardBy 2)
    | none => (chomping, none, cursor.forward)
  | none =>
    match increment? cursor.peek with
    | some n =>
      match chomping? (cursor.peek 1) with
      | some chomping => (chomping, some n, cursor.forwardBy 2)
      | none => (.clip, some n, cursor.forward)
    | none => (.clip, none, cursor)

/-- Blank lines before the first line of a block, and the deepest column met there. -/
def leadingLines : Nat → Nat → Cursor → List Char × Nat × Cursor
  | 0, deepest, cursor => ([], deepest, cursor)
  | fuel + 1, deepest, cursor =>
    if cursor.peek = ' ' then
      let next := cursor.forward
      leadingLines fuel (max deepest next.column) next
    else if isBreak cursor.peek then
      let (first, next) := cursor.lineBreak
      let (others, deepest, next) := leadingLines fuel deepest next
      (first ++ others, deepest, next)
    else ([], deepest, cursor)

def indentTo (column : Nat) (cursor : Cursor) : Cursor :=
  let spaces := (cursor.rest.takeWhile (· == ' ')).length
  cursor.forwardBy (min spaces (column - cursor.column))

def blankLines (column : Nat) : Nat → Cursor → List Char × Cursor
  | 0, cursor => ([], indentTo column cursor)
  | fuel + 1, cursor =>
    let next := indentTo column cursor
    if isBreak next.peek then
      let (first, next) := next.lineBreak
      let (others, next) := blankLines column fuel next
      (first ++ others, next)
    else ([], next)

/-- The lines of a block. `breaks` are the line breaks of blank lines before the next line. -/
def blockLines (folded : Bool) (chomping : Chomping) (column : Nat) :
    Nat → List Char → List Char → Cursor → List Char × Cursor
  | 0, _, _, cursor => ([], cursor)
  | fuel + 1, lineEnd, breaks, cursor =>
    if cursor.column = column ∧ cursor.peek ≠ endChar then
      let startsPlain := !isSpaceOrTab cursor.peek
      let (line, next) := cursor.takeWhile (!isBreakOrEnd ·)
      let (lineEnd, next) := next.lineBreak
      let (following, next) := blankLines column next.rest.length next
      if next.column = column ∧ next.peek ≠ endChar then
        let joint :=
          if folded ∧ lineEnd = ['\n'] ∧ startsPlain ∧ !isSpaceOrTab next.peek then
            if following = [] then [' '] else []
          else lineEnd
        let (others, last) := blockLines folded chomping column fuel lineEnd following next
        (breaks ++ line ++ joint ++ others, last)
      else
        (breaks ++ line ++ (if chomping = .strip then [] else lineEnd) ++
          (if chomping = .keep then following else []), next)
    else ((if chomping = .strip then [] else lineEnd) ++ (if chomping = .keep then breaks else []), cursor)

/-- A scalar of whole lines. `indent` is the number of columns that its lines must at least have. -/
def block (indent : Nat) (cursor : Cursor) : Except Fault (List Char × Cursor) := do
  let folded := cursor.peek == '>'
  let (chomping, increment, next) := blockMarks cursor.forward
  if !(next.peek == ' ' || isBreakOrEnd next.peek) then throw .malformed
  let next := next.skipComment
  if !isBreakOrEnd next.peek then throw .malformed
  let next := next.lineBreak.2
  let least := max indent 1
  match increment with
  | some n =>
    let column := least + n - 1
    let (breaks, next) := blankLines column next.rest.length next
    return blockLines folded chomping column (next.rest.length + 1) [] breaks next
  | none =>
    let (breaks, deepest, next) := leadingLines next.rest.length 0 next
    return blockLines folded chomping (max least deepest) (next.rest.length + 1) [] breaks next

end RecordStore.Script.Yaml
