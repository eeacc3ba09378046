import RecordStore.Script.Yaml.Quoted

/-!
YAML texts cut into tokens. Indentation becomes tokens of its own that open and close blocks. Whether a
scalar is a key shows only at the colon behind it, so the place of every possible key is remembered,
one for each depth of brackets, until the line ends.
-/

namespace RecordStore.Script.Yaml
open Cursor

inductive Token where
  | directive (name : List Char) (value : List Char)
  | documentStart
  | documentEnd
  | blockSequenceStart
  | blockMappingStart
  | blockEnd
  | flowSequenceStart
  | flowSequenceEnd
  | flowMappingStart
  | flowMappingEnd
  | entry
  | flowEntry
  | key
  | value
  | alias (name : List Char)
  | anchor (name : List Char)
  | tag (handle : Option (List Char)) (suffix : List Char)
  /-- A scalar; only a plain one is looked at for what it means. -/
  | scalar (text : List Char) (plain : Bool)
  deriving DecidableEq, Inhabited

/-- A place where a key may have begun. A required one has to turn out to be a key. -/
structure KeyPlace where
  token : Nat
  required : Bool
  index : Nat
  line : Nat
  column : Nat

structure Scanner where
  cursor : Cursor
  tokens : Array Token := #[]
  flowLevel : Nat := 0
  /-- The column of the innermost block, counted from one; zero is no block at all. -/
  indent : Nat := 0
  outer : List Nat := []
  keyAllowed : Bool := true
  keyPlaces : List (Nat × KeyPlace) := []
  finished : Bool := false

namespace Scanner

def push (s : Scanner) (t : Token) : Scanner := { s with tokens := s.tokens.push t }

def column (s : Scanner) : Nat := s.cursor.column + 1

/-- Over blanks, comments and line ends to the next token. A new line outside brackets may start a key. -/
def toNextToken : Nat → Scanner → Scanner
  | 0, s => s
  | fuel + 1, s =>
    let cursor := s.cursor.skipComment
    if isBreak cursor.peek then
      toNextToken fuel
        { s with cursor := cursor.lineBreak.2, keyAllowed := s.keyAllowed || s.flowLevel == 0 }
    else { s with cursor }

def dropStaleKeys (s : Scanner) : Except Fault Scanner :=
  let isStale (place : KeyPlace) : Bool :=
    place.line != s.cursor.line || s.cursor.index - place.index > 1024
  if s.keyPlaces.any fun (_, place) => isStale place && place.required then .error .malformed
  else .ok { s with keyPlaces := s.keyPlaces.filter fun (_, place) => !isStale place }

def closeBlocks (column : Nat) (s : Scanner) : Scanner :=
  if s.flowLevel ≠ 0 then s else go s.outer s
where
  go : List Nat → Scanner → Scanner
    | [], s => s
    | i :: rest, s =>
      if s.indent > column then go rest { s.push .blockEnd with indent := i, outer := rest } else s

def openBlock (column : Nat) (s : Scanner) : Bool × Scanner :=
  if s.indent < column then (true, { s with indent := column, outer := s.indent :: s.outer }) else (false, s)

def forgetKey (s : Scanner) : Except Fault Scanner :=
  match s.keyPlaces.lookup s.flowLevel with
  | some place =>
    if place.required then .error .malformed
    else .ok { s with keyPlaces := s.keyPlaces.filter (·.1 != s.flowLevel) }
  | none => .ok s

def saveKey (s : Scanner) : Except Fault Scanner :=
  if s.keyAllowed then do
    let required := s.flowLevel == 0 && s.indent == s.column
    let s ← s.forgetKey
    let place : KeyPlace := ⟨s.tokens.size, required, s.cursor.index, s.cursor.line, s.cursor.column⟩
    return { s with keyPlaces := (s.flowLevel, place) :: s.keyPlaces }
  else .ok s

def moveBy (n : Nat) (s : Scanner) : Scanner := { s with cursor := s.cursor.forwardBy n }

def atMargin (s : Scanner) : Except Fault Scanner := do
  let s ← (s.closeBlocks 0).forgetKey
  return { s with keyAllowed := false }

def streamEnd (s : Scanner) : Except Fault Scanner := do
  let s ← s.atMargin
  return { s with keyPlaces := [], finished := true }

def isNameChar (c : Char) : Bool := c.isAlphanum || c == '-' || c == '_'

def directive (s : Scanner) : Except Fault Scanner := do
  let s ← s.atMargin
  let (name, next) := s.cursor.forward.takeWhile isNameChar
  if name = [] ∨ !(next.peek == ' ' || isBreakOrEnd next.peek) then throw .malformed
  let next := next.skipWhile (· == ' ')
  let (value, next) := next.takeWhile fun c => !isBreakOrEnd c && c != '#'
  let next := next.skipComment
  return { s.push (.directive name value) with cursor := next.lineBreak.2 }

def separator (t : Token) (s : Scanner) : Except Fault Scanner := do
  let s ← s.atMargin
  return (s.push t).moveBy 3

def flowStart (t : Token) (s : Scanner) : Except Fault Scanner := do
  let s ← s.saveKey
  return ({ s with flowLevel := s.flowLevel + 1, keyAllowed := true }.push t).moveBy 1

def flowEnd (t : Token) (s : Scanner) : Except Fault Scanner := do
  let s ← s.forgetKey
  match s.flowLevel with
  | 0 => throw .malformed
  | level + 1 => return ({ s with flowLevel := level, keyAllowed := false }.push t).moveBy 1

def flowEntry (s : Scanner) : Except Fault Scanner := do
  let s ← { s with keyAllowed := true }.forgetKey
  return (s.push .flowEntry).moveBy 1

/-- Opens a block for an entry or a key, if it is deeper. Such may only stand where a key may. -/
def openedFor (t : Token) (s : Scanner) : Except Fault Scanner :=
  if s.flowLevel ≠ 0 then .ok s
  else if !s.keyAllowed then .error .malformed
  else
    let (opened, s) := s.openBlock s.column
    .ok (if opened then s.push t else s)

def blockEntry (s : Scanner) : Except Fault Scanner := do
  let s ← s.openedFor .blockSequenceStart
  let s ← { s with keyAllowed := true }.forgetKey
  return (s.push .entry).moveBy 1

def keyMark (s : Scanner) : Except Fault Scanner := do
  let s ← s.openedFor .blockMappingStart
  let s ← { s with keyAllowed := s.flowLevel == 0 }.forgetKey
  return (s.push .key).moveBy 1

/-- Puts the mark of a key in front of the token that turned out to be one. -/
def insertKey (place : KeyPlace) (s : Scanner) : Scanner :=
  let (opened, s) :=
    if s.flowLevel = 0 then s.openBlock (place.column + 1) else (false, s)
  let marks := if opened then [Token.blockMappingStart, .key] else [.key]
  let list := s.tokens.toList
  { s with tokens := (list.take place.token ++ marks ++ list.drop place.token).toArray }

def valueMark (s : Scanner) : Except Fault Scanner := do
  match s.keyPlaces.lookup s.flowLevel with
  | some place =>
    let s := { s with keyPlaces := s.keyPlaces.filter (·.1 != s.flowLevel) }
    let s := s.insertKey place
    return ({ s with keyAllowed := false }.push .value).moveBy 1
  | none =>
    let s ← s.openedFor .blockMappingStart
    let s ← { s with keyAllowed := s.flowLevel == 0 }.forgetKey
    return (s.push .value).moveBy 1

def isAfterName (c : Char) : Bool :=
  isBlankOrEnd c || ['?', ':', ',', ']', '\x7d', '%', '@', Char.ofNat 96].contains c

def named (t : List Char → Token) (s : Scanner) : Except Fault Scanner := do
  let s ← s.saveKey
  let (name, next) := s.cursor.forward.takeWhile isNameChar
  if name = [] ∨ !isAfterName next.peek then throw .malformed
  return { s.push (t name) with cursor := next, keyAllowed := false }

def isUriChar (c : Char) : Bool :=
  c.isAlphanum || "-;/?:@&=+$,_.!~*'()[]%".toList.contains c

/-- An explicit tag: verbatim between angle brackets, a lone mark, or a handle and a suffix. -/
def tag (s : Scanner) : Except Fault Scanner := do
  let s ← s.saveKey
  let s := { s with keyAllowed := false }
  let next := s.cursor.forward
  let (t, next) ←
    if next.peek = '<' then do
      let (suffix, next) := next.forward.takeWhile isUriChar
      if suffix = [] ∨ next.peek ≠ '>' then throw .malformed
      else pure (Token.tag none suffix, next.forward)
    else if isBlankOrEnd next.peek then pure (Token.tag none ['!'], next)
    else
      let (name, behind) := next.takeWhile isNameChar
      let (handle, next) :=
        if behind.peek = '!' then ('!' :: name ++ ['!'], behind.forward) else (['!'], next)
      let (suffix, next) := next.takeWhile isUriChar
      if suffix = [] then throw .malformed else pure (Token.tag (some handle) suffix, next)
  if next.peek = ' ' ∨ isBreakOrEnd next.peek then return { s.push t with cursor := next }
  else throw .malformed

def blockScalar (s : Scanner) : Except Fault Scanner := do
  let s ← { s with keyAllowed := true }.forgetKey
  let (text, next) ← block s.indent s.cursor
  return { s.push (.scalar text false) with cursor := next }

def quotedScalar (s : Scanner) : Except Fault Scanner := do
  let s ← s.saveKey
  let (text, next) ← quoted s.cursor
  return { s.push (.scalar text false) with cursor := next, keyAllowed := false }

def isFlowMark (c : Char) : Bool := [',', '[', ']', '\x7b', '\x7d'].contains c

/-- The characters of a plain scalar up to a blank or a mark that ends it. -/
def plainWord (inFlow : Bool) : List Char → List Char
  | [] => []
  | c :: rest =>
    let next := rest.headD endChar
    if isBlankOrEnd c || (c == ':' && (isBlankOrEnd next || (inFlow && isFlowMark next))) ||
        (inFlow && (c == '?' || isFlowMark c)) then []
    else c :: plainWord inFlow rest

/-- The line breaks of blank lines inside a plain scalar; a document separator ends it. -/
def plainBreaks : Nat → Cursor → List Char × Cursor × Bool
  | 0, cursor => ([], cursor, false)
  | fuel + 1, cursor =>
    if cursor.peek = ' ' then plainBreaks fuel cursor.forward
    else if isBreak cursor.peek then
      let (first, next) := cursor.lineBreak
      if next.atSeparator then (first, next, true)
      else
        let (others, next, ended) := plainBreaks fuel next
        (first ++ others, next, ended)
    else ([], cursor, false)

/-- The blanks behind a word of a plain scalar; nothing if the scalar ends there. The second part says
whether a line ended. -/
def plainBlanks (cursor : Cursor) : List Char × Bool × Cursor :=
  let (blanks, next) := cursor.takeWhile (· == ' ')
  if isBreak next.peek then
    let (first, next) := next.lineBreak
    if next.atSeparator then ([], true, next)
    else
      let (others, next, ended) := plainBreaks next.rest.length next
      (if ended then [] else foldedBreaks first others, true, next)
  else (blanks, false, next)

/-- The words of a plain scalar. `indent` is the column that its lines must not fall short of. -/
def plainWords (inFlow : Bool) (indent : Nat) : Nat → List Char → Bool → Cursor → List Char × Bool × Cursor
  | 0, _, newLine, cursor => ([], newLine, cursor)
  | fuel + 1, blanks, newLine, cursor =>
    let word := if cursor.peek = '#' then [] else plainWord inFlow cursor.rest
    if word = [] then ([], newLine, cursor)
    else
      let (following, ended, next) := plainBlanks (cursor.forwardBy word.length)
      if following = [] ∨ next.peek = '#' ∨ (!inFlow ∧ next.column < indent) then
        (blanks ++ word, ended, next)
      else
        let (others, ended, next) := plainWords inFlow indent fuel following ended next
        (blanks ++ word ++ others, ended, next)

def plainScalar (s : Scanner) : Except Fault Scanner := do
  let s ← s.saveKey
  let (text, ended, next) :=
    plainWords (s.flowLevel != 0) s.indent (s.cursor.rest.length + 1) [] false s.cursor
  return { s.push (.scalar text true) with cursor := next, keyAllowed := ended }

def isIndicator (c : Char) : Bool :=
  ("-?:,[]#&*!|>'\"%@".toList ++ ['\x7b', '\x7d', Char.ofNat 96]).contains c

def startsPlain (s : Scanner) : Bool :=
  let c := s.cursor.peek
  (!isBlankOrEnd c && !isIndicator c) ||
    (!isBlankOrEnd (s.cursor.peek 1) && (c == '-' || (s.flowLevel == 0 && (c == '?' || c == ':'))))

def next (s : Scanner) : Except Fault Scanner := do
  let s ← (toNextToken (s.cursor.rest.length + 1) s).dropStaleKeys
  let s := s.closeBlocks s.column
  let c := s.cursor.peek
  let inFlow := s.flowLevel != 0
  let standsAlone := isBlankOrEnd (s.cursor.peek 1)
  let atLineStart := s.cursor.column == 0
  if c = endChar then s.streamEnd
  else if c = '%' && atLineStart then s.directive
  else if atLineStart && s.cursor.atSeparator && c == '-' then s.separator .documentStart
  else if atLineStart && s.cursor.atSeparator then s.separator .documentEnd
  else if c = '[' then s.flowStart .flowSequenceStart
  else if c = '\x7b' then s.flowStart .flowMappingStart
  else if c = ']' then s.flowEnd .flowSequenceEnd
  else if c = '\x7d' then s.flowEnd .flowMappingEnd
  else if c = ',' then s.flowEntry
  else if c = '-' && standsAlone then s.blockEntry
  else if c = '?' && (inFlow || standsAlone) then s.keyMark
  else if c = ':' && (inFlow || standsAlone) then s.valueMark
  else if c = '*' then s.named .alias
  else if c = '&' then s.named .anchor
  else if c = '!' then s.tag
  else if (c = '|' || c = '>') && !inFlow then s.blockScalar
  else if c = '\'' || c = '"' then s.quotedScalar
  else if s.startsPlain then s.plainScalar
  else .error .malformed

def run : Nat → Scanner → List Token × Option Fault
  | 0, s => (s.tokens.toList, some .malformed)
  | fuel + 1, s =>
    if s.finished then (s.tokens.toList, none)
    else match next s with
      | .ok s => run fuel s
      | .error fault => (s.tokens.toList, some fault)

end Scanner

/-- The tokens of a text up to its first fault. Every token but the last ends takes at least one
character, so there are not more steps than characters and an end. -/
def tokens (cs : List Char) : List Token × Option Fault :=
  let start : Cursor := { rest := cs }
  let start := if start.peek.toNat = 0xfeff then start.forward else start
  Scanner.run (cs.length + 2) { cursor := start }

end RecordStore.Script.Yaml
