import RecordStore.Script.Yaml.Token

/-!
The tree of nodes that the tokens of a YAML text stand for. A text holds at most one document. An alias
stands for the node that its anchor marks, which has to come before it and be complete.
-/

namespace RecordStore.Script.Yaml

/-- A node with its tag, if the text gives one. -/
inductive Node where
  | scalar (tag : Option (List Char)) (text : List Char) (plain : Bool)
  | sequence (tag : Option (List Char)) (items : List Node)
  | mapping (tag : Option (List Char)) (entries : List (Node × Node))
  deriving Inhabited

namespace Node

def empty : Node := .scalar none [] true

end Node

/-- The tokens still to read, the nodes with anchors, and what the handles of tags stand for. -/
structure ReadState where
  tokens : List Token
  fault : Option Fault := none
  nesting : Option Nat := none
  anchors : List (List Char × Option Node) := []
  handles : List (List Char × List Char) := []

abbrev Reading := StateT ReadState (Except Fault)

namespace Reading

def standardTag : List Char := "tag:yaml.org,2002:".toList

def refuse {α : Type} : Reading α := throw .malformed

def peek : Reading (Option Token) := do
  let state ← get
  match state.tokens, state.fault with
  | [], some fault => throw fault
  | tokens, _ => return tokens.head?

def skip : Reading Unit := modify fun c => { c with tokens := c.tokens.drop 1 }

def takeIf (t : Token) : Reading Bool := do
  if (← peek) = some t then
    skip
    return true
  else return false

def expect (t : Token) : Reading Unit := do
  if !(← takeIf t) then refuse

def nextIn (ts : List Token) : Reading Bool := do
  match ← peek with
  | some t => return ts.contains t
  | none => return true

def takeAnchor? : Reading (Option (List Char)) := do
  match ← peek with
  | some (.anchor name) =>
    skip
    return some name
  | _ => return none

def resolvedTag (handle : Option (List Char)) (suffix : List Char) : Reading (List Char) := do
  match handle with
  | none => return suffix
  | some handle =>
    match (← get).handles.lookup handle with
    | some start => return start ++ suffix
    | none =>
      if handle = ['!'] then return '!' :: suffix
      else if handle = ['!', '!'] then return standardTag ++ suffix
      else refuse

def takeTag? : Reading (Option (List Char)) := do
  match ← peek with
  | some (.tag handle suffix) =>
    skip
    return some (← resolvedTag handle suffix)
  | _ => return none

def properties : Reading (Option (List Char) × Option (List Char)) := do
  match ← takeAnchor? with
  | some anchor => return (some anchor, ← takeTag?)
  | none =>
    let tag ← takeTag?
    return (← takeAnchor?, tag)

/-- Announces an anchor, which must be new, before its node is read. -/
def announce (anchor : Option (List Char)) : Reading Unit := do
  if let some name := anchor then
    if ((← get).anchors.lookup name).isSome then refuse
    modify fun c => { c with anchors := (name, none) :: c.anchors }

def record (anchor : Option (List Char)) (node : Node) : Reading Node := do
  if let some name := anchor then
    modify fun c => { c with anchors := (name, some node) :: c.anchors }
  return node

def aliased (name : List Char) : Reading Node := do
  match (← get).anchors.lookup name with
  | some (some node) => return node
  | _ => refuse

/-- A lone mark as tag asks for what a plain scalar would mean. -/
def scalarNode (tag : Option (List Char)) (text : List Char) (plain : Bool) : Node :=
  if tag = some ['!'] then .scalar none text true else .scalar tag text plain

def inside {α : Type} (body : Reading α) : Reading α := do
  let nesting := (← get).nesting
  if nesting = some 0 then throw (.raised (.ofMisuse .tooDeep))
  modify fun c => { c with nesting := nesting.map (· - 1) }
  let a ← body
  modify fun c => { c with nesting }
  return a

mutual

/-- A node. `inBlock` says whether blocks may stand here, `indentless` whether the entries of a sequence
may stand here without being indented. -/
def node (inBlock indentless : Bool) : Nat → Reading Node
  | 0 => refuse
  | fuel + 1 => do
    if let some (.alias name) ← peek then
      skip
      return ← aliased name
    let (anchor, tag) ← properties
    announce anchor
    match ← peek with
    | some .entry =>
      if indentless then record anchor (.sequence tag (← inside (indentlessItems fuel)))
      else if anchor.isSome || tag.isSome then record anchor (scalarNode tag [] true)
      else refuse
    | some (.scalar text plain) =>
      skip
      record anchor (scalarNode tag text plain)
    | some .flowSequenceStart =>
      skip
      record anchor (.sequence tag (← inside (flowItems true fuel)))
    | some .flowMappingStart =>
      skip
      record anchor (.mapping tag (← inside (flowEntries true fuel)))
    | some .blockSequenceStart =>
      if inBlock then
        skip
        record anchor (.sequence tag (← inside (blockItems fuel)))
      else if anchor.isSome || tag.isSome then record anchor (scalarNode tag [] true)
      else refuse
    | some .blockMappingStart =>
      if inBlock then
        skip
        record anchor (.mapping tag (← inside (blockEntries fuel)))
      else if anchor.isSome || tag.isSome then record anchor (scalarNode tag [] true)
      else refuse
    | _ =>
      if anchor.isSome || tag.isSome then record anchor (scalarNode tag [] true) else refuse

def blockItems : Nat → Reading (List Node)
  | 0 => refuse
  | fuel + 1 => do
    if ← takeIf .entry then
      let first ← if ← nextIn [.entry, .blockEnd] then pure Node.empty else node true false fuel
      return first :: (← blockItems fuel)
    else
      expect .blockEnd
      return []

def indentlessItems : Nat → Reading (List Node)
  | 0 => refuse
  | fuel + 1 => do
    if ← takeIf .entry then
      let first ←
        if ← nextIn [.entry, .key, .value, .blockEnd] then pure Node.empty else node true false fuel
      return first :: (← indentlessItems fuel)
    else return []

def blockEntries : Nat → Reading (List (Node × Node))
  | 0 => refuse
  | fuel + 1 => do
    if ← takeIf .key then
      let key ← if ← nextIn [.key, .value, .blockEnd] then pure Node.empty else node true true fuel
      let value ←
        if ← takeIf .value then
          if ← nextIn [.key, .value, .blockEnd] then pure Node.empty else node true true fuel
        else pure Node.empty
      return (key, value) :: (← blockEntries fuel)
    else
      expect .blockEnd
      return []

def flowItems (first : Bool) : Nat → Reading (List Node)
  | 0 => refuse
  | fuel + 1 => do
    if ← takeIf .flowSequenceEnd then return []
    if !first then expect .flowEntry
    if ← takeIf .flowSequenceEnd then return []
    if ← takeIf .key then
      let entry ← inside (flowPair fuel)
      return .mapping none [entry] :: (← flowItems false fuel)
    else
      let item ← node false false fuel
      return item :: (← flowItems false fuel)

def flowPair : Nat → Reading (Node × Node)
  | 0 => refuse
  | fuel + 1 => do
    let key ←
      if ← nextIn [.value, .flowEntry, .flowSequenceEnd] then pure Node.empty else node false false fuel
    let value ←
      if ← takeIf .value then
        if ← nextIn [.flowEntry, .flowSequenceEnd] then pure Node.empty else node false false fuel
      else pure Node.empty
    return (key, value)

def flowEntries (first : Bool) : Nat → Reading (List (Node × Node))
  | 0 => refuse
  | fuel + 1 => do
    if ← takeIf .flowMappingEnd then return []
    if !first then expect .flowEntry
    if ← takeIf .flowMappingEnd then return []
    if ← takeIf .key then
      let key ←
        if ← nextIn [.value, .flowEntry, .flowMappingEnd] then pure Node.empty else node false false fuel
      let value ←
        if ← takeIf .value then
          if ← nextIn [.flowEntry, .flowMappingEnd] then pure Node.empty else node false false fuel
        else pure Node.empty
      return (key, value) :: (← flowEntries false fuel)
    else
      let key ← node false false fuel
      return (key, Node.empty) :: (← flowEntries false fuel)

end

/-- The parts of a version number must be digits around a point, and the first of them one. -/
def isKnownVersion (value : List Char) : Bool :=
  let value := value.takeWhile (· != ' ')
  let major := value.takeWhile Char.isDigit
  let minor := value.drop (major.length + 1)
  major == ['1'] && (value.drop 1).head? == some '.' && minor ≠ [] && minor.all Char.isDigit

def words (cs : List Char) : List (List Char) :=
  (cs.splitOn ' ').filter (· ≠ [])

/-- Directives before a document: at most one version, and handles of tags. -/
def directives : Nat → Bool → Reading Unit
  | 0, _ => return
  | fuel + 1, versioned => do
    match ← peek with
    | some (.directive name value) =>
      skip
      if name = "YAML".toList then
        if versioned || !isKnownVersion value then refuse
        directives fuel true
      else if name = "TAG".toList then
        match words value with
        | [handle, start] =>
          if ((← get).handles.lookup handle).isSome then refuse
          modify fun c => { c with handles := (handle, start) :: c.handles }
          directives fuel versioned
        | _ => refuse
      else directives fuel versioned
    | _ => return

def skipDocumentEnds : Nat → Reading Unit
  | 0 => return
  | fuel + 1 => do
    if ← takeIf .documentEnd then skipDocumentEnds fuel

def document (fuel : Nat) : Reading (Option Node) := do
  match ← peek with
  | none => return none
  | some (.directive ..) | some .documentStart =>
    directives fuel false
    expect .documentStart
    match ← peek with
    | none | some (.directive ..) | some .documentStart | some .documentEnd => return some Node.empty
    | _ => return some (← node true false fuel)
  | _ => return some (← node true false fuel)

def single (fuel : Nat) : Reading (Option Node) := do
  let root ← document fuel
  skipDocumentEnds fuel
  if (← peek).isSome then refuse
  return root

end Reading

namespace Node

def ofText (nesting : Option Nat) (cs : List Char) : Except Fault (Option Node) := do
  let (tokens, fault) := tokens cs
  let (root, _) ← (Reading.single (3 * tokens.length + 3)).run { tokens, fault, nesting }
  return root

end Node

end RecordStore.Script.Yaml
