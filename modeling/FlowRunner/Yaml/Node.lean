import FlowRunner.Yaml.Token

/-!
# YAML documents

`Document.ofText?` reads a text that holds one document. Its root is a tree of nodes in which an
alias is a leaf; `Document.targets` lists the nodes that have an anchor. An alias means the last
node with that anchor before it, and may stand inside that very node.

The number of an anchor is the count of different names seen before it. A name used again is
therefore numbered past every other name, and shares its number with the next new one; of the nodes
with one number the one that starts last is meant.
-/

namespace FlowRunner.Yaml

/-- A scalar: its text, its style and its tag written in full. -/
structure Scalar where
  text : String
  style : Style
  tag : Option String
  deriving DecidableEq, Repr

/-- A node of a document. -/
inductive Node
  | scalar (value : Scalar)
  | list (tag : Option String) (items : List Node)
  | map (tag : Option String) (members : List (Node × Node))
  | alias (target : Nat)
  deriving Inhabited

/-- A document. `root` is missing when the text holds nothing at all. -/
structure Document where
  root : Option Node
  /-- The nodes with anchors, each with the number of its anchor. -/
  targets : List (Nat × Node)
  /-- The number of scalars, aliases and collection ends, starts counted apart. -/
  size : Nat

namespace Node

/-- A node with an anchor: its number, the place where it starts, and the node. -/
structure Target where
  number : Nat
  start : Nat
  node : Node

/-- The state of the reading. -/
structure Reading where
  tokens : List Token
  /-- What tag handles stand for. -/
  handles : List (String × String)
  /-- The anchors seen, by name, with their numbers. -/
  anchors : List (String × Nat)
  targets : List Target
  /-- The number of nodes and collection ends so far. -/
  size : Nat

/-- A step of the reading; it fails when the tokens make no document. -/
abbrev Step (α : Type) := StateT Reading Option α

/-- The next token. -/
def peek : Step (Option Token) :=
  return (← get).tokens.head?

/-- Passes a token. -/
def advance : Step Unit :=
  modify fun s => { s with tokens := s.tokens.drop 1 }

/-- Counts a node or an end. -/
def count : Step Unit :=
  modify fun s => { s with size := s.size + 1 }

/-- Whether the next token is one of the given ones; the end of the text is none of them. -/
def nextIs (ts : List Token) : Step Bool := do
  match ← peek with
  | some t => return ts.contains t
  | none => return false

/-- An empty plain scalar. -/
def emptyScalar : Step Node := do
  count
  return .scalar ⟨"", .plain, none⟩

/-- Gives an anchor its number. -/
def declare (name : String) : Step Nat := do
  let s ← get
  let number := s.anchors.length
  let others := s.anchors.filter fun a => a.1 != name
  set { s with anchors := (name, number) :: others }
  return number

/-- What stands before a node: an anchor and a tag, in either order. -/
def properties : Step (Option String × Option (String × String)) := do
  match ← peek with
  | some (.anchor name) =>
    advance
    match ← peek with
    | some (.tag handle rest) => advance; return (some name, some (handle, rest))
    | _ => return (some name, none)
  | some (.tag handle rest) =>
    advance
    match ← peek with
    | some (.anchor name) => advance; return (some name, some (handle, rest))
    | _ => return (none, some (handle, rest))
  | _ => return (none, none)

/-- A tag written in full. -/
def fullTag : Option (String × String) → Step (Option String)
  | none => return none
  | some (handle, rest) => do
    if handle.isEmpty then return some rest
    match (← get).handles.lookup handle with
    | some start => return some (start ++ rest)
    | none => failure

/-- Tokens after which a value of a block map is left out. -/
def mapStops : List Token := [.key, .value, .blockEnd]

mutual

/-- Reads a node. `block` allows block collections, `flush` a list whose dashes stand in the column
of the map around it. -/
def read : (fuel : Nat) → (block flush : Bool) → Step Node
  | 0, _, _ => failure
  | fuel + 1, block, flush => do
    match ← peek with
    | some (.alias name) =>
      advance
      match (← get).anchors.lookup name with
      | some n => count; return .alias n
      | none => failure
    | _ =>
      let (anchor, tag) ← properties
      let tag ← fullTag tag
      let start := (← get).size
      let number ← anchor.mapM declare
      let node ← readBody fuel block flush (anchor.isSome || tag.isSome) tag
      match number with
      | some n => modify fun s => { s with targets := ⟨n, start, node⟩ :: s.targets }
      | none => pure ()
      return node

/-- Reads a node after its properties. -/
def readBody : (fuel : Nat) → (block flush marked : Bool) → (tag : Option String) → Step Node
  | 0, _, _, _, _ => failure
  | fuel + 1, block, flush, marked, tag => do
    match ← peek with
    | some (.scalar text style) =>
      advance
      count
      let tag := if tag == some "!" then none else tag
      return .scalar ⟨text, style, tag⟩
    | some .flowListStart =>
      advance
      count
      return .list tag (← readFlowList fuel true)
    | some .flowMapStart =>
      advance
      count
      return .map tag (← readFlowMap fuel true)
    | some .entry =>
      if flush then do
        count
        return .list tag (← readFlushList fuel)
      else if marked then return (← emptyNode tag)
      else failure
    | some .blockListStart =>
      if block then do
        advance
        count
        return .list tag (← readBlockList fuel)
      else if marked then return (← emptyNode tag)
      else failure
    | some .blockMapStart =>
      if block then do
        advance
        count
        return .map tag (← readBlockMap fuel)
      else if marked then return (← emptyNode tag)
      else failure
    | _ => if marked then return (← emptyNode tag) else failure
where
  /-- A node of which only the properties are written. -/
  emptyNode (tag : Option String) : Step Node := do
    count
    return .scalar ⟨"", .plain, tag⟩

/-- Entries of a block list, up to its end. -/
def readBlockList : (fuel : Nat) → Step (List Node)
  | 0 => failure
  | fuel + 1 => do
    match ← peek with
    | some .entry =>
      advance
      let item ←
        if ← nextIs [.entry, .blockEnd] then emptyScalar else read fuel true false
      return item :: (← readBlockList fuel)
    | some .blockEnd => advance; count; return []
    | _ => failure

/-- Entries of a list in the column of the map around it. -/
def readFlushList : (fuel : Nat) → Step (List Node)
  | 0 => failure
  | fuel + 1 => do
    match ← peek with
    | some .entry =>
      advance
      let item ←
        if ← nextIs [.entry, .key, .value, .blockEnd] then emptyScalar else read fuel true false
      return item :: (← readFlushList fuel)
    | _ => count; return []

/-- Members of a block map, up to its end. -/
def readBlockMap : (fuel : Nat) → Step (List (Node × Node))
  | 0 => failure
  | fuel + 1 => do
    match ← peek with
    | some .key =>
      advance
      let key ← if ← nextIs mapStops then emptyScalar else read fuel true true
      let value ← readBlockValue fuel
      return (key, value) :: (← readBlockMap fuel)
    | some .blockEnd => advance; count; return []
    | _ => failure

/-- The value of a block map's member. -/
def readBlockValue : (fuel : Nat) → Step Node
  | 0 => failure
  | fuel + 1 => do
    if ← nextIs [.value] then
      advance
      if ← nextIs mapStops then emptyScalar else read fuel true true
    else emptyScalar

/-- Items of a flow list, up to its end. -/
def readFlowList : (fuel : Nat) → (first : Bool) → Step (List Node)
  | 0, _ => failure
  | fuel + 1, first => do
    if ← nextIs [.flowListEnd] then
      advance
      count
      return []
    else
      if !first then
        if ← nextIs [.separator] then advance else failure
      if ← nextIs [.key] then
        advance
        count
        let key ←
          if ← nextIs [.value, .separator, .flowListEnd] then do advance; emptyScalar
          else read fuel false false
        let value ←
          if ← nextIs [.value] then do
            advance
            if ← nextIs [.separator, .flowListEnd] then emptyScalar else read fuel false false
          else emptyScalar
        count
        return .map none [(key, value)] :: (← readFlowList fuel false)
      else if ← nextIs [.flowListEnd] then
        advance
        count
        return []
      else
        let item ← read fuel false false
        return item :: (← readFlowList fuel false)

/-- Members of a flow map, up to its end. -/
def readFlowMap : (fuel : Nat) → (first : Bool) → Step (List (Node × Node))
  | 0, _ => failure
  | fuel + 1, first => do
    if ← nextIs [.flowMapEnd] then
      advance
      count
      return []
    else
      if !first then
        if ← nextIs [.separator] then advance else failure
      if ← nextIs [.key] then
        advance
        let key ←
          if ← nextIs [.value, .separator, .flowMapEnd] then emptyScalar else read fuel false false
        let value ←
          if ← nextIs [.value] then do
            advance
            if ← nextIs [.separator, .flowMapEnd] then emptyScalar else read fuel false false
          else emptyScalar
        return (key, value) :: (← readFlowMap fuel false)
      else if ← nextIs [.flowMapEnd] then
        advance
        count
        return []
      else
        let key ← read fuel false false
        let value ← emptyScalar
        return (key, value) :: (← readFlowMap fuel false)

end

/-! ## Documents -/

/-- The handles that have a meaning without being declared. -/
def defaultHandles : List (String × String) :=
  [("!", "!"), ("!!", "tag:yaml.org,2002:")]

/-- Passes the directives of a document. The version may be given once and has to be 1.1 or 1.2; a
handle may be declared once. Gives whether there were any, and the handles. -/
def directives : (fuel : Nat) → (versioned : Bool) → List (String × String) →
    Step (Bool × List (String × String))
  | 0, _, _ => failure
  | fuel + 1, versioned, declared => do
    match ← peek with
    | some (.version major minor) =>
      if versioned || major != 1 || (minor != 1 && minor != 2) then failure
      else
        advance
        directives fuel true declared
    | some (.handleMeaning name start) =>
      if (declared.lookup name).isSome then failure
      else
        advance
        directives fuel versioned ((name, start) :: declared)
    | _ => return (versioned || !declared.isEmpty, declared)

/-- Passes marks of a document's end. -/
def endMarks : (fuel : Nat) → Step Unit
  | 0 => failure
  | fuel + 1 => do
    if ← nextIs [.documentEnd] then
      advance
      endMarks fuel

/-- Reads the only document of a text. -/
def readDocument (fuel : Nat) : Step (Option Node) := do
  match ← peek with
  | none => return none
  | _ =>
    let (any, declared) ← directives fuel false []
    modify fun s => { s with handles := declared ++ defaultHandles }
    let marked ← nextIs [.documentStart]
    if any && !marked then failure
    else
      if marked then advance
      let node ←
        match ← peek with
        | none => emptyScalar
        | some (.version ..) | some (.handleMeaning ..) | some .documentStart | some .documentEnd =>
          if marked then emptyScalar else failure
        | some _ => read fuel true false
      endMarks fuel
      match ← peek with
      | none => return some node
      | some _ => failure

end Node

/-- Keeps of the nodes with one number the one that starts last. -/
def latestTargets (targets : List Node.Target) : List (Nat × Node) :=
  let latest := targets.filter fun t =>
    targets.all fun u => u.number != t.number || u.start ≤ t.start
  latest.map fun t => (t.number, t.node)

/-- The document of a text that holds exactly one. -/
def Document.ofText? (text : String) : Option Document := do
  let tokens ← Token.ofText? text
  let start : Node.Reading := ⟨tokens, Node.defaultHandles, [], [], 0⟩
  let (root, s) ← (Node.readDocument (4 * tokens.length + 8)).run start
  some ⟨root, latestTargets s.targets, s.size⟩

end FlowRunner.Yaml
