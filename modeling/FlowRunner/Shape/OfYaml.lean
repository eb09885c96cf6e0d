import FlowRunner.Shape.Basic
import FlowRunner.Yaml.Plain

/-!
# Shapes read from YAML text

A text is wanted: any scalar gives one, whatever its tag. A list, a map or a record is wanted: a
scalar that is left out counts as an empty one. Containers that are wanted nest at most 127 deep,
and the number of aliases followed is bounded by a hundred for every node of the document.

All failures are alike, so reading is in `Option`.
-/

namespace FlowRunner

namespace Shape

open Yaml (Document Node Scalar)

/-- Reading that counts the aliases followed. -/
abbrev Following := StateT Nat Option

/-- A node with the depth that is left for it. -/
structure Spot where
  depth : Nat
  node : Node

/-- A scalar that is left out. -/
def leftOut : Node :=
  .scalar ⟨"", .plain, none⟩

/-- Whether a scalar is left out. -/
def isLeftOut (s : Scalar) : Bool :=
  s.text.isEmpty && s.style == .plain

/-- The node that an alias stands for; any other node is itself. -/
def follow (doc : Document) : Node → Following Node
  | .alias target => do
    modify (· + 1)
    if (← get) > 100 * doc.size then failure
    else
      match doc.targets.lookup target with
      | some node => return node
      | none => failure
  | node => return node

/-- The text of a key, which has to be a scalar. -/
def keyText (doc : Document) (key : Node) : Following String := do
  match ← follow doc key with
  | .scalar s => return s.text
  | _ => failure

/-- A map's members: each key as its text, each value as `read` gives it. -/
def readMembers (doc : Document) (read : Node → Following Value)
    (members : List (Node × Node)) : Following Value := do
  let pairs ← members.mapM fun member => do
    let k ← keyText doc member.1
    let v ← read member.2
    return (k, v)
  return .object (Members.ofPairs pairs)

/-- The value of a scalar. -/
def scalarValue (s : Scalar) : Following Value :=
  match s.value? with
  | some v => return v
  | none => failure

/-- The value of a node. -/
def nodeValue (doc : Document) : (depth : Nat) → Node → Following Value
  | 0, node => do
    match ← follow doc node with
    | .scalar s => scalarValue s
    | _ => failure
  | depth + 1, node => do
    match ← follow doc node with
    | .scalar s => scalarValue s
    | .list tag items =>
      if Yaml.isLocalTag tag then failure
      else return .list (← items.mapM (nodeValue doc depth))
    | .map tag members =>
      if Yaml.isLocalTag tag then failure
      else readMembers doc (nodeValue doc depth) members
    | .alias _ => failure

/-- A text. -/
def spotText (doc : Document) (p : Spot) : Following Value := do
  return .text (← keyText doc p.node)

/-- Whether a scalar stands for nothing where a text may be missing. -/
def standsForNothing (s : Scalar) : Option Bool :=
  let word := Yaml.isNullWord s.text.toList
  match s.style, s.tag with
  | .plain, some tag =>
    if tag == Yaml.basicTag "null" then (if word then some true else none)
    else some s.text.isEmpty
  | .plain, none => some (s.text.isEmpty || word)
  | _, _ => some false

/-- A text or nothing. -/
def spotOptionalText (doc : Document) (p : Spot) : Following Value := do
  match ← follow doc p.node with
  | .scalar s =>
    match standsForNothing s with
    | some true => return .null
    | some false => return .text s.text
    | none => failure
  | _ => failure

/-- A natural number of so many bits. -/
def spotNatural (doc : Document) (bits : Nat) (p : Spot) : Following Value := do
  match ← follow doc p.node with
  | .scalar s =>
    let numeric := s.style == .plain ||
      (s.style == .literal && s.tag == some (Yaml.basicTag "int"))
    match (if numeric then Yaml.natural? 64 s.text.toList else none) with
    | some n => if Reading.fits bits n then return .ofInt n else failure
    | none => failure
  | _ => failure

/-- The depth left inside a container. -/
def within (p : Spot) : Following Nat :=
  match p.depth with
  | 0 => failure
  | depth + 1 => return depth

/-- A list of items. -/
def spotList (doc : Document) (item : Spot → Following Value) (p : Spot) : Following Value := do
  match ← follow doc p.node with
  | .list _ items =>
    let depth ← within p
    return .list (← items.mapM fun node => item ⟨depth, node⟩)
  | .scalar s => if isLeftOut s then return .list [] else failure
  | _ => failure

/-- A map whose values are alike. -/
def spotMap (doc : Document) (item : Spot → Following Value) (p : Spot) : Following Value := do
  match ← follow doc p.node with
  | .map _ members =>
    let depth ← within p
    readMembers doc (fun node => item ⟨depth, node⟩) members
  | .scalar s => if isLeftOut s then return .object [] else failure
  | _ => failure

/-- A record; it is always written as a map. -/
def spotRecord (doc : Document) (slots : List (Slot Following Spot)) (p : Spot) :
    Following Value := do
  match ← follow doc p.node with
  | .map _ members =>
    let depth ← within p
    let found ← Slot.fill slots (fun _ => failure) (fun _ => return ()) []
      (members.map fun member => (keyText doc member.1, ⟨depth, member.2⟩))
    return Slot.assemble slots found
  | .scalar s => if isLeftOut s then return Slot.assemble slots [] else failure
  | _ => failure

/-- YAML nodes as a source. -/
def spotSource (doc : Document) : Source Following Spot where
  anything := fun p => nodeValue doc p.depth p.node
  text := spotText doc
  optionalText := spotOptionalText doc
  natural := spotNatural doc
  list := spotList doc
  map := spotMap doc
  record := fun _ => spotRecord doc

/-- How deep containers may nest. -/
def depthLimit : Nat := 127

/-- Reads data of a shape from a YAML text that holds one document or nothing. -/
def ofYaml? (shape : Shape) (text : String) : Option Value := do
  let doc ← Document.ofText? text
  let spot : Spot := ⟨depthLimit, doc.root.getD leftOut⟩
  let (v, _) ← (shape.read (spotSource doc) spot).run 0
  some v

end Shape

end FlowRunner
