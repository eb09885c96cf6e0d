import FlowRunner.Shape.Basic
import FlowRunner.Json.Draft

/-!
# Shapes read from JSON text

The text is read as far as it goes (`Json.Draft`), so the fault reported is the one that stands
first in the text: data of a wrong kind before a break that follows it. Containers that are wanted
nest at most 127 deep.
-/

namespace FlowRunner

namespace Shape

open Json (Draft Fault)

/-- A part of a JSON text, with the depth that is left for it. -/
structure Piece where
  depth : Nat
  draft : Draft

/-- The fault of data that is of another kind than wanted. -/
def wrongKind : Draft → Fault
  | .number r => Draft.faultOr .mismatched r
  | .text r => Draft.faultOr .mismatched r
  | .broken f _ => f
  | _ => .mismatched

/-- A text. -/
def pieceText (p : Piece) : Except Fault Value :=
  match p.draft with
  | .text r => r.map .text
  | d => .error (wrongKind d)

/-- A text or null. -/
def pieceOptionalText (p : Piece) : Except Fault Value :=
  match p.draft with
  | .null => .ok .null
  | _ => pieceText p

/-- A natural number of so many bits. -/
def pieceNatural (bits : Nat) (p : Piece) : Except Fault Value :=
  match p.draft with
  | .number r => do
    match ← r with
    | .integer n h =>
      if 0 ≤ n && Reading.fits bits n.toNat then .ok (.number (.integer n h))
      else .error .mismatched
    | .real _ => .error .mismatched
  | d => .error (wrongKind d)

/-- The depth left inside a container. -/
def inner (p : Piece) : Except Fault Nat :=
  if p.depth ≤ 1 then .error .malformed else .ok (p.depth - 1)

/-- A list of items. -/
def pieceList (item : Piece → Except Fault Value) (p : Piece) : Except Fault Value :=
  match p.draft with
  | .list items ending => do
    let depth ← inner p
    let values ← items.mapM fun d => item ⟨depth, d⟩
    Draft.checkEnding ending
    .ok (.list values)
  | d => .error (wrongKind d)

/-- An object whose values are alike. -/
def pieceMap (item : Piece → Except Fault Value) (p : Piece) : Except Fault Value :=
  match p.draft with
  | .object members ending => do
    let depth ← inner p
    let pairs ← members.mapM fun member => do
      let k ← member.1
      let v ← item ⟨depth, member.2⟩
      .ok (k, v)
    Draft.checkEnding ending
    .ok (.object (Members.ofPairs pairs))
  | d => .error (wrongKind d)

/-- A record. -/
def pieceRecord (slots : List (Slot (Except Fault) Piece)) (p : Piece) : Except Fault Value :=
  match p.draft with
  | .object members ending => do
    let depth ← inner p
    let found ← Slot.fill slots (fun _ => .error .mismatched) (fun q => q.draft.skip) []
      (members.map fun (key, d) => (key, ⟨depth, d⟩))
    Draft.checkEnding ending
    .ok (Slot.assemble slots found)
  | .list items ending => do
    let depth ← inner p
    let (found, rest) ← Slot.fillInOrder slots (items.map fun d => ⟨depth, d⟩)
    if rest.isEmpty then
      Draft.checkEnding ending
      .ok (Slot.assemble slots found)
    else .error .malformed
  | d => .error (wrongKind d)

/-- JSON text as a source. -/
def pieceSource : Source (Except Fault) Piece where
  anything := fun p => p.draft.toValue p.depth
  text := pieceText
  optionalText := pieceOptionalText
  natural := pieceNatural
  list := pieceList
  map := pieceMap
  record := fun _ => pieceRecord

/-- Reads data of a shape from a JSON text. -/
def ofJson (shape : Shape) (text : String) : Except Fault Value := do
  let (draft, trailing) := Draft.ofText text
  let v ← shape.read pieceSource ⟨Draft.depthLimit, draft⟩
  Draft.checkEnding trailing
  .ok v

end Shape

end FlowRunner
