import FlowRunner.Json.Value

/-!
# Shapes of typed data

A shape says what a piece of data is read as. The same shapes are read from three kinds of source:
JSON values, JSON text and YAML text. A `Source` says how one kind of source gives each sort of
data; `Shape.read` puts these together along the shape.

What is read is again a value, with every field of a record present under its own name and in the
order of the fields. A field that the source leaves out has its default.
-/

namespace FlowRunner

mutual

/-- What a piece of data is read as. -/
inductive Shape
  | anything
  | text
  /-- A text or nothing, which reads as null. -/
  | optionalText
  /-- A natural number of so many bits. -/
  | natural (bits : Nat)
  | list (item : Shape)
  | map (value : Shape)
  /-- Named fields. The title names the record in messages. -/
  | record (title : String) (fields : List Field)

/-- A field of a record: its name, other names it goes by, its shape, and the value it has when it
is left out. -/
inductive Field
  | mk (name : String) (others : List String) (shape : Shape) (default : Value)

end

/-- A field together with the way to read it from one kind of source. -/
structure Slot (m : Type → Type) (σ : Type) where
  name : String
  others : List String
  default : Value
  read : σ → m Value

/-- Whether a field goes by a name. -/
def Slot.named {m : Type → Type} {σ : Type} (slot : Slot m σ) (key : String) : Bool :=
  slot.name == key || slot.others.contains key

/-- How one kind of source gives each sort of data. -/
structure Source (m : Type → Type) (σ : Type) where
  anything : σ → m Value
  text : σ → m Value
  optionalText : σ → m Value
  natural : (bits : Nat) → σ → m Value
  list : (item : σ → m Value) → σ → m Value
  map : (value : σ → m Value) → σ → m Value
  record : (title : String) → List (Slot m σ) → σ → m Value

mutual

/-- Reads data of a shape. -/
def Shape.read {m : Type → Type} {σ : Type} (source : Source m σ) : Shape → σ → m Value
  | .anything => source.anything
  | .text => source.text
  | .optionalText => source.optionalText
  | .natural bits => source.natural bits
  | .list item => source.list (item.read source)
  | .map value => source.map (value.read source)
  | .record title fields => source.record title (Field.slots source fields)

/-- The fields with the way to read them. -/
def Field.slots {m : Type → Type} {σ : Type} (source : Source m σ) :
    List Field → List (Slot m σ)
  | [] => []
  | .mk name others shape default :: rest =>
    ⟨name, others, default, shape.read source⟩ :: Field.slots source rest

end

namespace Slot

variable {m : Type → Type} {σ : Type}

/-- The record made of the values found, with defaults for the fields that were not. -/
def assemble (slots : List (Slot m σ)) (found : List (String × Value)) : Value :=
  .object (slots.map fun slot => (slot.name, (Members.get? slot.name found).getD slot.default))

/-- Reads a record from its members in the order written. `repeated` is the failure when a field
comes twice, under whichever name; a member that is no field goes to `skip`. -/
def fill [Monad m] (slots : List (Slot m σ)) (repeated : String → m Unit) (skip : σ → m Unit) :
    (found : List (String × Value)) → List (m String × σ) → m (List (String × Value))
  | found, [] => pure found
  | found, (key, item) :: rest => do
    match slots.find? (·.named (← key)) with
    | none =>
      skip item
      fill slots repeated skip found rest
    | some slot =>
      if Members.has slot.name found then repeated slot.name
      let value ← slot.read item
      fill slots repeated skip (found ++ [(slot.name, value)]) rest

/-- Reads the leading fields of a record from items in the order of the fields. Gives what was found
and the items left over. -/
def fillInOrder [Monad m] : (slots : List (Slot m σ)) → List σ →
    m (List (String × Value) × List σ)
  | [], items => pure ([], items)
  | _ :: _, [] => pure ([], [])
  | slot :: slots, item :: items => do
    let value ← slot.read item
    let (found, rest) ← fillInOrder slots items
    pure ((slot.name, value) :: found, rest)

end Slot

end FlowRunner
