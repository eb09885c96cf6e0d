import FlowRunner.Shape.Basic
import FlowRunner.Json.Printer
import FlowRunner.Number.Reading
import FlowRunner.Text.Quoted

/-!
# Shapes read from JSON values

Reading stops at the first piece that does not fit. `Misfit` says why, and `Misfit.message` is the
wording. A record is an object or the list of its leading fields.
-/

namespace FlowRunner

/-- Why a value does not fit what is wanted. -/
inductive Misfit
  | kind (got : Value) (wanted : String)
  | range (got : Value) (wanted : String)
  | missing (field : String)
  | repeated (field : String)
  | tooLong (length : Nat)
  | custom (message : String)

namespace Misfit

/-- How messages describe a value of the wrong kind. -/
def describe : Value → String
  | .null => "null"
  | .bool b => "boolean \x60" ++ Value.boolText b ++ "\x60"
  | .number (.integer n _) => "integer \x60" ++ toString n ++ "\x60"
  | .number (.real x) => "floating point \x60" ++ x.text ++ "\x60"
  | .text s => "string " ++ Text.quoted s
  | .list _ => "sequence"
  | .object _ => "map"

/-- The wording of a misfit. -/
def message : Misfit → String
  | .kind got wanted => "invalid type: " ++ describe got ++ ", expected " ++ wanted
  | .range got wanted => "invalid value: " ++ describe got ++ ", expected " ++ wanted
  | .missing field => "missing field \x60" ++ field ++ "\x60"
  | .repeated field => "duplicate field \x60" ++ field ++ "\x60"
  | .tooLong length =>
    "invalid length " ++ toString length ++ ", expected fewer elements in array"
  | .custom text => text

end Misfit

namespace Shape

/-- A text. -/
def valueText : Value → Except Misfit Value
  | .text s => .ok (.text s)
  | v => .error (.kind v "a string")

/-- A text or null. -/
def valueOptionalText : Value → Except Misfit Value
  | .null => .ok .null
  | v => valueText v

/-- A natural number of so many bits. -/
def valueNatural (bits : Nat) (v : Value) : Except Misfit Value :=
  let wanted := "u" ++ toString bits
  match v with
  | .number (.integer n _) =>
    if 0 ≤ n && Reading.fits bits n.toNat then .ok v else .error (.range v wanted)
  | _ => .error (.kind v wanted)

/-- A list of items. -/
def valueList (item : Value → Except Misfit Value) : Value → Except Misfit Value
  | .list items => (items.mapM item).map .list
  | v => .error (.kind v "a sequence")

/-- An object whose values are alike. -/
def valueMap (item : Value → Except Misfit Value) : Value → Except Misfit Value
  | .object members =>
    (members.mapM fun member => (item member.2).map fun v => (member.1, v)).map .object
  | v => .error (.kind v "a map")

/-- A record. -/
def valueRecord (title : String) (slots : List (Slot (Except Misfit) Value)) :
    Value → Except Misfit Value
  | .object members => do
    let found ← Slot.fill slots (fun name => .error (.repeated name)) (fun _ => .ok ()) []
      (members.map fun (k, v) => (.ok k, v))
    .ok (Slot.assemble slots found)
  | .list items => do
    let (found, rest) ← Slot.fillInOrder slots items
    if rest.isEmpty then .ok (Slot.assemble slots found)
    else .error (.tooLong items.length)
  | v => .error (.kind v ("struct " ++ title))

/-- JSON values as a source. -/
def valueSource : Source (Except Misfit) Value where
  anything := .ok
  text := valueText
  optionalText := valueOptionalText
  natural := valueNatural
  list := valueList
  map := valueMap
  record := valueRecord

/-- Reads data of a shape from a JSON value. -/
def ofValue (shape : Shape) (v : Value) : Except Misfit Value :=
  shape.read valueSource v

end Shape

end FlowRunner
