import FlowRunner.Json.Draft
import FlowRunner.Json.Printer

/-!
# Bodies of responses

A body that is JSON counts as its value, any other body as its text. Of an object, the part of
interest is its `errors`, its `data` or its `result`, the first of these that is there and holds
something.
-/

namespace FlowRunner

namespace Value

/-- Whether a value holds something: not null, false, zero or the empty text. -/
def holds : Value → Bool
  | .null => false
  | .bool b => b
  | .number (.integer n _) => n != 0
  | .number (.real x) => !x.isZero
  | .text s => !s.isEmpty
  | .list _ => true
  | .object _ => true

/-- Whether a value is the empty list. -/
def isEmptyList : Value → Bool
  | .list items => items.isEmpty
  | _ => false

/-- The part of a body that is of interest. -/
def unwrapped (body : Value) : Value :=
  match body with
  | .object members =>
    let errors := (Members.get? "errors" members).filter fun v => v.holds && !v.isEmptyList
    let data := (Members.get? "data" members).filter holds
    let result := (Members.get? "result" members).filter holds
    ((errors <|> data) <|> result).getD body
  | _ => body

/-- The value of the text of a body. -/
def ofBody (text : String) : Value :=
  if text.isEmpty then .null
  else
    match Value.ofJson text with
    | .ok v => v
    | .error _ => .text text

/-- The start of the text of a value, with dots when it is cut. -/
def excerpt (limit : Nat) (v : Value) : String :=
  let text := v.plain.toList
  if text.length ≤ limit then v.plain else String.ofList (text.take limit) ++ "..."

end Value

end FlowRunner
