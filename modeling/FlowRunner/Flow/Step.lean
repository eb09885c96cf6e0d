import FlowRunner.Duration
import FlowRunner.Flow.Workflow
import FlowRunner.Number.Reading
import FlowRunner.Text.Case

/-!
# Steps

A resolved step is its control fields and its payload: thirteen fields say how the step is run, all
other members belong to the operation it names. Control fields are lenient, because they may come
from text: a count, a delay or a flag may be written as one.

* `Step.ofValue` reads the control fields in the order in which they are written, so the first bad
  one is reported.
* `Step.toValue` writes them in a fixed order, before the payload.
* A payload field whose value is null counts as absent.
-/

namespace FlowRunner

/-- What to keep of a result: fields under their own names, or paths under names of the step's
choice. -/
inductive ValueMap
  | fields (names : List String)
  | paths (entries : List (String × Value))

/-- A resolved step. -/
structure Step where
  /-- The number shown for the step. -/
  ordinal : Option Value := none
  name : Option String := none
  /-- The name of a nested flow, shown when the step has no name of its own. -/
  flowName : Option String := none
  action : String := ""
  /-- The family asked for, whatever the action. -/
  family : Option String := none
  /-- The attempts after the first one. -/
  retry : Nat := 0
  /-- Seconds to wait after the step. -/
  delay : Option Real64 := none
  /-- Seconds to wait between attempts. -/
  retryDelay : Option Real64 := none
  skip : Bool := false
  /-- The response that is expected; null expects null, nothing expects nothing. -/
  expected : Option Value := none
  valueMap : Option ValueMap := none
  /-- Whether the run ends with the result of this step. -/
  returns : Bool := false
  log : Bool := false
  payload : List (String × Value) := []
  deriving Inhabited

/-- The reading of a flag: a truth value, the word `true` in any case, or null. -/
def Value.flag? : Value → Option Bool
  | .null => some false
  | .bool b => some b
  | .text s => some (Text.sameLetters (Text.trimmed s) "true")
  | _ => none

namespace ValueMap

/-- The value map that a value gives. -/
def ofValue (v : Value) : Except Misfit ValueMap :=
  let misfit := Misfit.custom "data did not match any variant of untagged enum ValueMap"
  match v with
  | .list items =>
    match items.mapM Value.asText? with
    | some names => .ok (.fields names)
    | none => .error misfit
  | .object entries => .ok (.paths entries)
  | _ => .error misfit

/-- The value map as a value. -/
def toValue : ValueMap → Value
  | .fields names => .ofTexts names
  | .paths entries => .object entries

end ValueMap

namespace Step

/-! ## Control fields -/

/-- An optional text. -/
def readName (v : Value) : Except Misfit (Option String) :=
  match v with
  | .null => .ok none
  | .text s => .ok (some s)
  | _ => .error (.kind v "a string")

/-- A text. -/
def readAction (v : Value) : Except Misfit String :=
  match v with
  | .text s => .ok s
  | _ => .error (.kind v "a string")

/-- A number of retries of 32 bits, as a number or as text; null and blank text are zero. -/
def readRetry (v : Value) : Except Misfit Nat :=
  match v with
  | .null => .ok 0
  | .number n =>
    match n.natural?.filter (Reading.fits 32) with
    | some count => .ok count
    | none => .error (.custom ("invalid retry count " ++ n.text))
  | .text s =>
    let digits := Text.trim s.toList
    if digits.isEmpty then .ok 0
    else
      match Reading.natural? 32 digits with
      | some count => .ok count
      | none => .error (.custom ("invalid retry count '" ++ s ++ "'"))
  | v => .error (.custom ("invalid retry count " ++ v.compact))

/-- A delay in seconds, as a number or as text; blank text is zero and null is no delay. -/
def readDelay (v : Value) : Except Misfit (Option Real64) :=
  match v with
  | .null => .ok none
  | .number n => .ok (some n.toReal)
  | .text s =>
    let digits := Text.trim s.toList
    if digits.isEmpty then .ok (some (.finite (.zero false)))
    else
      match Reading.real? digits with
      | some x => .ok (some x)
      | none => .error (.custom ("invalid delay '" ++ s ++ "'"))
  | _ => .error (.custom "data did not match any variant of untagged enum SecondsHelper")

/-- A flag. -/
def readFlag (v : Value) : Except Misfit Bool :=
  match v.flag? with
  | some b => .ok b
  | none => .error (.custom ("expected a boolean, got " ++ v.compact))

/-- A value map, or null for none. -/
def readValueMap (v : Value) : Except Misfit (Option ValueMap) :=
  match v with
  | .null => .ok none
  | v => (ValueMap.ofValue v).map some

/-- Sets the control field of a name; any other member goes to the end of the payload. -/
def withMember (step : Step) (key : String) (v : Value) : Except Misfit Step :=
  match key with
  | "step" => .ok { step with ordinal := if v.isNull then none else some v }
  | "step name" => (readName v).map fun name => { step with name }
  | "flow name" => (readName v).map fun flowName => { step with flowName }
  | "action" => (readAction v).map fun action => { step with action }
  | "type" => (readName v).map fun family => { step with family }
  | "retry" => (readRetry v).map fun retry => { step with retry }
  | "delay" => (readDelay v).map fun delay => { step with delay }
  | "retry_delay" => (readDelay v).map fun retryDelay => { step with retryDelay }
  | "skip_step" => (readFlag v).map fun skip => { step with skip }
  | "validate_response" => .ok { step with expected := some v }
  | "value_map" => (readValueMap v).map fun valueMap => { step with valueMap }
  | "return" => (readFlag v).map fun returns => { step with returns }
  | "log" => (readFlag v).map fun log => { step with log }
  | _ => .ok { step with payload := step.payload ++ [(key, v)] }

/-- Sets members in the order in which they are written. -/
def withMembers (step : Step) : List (String × Value) → Except Misfit Step
  | [] => .ok step
  | (key, v) :: rest => do
    let next ← step.withMember key v
    next.withMembers rest

/-- The step of a raw step whose placeholders are resolved. -/
def ofRaw (raw : RawStep) : Except Misfit Step := do
  let step ← withMembers {} raw
  if Members.has "action" raw then .ok step else .error (.missing "action")

/-- The step that a value gives. -/
def ofValue (v : Value) : Except Misfit Step :=
  match v with
  | .object raw => ofRaw raw
  | v => .error (.kind v "struct Step")

/-- A member that is written only when it is there. -/
def optionalMember (key : String) (v : Option Value) : List (String × Value) :=
  match v with
  | some v => [(key, v)]
  | none => []

/-- The step as a value. -/
def toValue (step : Step) : Value :=
  .object (
    optionalMember "step" step.ordinal ++
    optionalMember "step name" (step.name.map .text) ++
    optionalMember "flow name" (step.flowName.map .text) ++
    [("action", .text step.action)] ++
    optionalMember "type" (step.family.map .text) ++
    [("retry", .ofInt step.retry)] ++
    optionalMember "delay" (step.delay.map .ofReal) ++
    optionalMember "retry_delay" (step.retryDelay.map .ofReal) ++
    [("skip_step", .bool step.skip)] ++
    optionalMember "validate_response" step.expected ++
    optionalMember "value_map" (step.valueMap.map ValueMap.toValue) ++
    [("return", .bool step.returns), ("log", .bool step.log)] ++
    step.payload)

/-! ## Labels -/

/-- How messages name a step: by its ordinal, or its place in the workflow, and its name if it has
one. -/
def labelOf (ordinal : Option Value) (name : Option String) (index : Nat) : String :=
  let number :=
    match ordinal with
    | none => toString (index + 1)
    | some .null => toString (index + 1)
    | some v => v.plain
  match name with
  | some name => if name.isEmpty then "step " ++ number else "step " ++ number ++ " " ++ name
  | none => "step " ++ number

/-- The label of a step. -/
def label (step : Step) (index : Nat) : String :=
  labelOf step.ordinal (step.name <|> step.flowName) index

/-- The label of a step that is not resolved yet. -/
def rawLabel (raw : RawStep) (index : Nat) : String :=
  let name (key : String) : Option String := (Members.get? key raw).bind Value.asText?
  labelOf (Members.get? "step" raw) (name "step name" <|> name "flow name") index

/-! ## Actions and waits -/

/-- The action in the spelling that operations are known by. -/
def verb (step : Step) : String :=
  String.ofList (Text.lower (Text.trim step.action.toList))

/-- The wait between attempts; none when it is too long for a duration. -/
def retryWait? (step : Step) : Option Duration :=
  match step.retryDelay <|> step.delay with
  | some seconds => Duration.ofSeconds? seconds
  | none => some .zero

/-- The wait after the step; none when it is too long for a duration. -/
def postDelay? (step : Step) : Option Duration :=
  match step.delay with
  | some seconds => Duration.ofSeconds? seconds
  | none => some .zero

/-! ## Payload -/

/-- A payload field; null counts as absent. -/
def get? (step : Step) (key : String) : Option Value :=
  (Members.get? key step.payload).filter fun v => !v.isNull

/-- A payload field as text; a number and a truth value are written out. -/
def text? (step : Step) (key : String) : Option String :=
  match step.get? key with
  | some (.text s) => some s
  | some (.number n) => some n.text
  | some (.bool b) => some (Value.boolText b)
  | _ => none

/-- A payload field as a natural number of 64 bits. -/
def natural? (step : Step) (key : String) : Option Nat :=
  match step.get? key with
  | some (.number n) => n.natural?
  | some (.text s) => Reading.natural? 64 (Text.trim s.toList)
  | _ => none

/-- A payload field as a truth value; false when it is none. -/
def truth (step : Step) (key : String) : Bool :=
  match step.get? key with
  | some (.bool b) => b
  | some (.text s) => Text.sameLetters s "true"
  | _ => false

/-- A payload field as a list; anything but a list is a list of one. -/
def items (step : Step) (key : String) : List Value :=
  match step.get? key with
  | some (.list items) => items
  | some v => [v]
  | none => []

end Step

end FlowRunner
