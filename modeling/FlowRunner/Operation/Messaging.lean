import FlowRunner.Config
import FlowRunner.Run.Program
import FlowRunner.Text.Cut

/-!
# Operations on events

`send_event` publishes an event. `read_event` subscribes and takes one event after another until one
passes a filter: every dotted path of the filter has to lead to exactly the value given. The time
for all of this is limited. A subscription is closed however the waiting ends, and a failure to
close it changes nothing.
-/

namespace FlowRunner

namespace Event

/-- The value that the parts of a dotted path lead to. -/
def follow? : List (List Char) → Value → Option Value
  | [], v => some v
  | part :: rest, .object members => (Members.get? (String.ofList part) members).bind (follow? rest)
  | part :: rest, .list items =>
    ((Reading.natural? 64 part).bind fun index => items[index]?).bind (follow? rest)
  | _ :: _, _ => none

/-- The value at a dotted path. -/
def at? (path : String) (event : Value) : Option Value :=
  follow? (Text.splitOn '.' path.toList) event

/-- Whether an event passes a filter. -/
def passes (filter : List (String × Value)) (event : Value) : Bool :=
  filter.all fun (path, expected) =>
    match at? path event with
    | some v => v.same expected
    | none => false

/-- The filter that a step gives; anything but an object filters nothing. -/
def filterOf (step : Step) : List (String × Value) :=
  match step.get? "event" with
  | some (.object filter) => filter
  | _ => []

/-- Publishes the event of a step. -/
def publish (step : Step) : Program Value := do
  let topic ← Program.required step "topic"
  Program.backend (.of (.publish topic ((step.get? "event").getD .null)))
  return .null

/-- What became of waiting for an event that passes a filter. -/
inductive Heard
  | event (value : Value)
  /-- The stream of events has ended. -/
  | ended
  /-- The time is up. -/
  | late

/-- Takes events until one passes a filter, with some patience. -/
def listen (filter : List (String × Value)) (left : Patience) :
    Script (Except BackendError Heard) :=
  .ask (.nextEvent left) fun
    | .error e => .done (.error e)
    | .ok .ended => .done (.ok .ended)
    | .ok .late => .done (.ok .late)
    | .ok (.event value spent atHand _) =>
      if passes filter value then .done (.ok (.event value))
      else listen filter (left.after spent atHand)
termination_by left.measure
decreasing_by exact Patience.measure_after_lt ‹_›

/-- The result of waiting for an event. -/
def resultOf (topic : String) : Except BackendError Heard → Except Failure Value
  | .ok (.event v) => .ok v
  | .ok .ended =>
    .error (.backend (.messaging
      ("Subscription to " ++ topic ++ " ended before a matching message arrived")))
  | .ok .late => .error (.timeout ("Timeout waiting for message on " ++ topic))
  | .error e => .error (.backend e)

/-- Waits for the event that a step asks for. -/
def await (config : Config.Kafka) (step : Step) : Program Value := do
  let topic ← Program.required step "topic"
  let group := (step.text? "group_id").getD config.defaultGroupId
  Program.backend (.of (.subscribe topic group))
  let heard ← Program.script
    (listen (filterOf step) (.start (.ofSecs config.readTimeoutSecs)))
  let _ ← Program.attempt .close
  ExceptT.mk (.done (resultOf topic heard))

/-- Runs an action. -/
def run (config : Config.Kafka) (step : Step) (action : String) : Program Value :=
  match action with
  | "send_event" => publish step
  | "read_event" => await config step
  | other => Program.fail (.routing (.unsupported .messaging other))

end Event

end FlowRunner
