import FlowRunner.Backend.Effect
import FlowRunner.Run.Failure

/-!
# Programs that may fail

A program asks for effects and ends with a value or a failure. A backend that does not do what it is
asked ends the program; `attempt` goes on in spite of that.
-/

namespace FlowRunner

/-- A program that ends with a value or a failure. -/
abbrev Program (α : Type) := ExceptT Failure Script α

namespace Program

variable {α : Type}

/-- Goes on with what a backend answers. -/
def backend (p : Script (Except BackendError α)) : Program α :=
  ExceptT.mk <| p.bind fun reply => .done <|
    match reply with
    | .ok value => .ok value
    | .error e => .error (.backend e)

/-- Goes on with what became of a file at a path. -/
def file (path : String) (p : Script (Except FileError α)) : Program α :=
  ExceptT.mk <| p.bind fun reply => .done <|
    match reply with
    | .ok value => .ok value
    | .error e => .error (.file path e.message)

/-- Goes on with what a script ends with. -/
def script (p : Script α) : Program α :=
  ExceptT.mk <| p.bind fun value => .done (.ok value)

/-- Asks for an effect and goes on whatever the answer is. -/
def attempt (effect : Effect) : Program effect.Reply :=
  script (.of effect)

/-- Waits. -/
def sleep (time : Duration) : Program Unit :=
  attempt (.sleep time)

/-- Ends with a failure. -/
def fail (failure : Failure) : Program α :=
  ExceptT.mk (.done (.error failure))

/-- Goes on with a value that may be missing. -/
def need (value : Option α) (failure : Failure) : Program α :=
  match value with
  | some v => pure v
  | none => fail failure

/-- A payload field as text; it may not be missing. -/
def required (step : Step) (key : String) : Program String :=
  need (step.text? key) (.missingParameter key)

end Program

end FlowRunner
