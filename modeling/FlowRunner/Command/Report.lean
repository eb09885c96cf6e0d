import FlowRunner.Backend.Secrets
import FlowRunner.Command.Arguments
import FlowRunner.Run.Execution
import FlowRunner.Run.Loading

/-!
# Commands

What the commands do, as programs that end with a report: an exit code, the output, and what is said
about errors. The exit code is 0 when all went well, 1 when a flow failed, and 2 when the command
itself could not be carried out.

* `Command.runFlows` runs flows one after another, each over its own parameters, and stops early
  only when it is asked to stop at the first failure.
* `Overrides.ofParams` puts parameters from the command line over those from a file.
-/

namespace FlowRunner

/-- What a command leaves behind. -/
structure Report where
  code : Nat
  output : String
  errors : String
  deriving DecidableEq, Repr

namespace Report

/-- A report without errors. -/
def passed (output : String) : Report := ⟨0, output, ""⟩

/-- The report of a command that could not be carried out: the error with its causes. -/
def broken (output message : String) (causes : List String) : Report :=
  ⟨2, output, "Error: " ++ ": ".intercalate (message :: causes) ++ "\n"⟩

/-- The report of a load error. -/
def unloaded (output : String) (e : LoadError) : Report :=
  broken output e.message e.causes

end Report

/-! ## Settings from files -/

namespace Config

/-- Loads a configuration; the failure is its wording and its causes. -/
def load (path : Option String) : Script (Except (String × List String) Config) :=
  match path with
  | none => .done (.ok {})
  | some path =>
    let failed (causes : List String) : Except (String × List String) Config :=
      .error ("Failed to load config " ++ path, causes)
    (TextFile.load path).bind fun reply => .done <|
      match reply with
      | .error e => failed ["IO error: " ++ e.message, e.message]
      | .ok text =>
        match Config.ofYaml? text with
        | some config => .ok config
        | none => failed ["YAML parse error in " ++ path ++ ": the text does not fit"]

end Config

namespace Overrides

/-- The form of a file of parameters. -/
def shape : Shape := .map .anything

/-- Sets a parameter from its text: the key before the first equals sign, and after it JSON or else
a text. -/
def withParam (store : Store) (param : String) : Except String Store :=
  match Text.cut? '=' param.toList with
  | none => .error ("Invalid --param '" ++ param ++ "', expected key=value")
  | some (key, raw) =>
    let text := String.ofList raw
    let value :=
      match Value.ofJson text with
      | .ok v => v
      | .error _ => .text text
    .ok (store.insert (String.ofList (Text.trim key)) value)

/-- Sets parameters from their texts, in turn. -/
def withParams (store : Store) : List String → Except String Store
  | [] => .ok store
  | param :: rest => do
    let next ← withParam store param
    withParams next rest

/-- Loads the parameters of a file; the failure is its wording and its causes. -/
def load (path : Option String) : Script (Except (String × List String) Store) :=
  match path with
  | none => .done (.ok .empty)
  | some path =>
    (TextFile.load path).bind fun reply => .done <|
      match reply with
      | .error e => .error ("Failed to read params file " ++ path, [e.message])
      | .ok text =>
        match shape.ofYaml? text with
        | some (.object members) => .ok (.ofPairs members)
        | _ => .error ("Params file " ++ path ++ " is not a mapping", ["the text does not fit"])

/-- The overrides from a file, if there is one, and from the command line. -/
def ofParams (path : Option String) (params : List String) :
    Script (Except (String × List String) Store) :=
  (load path).bind fun loaded => .done <|
    match loaded with
    | .error e => .error e
    | .ok store =>
      match withParams store params with
      | .ok store => .ok store
      | .error message => .error (message, [])

end Overrides

namespace Command

/-- The outcome of a flow as a value: the store, or the result that ended it. -/
def resultOf : Outcome → Except String Value
  | .completed store => .ok store.toValue
  | .returned result => .ok result
  | .failed failure => .error failure.message
  | .aborted => .error "a delay is too long"

/-- The exit code of a process that is aborted. -/
def abortCode : Nat := 101

/-- Runs a flow over the secrets of a configuration. -/
def runFlow (config : Config) (w : Workflow) (overrides : Option Store) : Script Outcome :=
  (w.run config overrides).withSecrets config.database.secrets

/-! ## One flow -/

/-- The report of a single flow. -/
def flowReport (w : Workflow) (outcome : Outcome) : Report :=
  match outcome, resultOf outcome with
  | .aborted, _ => ⟨abortCode, "", "a delay is too long\n"⟩
  | _, .ok result => .passed (result.pretty ++ "\n")
  | _, .error message => ⟨1, "", "✗ " ++ w.displayName ++ ": " ++ message ++ "\n"⟩

/-- Runs the flow in a file. -/
def runFile (file : String) (params : List String) (paramsFile config : Option String) :
    Script Report :=
  .ask (.fileKind file) fun kind =>
    if kind.isNone then .done (.broken "" ("Flow file not found: " ++ file) [])
    else
      (Loading.loadFile file).bind fun loaded =>
        match loaded with
        | .error e => .done (.unloaded "" e)
        | .ok w =>
          (Overrides.ofParams paramsFile params).bind fun overrides =>
            match overrides with
            | .error (message, causes) => .done (.broken "" message causes)
            | .ok overrides =>
              (Config.load config).bind fun config =>
                match config with
                | .error (message, causes) => .done (.broken "" message causes)
                | .ok config =>
                  (runFlow config w (some overrides)).bind fun outcome =>
                    .done (flowReport w outcome)

/-! ## The flows in a directory -/

/-- How the flows in a directory went. -/
structure Tally where
  passed : Nat
  failed : Nat
  aborted : Bool
  output : String

/-- The tally before the first flow. -/
def Tally.start : Tally := ⟨0, 0, false, ""⟩

/-- The tally after a flow with a path. -/
def Tally.add (t : Tally) (path : String) (w : Workflow) (outcome : Outcome) : Tally :=
  match outcome, resultOf outcome with
  | .aborted, _ => { t with aborted := true }
  | _, .ok _ => { t with
      passed := t.passed + 1
      output := t.output ++ "  ✓ " ++ w.displayName ++ "\n" }
  | _, .error message => { t with
      failed := t.failed + 1
      output := t.output ++ "  ✗ " ++ w.displayName ++ " (" ++ path ++ ")\n      Error: " ++
        message ++ "\n" }

/-- Whether no further flow is run after a tally. -/
def Tally.stops (t : Tally) (failFast : Bool) : Bool :=
  t.aborted || (failFast && t.failed != 0)

/-- Runs flows in order onto a tally. -/
def runFlows (config : Config) (failFast : Bool) (t : Tally) :
    List (String × Workflow) → Script Tally
  | [] => .done t
  | (path, w) :: rest =>
    (runFlow config w none).bind fun outcome =>
      let t := t.add path w outcome
      if t.stops failFast then .done t else runFlows config failFast t rest

/-- The report of a tally over so many flows, after what has been said before. -/
def tallyReport (before : String) (flows : Nat) (t : Tally) : Report :=
  if t.aborted then ⟨abortCode, before ++ t.output, "a delay is too long\n"⟩
  else
    let skipped := flows - t.passed - t.failed
    let verdict := if t.failed = 0 then "PASS" else "FAIL"
    let code := if t.failed = 0 then 0 else 1
    ⟨code, before ++ t.output ++ "\n=== Results ===\n\nOverall: " ++ verdict ++ "\nPassed: " ++
      toString t.passed ++ ", Failed: " ++ toString t.failed ++ ", Skipped: " ++
      toString skipped ++ "\n", ""⟩

/-- Runs the flows in a directory under a configuration, after what has been said before. -/
def runLoaded (before directory : String) (config : Config) (failFast : Bool) : Script Report :=
  (Loading.loadDirectory directory).bind fun loaded =>
    match loaded with
    | .error e => .done (.unloaded before e)
    | .ok flows =>
      (runFlows config failFast .start flows).bind fun t =>
        .done (tallyReport before flows.length t)

/-- Runs the flows in a directory. -/
def runDirectoryFlows (directory : String) (config : Option String) (failFast : Bool) :
    Script Report :=
  .ask (.fileKind directory) fun kind =>
    if kind.isNone then .done (.broken "" ("Directory not found: " ++ directory) [])
    else
      let before := "Running flows from: " ++ directory ++ "\n\n"
      let file := config.getD (Loading.join directory "runner.yaml")
      .ask (.fileKind file) fun kind =>
        if kind.isNone then runLoaded before directory {} failFast
        else
          let before := before ++ "Using config: " ++ file ++ "\n\n"
          (Config.load (some file)).bind fun config =>
            match config with
            | .error (message, causes) => .done (.broken before message causes)
            | .ok config => runLoaded before directory config failFast

/-! ## Looking at flows -/

/-- What is said when there are no flows at a path. -/
def noFlows (path : String) : Report :=
  .passed ("No flows found in: " ++ path ++ "\n")

/-- The line of a flow in a listing. -/
def listLine (path : String) (w : Workflow) : String :=
  "  " ++ w.displayName ++ " (" ++ toString w.steps.length ++ " steps) [" ++
    String.ofList ((Loading.fileName? path).getD []) ++ "]\n"

/-- Lists the flows in a directory. -/
def listFlows (directory : String) : Script Report :=
  .ask (.fileKind directory) fun kind =>
    if kind.isNone then .done (.broken "" ("Directory not found: " ++ directory) [])
    else
      (Loading.loadDirectory directory).bind fun loaded => .done <|
        match loaded with
        | .error e => .unloaded "" e
        | .ok [] => noFlows directory
        | .ok flows =>
          .passed ("Flows in " ++ directory ++ ":\n\n" ++
            String.join (flows.map fun flow => listLine flow.1 flow.2))

/-- What is said about the steps of a flow that cannot be routed. -/
def verdictLines (path : String) (w : Workflow) : String :=
  match w.unroutable with
  | [] => "✓ " ++ path ++ " is valid\n"
  | problems =>
    "✗ " ++ path ++ "\n" ++ String.join (problems.map fun problem =>
      "      step " ++ toString (problem.1 + 1) ++ ": " ++ problem.2.message ++ "\n")

/-- The report of looking at flows. -/
def verdictReport (path : String) : Except LoadError (List (String × Workflow)) → Report
  | .error e => .unloaded "" e
  | .ok [] => noFlows path
  | .ok flows =>
    let valid := flows.all fun flow => flow.2.unroutable.isEmpty
    ⟨if valid then 0 else 1, String.join (flows.map fun flow => verdictLines flow.1 flow.2), ""⟩

/-- Looks at the flows at a path without running them. -/
def validateFlows (path : String) : Script Report :=
  .ask (.fileKind path) fun kind =>
    match kind with
    | none => .done (.broken "" ("Path not found: " ++ path) [])
    | some .directory => (Loading.loadDirectory path).bind fun loaded =>
      .done (verdictReport path loaded)
    | some _ => (Loading.loadFile path).bind fun loaded =>
      .done (verdictReport path (loaded.map fun w => [(path, w)]))

/-! ## All commands -/

/-- The name and version of the program. -/
def versionText : String := "testing-flows 0.1.0\n"

/-- How the program is used. -/
def helpText : String :=
  "Run declarative test flows\n\n" ++
  "Usage: testing-flows [OPTIONS] <COMMAND>\n\n" ++
  "Commands:\n" ++
  "  run       Run a single flow file\n" ++
  "  run-dir   Run every flow in a directory, one after another\n" ++
  "  list      List flows in a directory\n" ++
  "  validate  Validate flow files without running them\n"

/-- The program of a command. -/
def script : Command → Script Report
  | .run file params paramsFile config => runFile file params paramsFile config
  | .runDirectory directory config failFast => runDirectoryFlows directory config failFast
  | .list directory => listFlows directory
  | .validate path => validateFlows path
  | .version => .done (.passed versionText)
  | .help => .done (.passed helpText)

/-- The program for arguments; ones that do not make sense are answered with how the program is
used. -/
def scriptOf (args : List String) : Script Report :=
  match Arguments.parse? args with
  | some command => command.script
  | none => .done ⟨2, "", helpText⟩

end Command

end FlowRunner
