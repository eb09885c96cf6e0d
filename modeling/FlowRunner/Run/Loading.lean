import FlowRunner.Flow.Workflow
import FlowRunner.Operation.File

/-!
# Loading workflows

A file holds one workflow, in JSON when its name ends in `.json` and in YAML otherwise. Of a
directory, the files whose names end in `.yaml`, `.yml` or `.json` are workflows, but for the
configuration of the runner; they are loaded in the order of their paths.

`Loading.chosen` is the choice and the order of the files; it does not depend on the order in which
the directory gives them.
-/

namespace FlowRunner

/-- Why a workflow is not loaded. -/
inductive LoadError
  | file (error : FileError)
  | yaml (path : String)
  | json (path : String) (fault : Json.Fault)
  deriving DecidableEq, Repr

namespace LoadError

/-- What is said of the place where a JSON text breaks. -/
def faultText : Json.Fault → String
  | .malformed => "malformed text"
  | .truncated => "the text ends early"
  | .mismatched => "the data does not fit"

/-- The wording of the error. -/
def message : LoadError → String
  | .file error => "IO error: " ++ error.message
  | .yaml path => "YAML parse error in " ++ path ++ ": the text does not fit"
  | .json path fault => "JSON parse error in " ++ path ++ ": " ++ faultText fault

/-- The causes of the error, each with its own wording. -/
def causes : LoadError → List String
  | .file error => [error.message]
  | _ => []

end LoadError

namespace Loading

/-- The last name of a path; none when the path ends by going up. -/
def fileName? (path : String) : Option (List Char) :=
  let names := (Text.splitOn '/' path.toList).filter fun name =>
    !(name.isEmpty || name == ['.'])
  names.getLast?.filter fun name => name != ['.', '.']

/-- What follows the last dot of a file's name, in lower case; a name that only starts with a dot
has none. -/
def extension? (path : String) : Option String := do
  let name ← fileName? path
  let (before, after) ← Text.cutLast? '.' name
  if before.isEmpty then none else some (String.ofList (after.map Char.toLower))

/-- A name in a directory. -/
def join (directory name : String) : String :=
  if directory.isEmpty || directory.endsWith "/" then directory ++ name
  else directory ++ "/" ++ name

/-- Whether a name is the one of the runner's configuration. -/
def isConfig (name : String) : Bool :=
  name == "runner.yaml" || name == "runner.yml"

/-- Whether a file of a name is a workflow. -/
def isWorkflow (name : String) : Bool :=
  !isConfig name && ["yaml", "yml", "json"].contains ((extension? name).getD "")

/-- The names of the workflows among the names of files, in order. -/
def chosen (names : List String) : List String :=
  (names.filter isWorkflow).mergeSort fun a b => decide (a ≤ b)

/-- The workflow of a file's text. -/
def parse (path text : String) : Except LoadError Workflow :=
  if extension? path == some "json" then
    match Workflow.ofJson text with
    | .ok w => .ok w
    | .error fault => .error (.json path fault)
  else
    match Workflow.ofYaml? text with
    | some w => .ok w
    | none => .error (.yaml path)

/-- Loads the workflow in a file. -/
def loadFile (path : String) : Script (Except LoadError Workflow) :=
  (TextFile.load path).bind fun reply => .done <|
    match reply with
    | .ok text => parse path text
    | .error e => .error (.file e)

/-- Loads the workflows in files, each with its path, up to the first one that fails. -/
def loadFiles : List String → Script (Except LoadError (List (String × Workflow)))
  | [] => .done (.ok [])
  | path :: rest =>
    (loadFile path).bind fun loaded =>
      match loaded with
      | .error e => .done (.error e)
      | .ok w => (loadFiles rest).bind fun others =>
        .done (others.map fun others => (path, w) :: others)

/-- Those of some names in a directory that are names of files. -/
def filesAmong (directory : String) : List String → Script (List String)
  | [] => .done []
  | name :: rest => .ask (.fileKind (join directory name)) fun kind =>
    (filesAmong directory rest).bind fun others =>
      .done (if kind == some .file then name :: others else others)

/-- Loads the workflows in a directory, each with its path. -/
def loadDirectory (directory : String) : Script (Except LoadError (List (String × Workflow))) :=
  .ask (.listDirectory directory) fun listing =>
    match listing with
    | .error e => .done (.error (.file e))
    | .ok names =>
      (filesAmong directory names).bind fun files =>
        loadFiles ((chosen files).map (join directory))

end Loading

end FlowRunner
