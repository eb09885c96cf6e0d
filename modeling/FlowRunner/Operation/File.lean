import FlowRunner.Run.Program
import FlowRunner.Text.Cut
import FlowRunner.Text.Utf8

/-!
# Operations on files

`read` gives the lines of a text file, so that a line break at its end is followed by one more,
empty line. `write` replaces a file by a text or by lines.
-/

namespace FlowRunner

namespace TextFile

/-- The lines of a text. -/
def linesOf (text : String) : List String :=
  (Text.splitOn '\n' text.toList).map String.ofList

/-- The text that a value writes: lines are joined, null and nothing are empty. -/
def contentOf : Option Value → String
  | none => ""
  | some .null => ""
  | some (.text s) => s
  | some (.list items) => "\n".intercalate (items.map Value.plain)
  | some v => v.compact

/-- The text of a file's bytes. -/
def decode (bytes : ByteArray) : Except FileError String :=
  match Text.ofBytes? bytes with
  | some text => .ok text
  | none => .error .notText

/-- Reads a text file. -/
def load (path : String) : Script (Except FileError String) :=
  (Script.of (.readFile path)).bind fun reply => .done (reply.bind decode)

/-- Runs an action. -/
def run (step : Step) (action : String) : Program Value :=
  match action with
  | "read" => do
    let path ← Program.required step "filename"
    let text ← Program.file path (load path)
    return .ofTexts (linesOf text)
  | "write" => do
    let path ← Program.required step "filename"
    let content := contentOf (step.get? "write_data")
    Program.file path (.of (.writeFile path (Text.bytesOf content)))
    return .null
  | other => Program.fail (.routing (.unsupported .file other))

end TextFile

end FlowRunner
