/-!
# Failures of backends

What a backend reports when it does not answer as wished, each with a text of its own, and the
failures of the file system.
-/

namespace FlowRunner

/-- Why a backend did not do what it was asked. -/
inductive BackendError
  | startup (text : String)
  | timeout (text : String)
  | server (text : String)
  | serialization (text : String)
  | io (text : String)
  | unsupported (text : String)
  | database (text : String)
  | cloud (text : String)
  | messaging (text : String)
  | config (text : String)
  deriving DecidableEq, Repr

namespace BackendError

/-- The wording of the failure. -/
def message : BackendError → String
  | .startup text => "Failed to start client: " ++ text
  | .timeout text => "Timed out: " ++ text
  | .server text => "Server error: " ++ text
  | .serialization text => "Serialization error: " ++ text
  | .io text => "IO error: " ++ text
  | .unsupported text => "Unsupported action: " ++ text
  | .database text => "Database error: " ++ text
  | .cloud text => "Cloud error: " ++ text
  | .messaging text => "Messaging error: " ++ text
  | .config text => "Configuration error: " ++ text

/-- Whether the same call could succeed another time. -/
def retryable : BackendError → Bool
  | .unsupported _ => false
  | .config _ => false
  | _ => true

/-! ## Backends that are not there -/

/-- The failure of a database that cannot be reached. -/
def noDatabase : BackendError :=
  .database "error communicating with database: Network is unreachable (os error 101)"

/-- The failure of cloud calls where there are no cloud services. -/
def noCloud : BackendError :=
  .config "cloud operations require the \x60aws\x60 feature"

/-- The failure of event calls where there are no events. -/
def noEvents : BackendError :=
  .config "messaging requires the \x60kafka\x60 feature"

end BackendError

/-- Why a file or a directory could not be used. -/
inductive FileError
  | notFound
  | notDirectory
  | isDirectory
  | nameTooLong
  | nulInName
  | notText
  | other (text : String)
  deriving DecidableEq, Repr

/-- The wording of the failure. -/
def FileError.message : FileError → String
  | .notFound => "No such file or directory (os error 2)"
  | .notDirectory => "Not a directory (os error 20)"
  | .isDirectory => "Is a directory (os error 21)"
  | .nameTooLong => "File name too long (os error 36)"
  | .nulInName => "file name contained an unexpected NUL byte"
  | .notText => "stream did not contain valid UTF-8"
  | .other text => text

/-- The failure that a code of the operating system stands for. -/
def FileError.ofCode (code : Nat) (details : String) : FileError :=
  match code with
  | 2 => .notFound
  | 20 => .notDirectory
  | 21 => .isDirectory
  | 36 => .nameTooLong
  | _ => .other (details ++ " (os error " ++ toString code ++ ")")

end FlowRunner
