import FlowRunner.Command.Report

/-!
# The program

Carries out a command with the files and the clock of the machine. Secrets are those of the
configuration. Databases, cloud services, events and the network are not within reach of this
program; what asks for them fails as it does where there are none.
-/

namespace FlowRunner

/-- The failure that an exception stands for. Its code may be the negative of the system's code. -/
def FileError.ofException : IO.Error → FileError
  | .noFileOrDirectory _ code details => ofWord code details
  | .inappropriateType _ code details => ofWord code details
  | .invalidArgument _ code details => ofWord code details
  | .permissionDenied _ code details => ofWord code details
  | .otherError code details => ofWord code details
  | e => .other (toString e)
where
  /-- The failure of a code in either sign. -/
  ofWord (code : UInt32) (details : String) : FileError :=
    .ofCode (min code.toNat (UInt32.size - code.toNat)) details

namespace Machine

/-- Does something with a path, unless no file can have that name. -/
def atPath {α : Type} (path : String) (action : IO α) : IO (Except FileError α) := do
  if path.isEmpty then return .error .notFound
  else if path.toList.contains (Char.ofNat 0) then return .error .nulInName
  else
    try
      return .ok (← action)
    catch e => return .error (.ofException e)

/-- The kind of what stands at a path. -/
def kindAt (path : String) : IO (Option FileKind) := do
  let here ← IO.currentDir
  match ← atPath path (here / path).metadata with
  | .ok found =>
    match found.type with
    | .file => return some .file
    | .dir => return some .directory
    | _ => return some .other
  | .error _ => return none

/-- The names in a directory. -/
def namesIn (path : String) : IO (Except FileError (List String)) := do
  let here ← IO.currentDir
  atPath path do
    let entries ← (here / path).readDir
    return entries.toList.map (·.fileName)

/-- Waits for so many milliseconds, at most a day at a time. -/
def wait (millis : Nat) : IO Unit := do
  let day := 86400000
  for _ in [0 : millis / day] do
    IO.sleep (UInt32.ofNat day)
  IO.sleep (UInt32.ofNat (millis % day))

/-- Answers an effect. -/
def answer (effect : Effect) : IO effect.Reply :=
  match effect with
  | .fetchSecret name _ => return Secrets.fetch [] name
  | .fetchFirst .. => return .error .noDatabase
  | .execute .. => return .error .noDatabase
  | .putObject .. => return .error .noCloud
  | .getObject .. => return .error .noCloud
  | .submitJob .. => return .error .noCloud
  | .jobStatus .. => return .error .noCloud
  | .cancelJob .. => return .error .noCloud
  | .terminateJob .. => return .error .noCloud
  | .invokeFunction .. => return .error .noCloud
  | .sendMessages .. => return .error .noCloud
  | .receiveMessages .. => return .error .noCloud
  | .startQuery .. => return .error .noCloud
  | .queryState .. => return .error .noCloud
  | .queryRows .. => return .error .noCloud
  | .publish .. => return .error .noEvents
  | .subscribe .. => return .error .noEvents
  | .nextEvent _ => return .error .noEvents
  | .close => return .error .noEvents
  | .request r => return .error (.failed ("error sending request for url (" ++ r.url ++ ")"))
  | .readFile path => atPath path (IO.FS.readBinFile path)
  | .writeFile path content => atPath path (IO.FS.writeBinFile path content)
  | .fileKind path => kindAt path
  | .listDirectory path => namesIn path
  | .sleep time => wait time.millisUp

end Machine

end FlowRunner

/-- Carries out the command that the arguments give. -/
def main (args : List String) : IO UInt32 := do
  let report ← (FlowRunner.Command.scriptOf args).runM FlowRunner.Machine.answer
  IO.print report.output
  IO.eprint report.errors
  return UInt32.ofNat report.code
