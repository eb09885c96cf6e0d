import FlowRunner.Backend.Error
import FlowRunner.Config
import FlowRunner.Text.Cut

/-!
# Cloud credentials

Outside of CI the named profile is used. In CI a shared cross role is assumed first and then, when
the step asks for one, its access role.
-/

namespace FlowRunner

/-- Where the credentials of a call come from. -/
inductive Credentials
  | profile (name : String)
  | roles (cross : String) (access : Option String)
  deriving DecidableEq, Repr

namespace Credentials

/-- The full name of a role of an account; a name that is full already stays. -/
def roleName (account role : String) : String :=
  if role.startsWith "arn:" then role else "arn:aws:iam::" ++ account ++ ":role/" ++ role

/-- A text with every occurrence of a part replaced; the part is not empty. -/
def replaceAll (part replacement : List Char) : (fuel : Nat) → List Char → List Char
  | 0, s => s
  | _ + 1, [] => []
  | fuel + 1, c :: rest =>
    match Text.after? part (c :: rest) with
    | some after => replacement ++ replaceAll part replacement fuel after
    | none => c :: replaceAll part replacement fuel rest

/-- A variable that has to be set, and not to the empty text. -/
def required (env : String → Option String) (name : String) : Except BackendError String :=
  match (env name).filter fun value => !value.isEmpty with
  | some value => .ok value
  | none => .error (.config (name ++ " must be set in CI"))

/-- The credentials for a call with an access role, in an environment. -/
def resolve (config : Config.Aws) (accessRole : Option String) (env : String → Option String) :
    Except BackendError Credentials :=
  if env config.ciEnv != some "true" then .ok (.profile config.profile)
  else do
    let account ← required env config.accountEnv
    let group ← required env config.groupEnv
    let mark := "\x7bgroup\x7d".toList
    let pattern := config.crossRole.toList
    let cross := String.ofList (replaceAll mark group.toList pattern.length pattern)
    let access := (accessRole.map Text.trimmed).filter fun role => !role.isEmpty
    .ok (.roles (roleName account cross) (access.map (roleName account)))

end Credentials

end FlowRunner
