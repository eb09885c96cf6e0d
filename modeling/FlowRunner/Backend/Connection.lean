import FlowRunner.Number.Reading
import FlowRunner.Text.Cut
import FlowRunner.Text.Quoted

/-!
# Database connections

Where a database is and as whom to use it. A host may end in a colon and a port; otherwise the port
is 3306. The shown form never tells the password.
-/

namespace FlowRunner

/-- A database connection. -/
structure Connection where
  host : String
  port : Nat
  user : String
  password : String
  deriving DecidableEq, Repr

namespace Connection

/-- The port of a host that names none. -/
def defaultPort : Nat := 3306

/-- The connection to a host, which may name a port. -/
def toHost (host user password : String) : Connection :=
  let parts := do
    let (name, port) ← Text.cutLast? ':' host.toList
    let port ← Reading.natural? 16 port
    some (String.ofList name, port)
  match parts with
  | some (name, port) => ⟨name, port, user, password⟩
  | none => ⟨host, defaultPort, user, password⟩

/-- The form shown in messages. -/
def shown (c : Connection) : String :=
  "ConnectionSettings \x7b host: " ++ Text.quoted c.host ++ ", port: " ++ toString c.port ++
    ", user: " ++ Text.quoted c.user ++ ", password: \"***\" \x7d"

end Connection

end FlowRunner
