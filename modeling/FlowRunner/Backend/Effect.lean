import FlowRunner.Backend.Connection
import FlowRunner.Backend.Error
import FlowRunner.Backend.Patience
import FlowRunner.Json.Value

/-!
# What a program may ask for

A program of this library does nothing to the outside by itself. It asks for effects, one after
another, and goes on with the replies. `Effect` lists what can be asked for, `Effect.Reply` the type
of the answer, and `Script` is a program that asks.
-/

namespace FlowRunner

/-- A batch job to submit. -/
structure BatchJob where
  name : String
  queue : String
  definition : String
  /-- The command to run in place of the one of the definition. -/
  command : Option (List String)
  deriving DecidableEq, Repr

/-- An analytics query to start. -/
structure Query where
  text : String
  database : String
  /-- Where the result goes. -/
  outputLocation : String
  deriving DecidableEq, Repr

/-- How far a query has come. -/
inductive QueryState
  | queued
  | running
  | succeeded
  | failed
  | cancelled
  deriving DecidableEq, Repr

/-- What a statement that writes has done. -/
structure WriteSummary where
  rowsAffected : Nat
  lastInsertId : Nat
  deriving DecidableEq, Repr

/-- A request as it is handed to an HTTP client, with its headers in the order in which they are
added. -/
structure HttpRequest where
  method : String
  url : String
  headers : List (String × String)
  body : Option String
  deriving DecidableEq, Repr

/-- The answer to a request: its status, and the text of its body or why that cannot be read. -/
structure HttpReply where
  status : Nat
  body : Except String String

/-- Why a request has no answer. -/
inductive HttpFailure
  /-- The client can make no request of it, and sends nothing. -/
  | refused (text : String)
  /-- The answer did not come in time. -/
  | timedOut
  | failed (text : String)
  deriving DecidableEq, Repr

/-- What comes of waiting for the next item of a subscription, with some patience. -/
inductive Arrival (left : Patience)
  /-- An event, after some time, with so many more items at hand. -/
  | event (value : Value) (spent : Duration) (atHand : Nat) (h : left.Allows spent atHand)
  /-- The stream of events has ended. -/
  | ended
  /-- The time is up. -/
  | late

/-- An event that comes after some time; it is late when patience does not allow for it. -/
def Arrival.ofEvent (left : Patience) (value : Value) (spent : Duration) (atHand : Nat) :
    Arrival left :=
  if h : left.Allows spent atHand then .event value spent atHand h else .late

/-- The kind of a file. -/
inductive FileKind
  | file
  | directory
  | other
  deriving DecidableEq, Repr

/-- Something a program asks for. Times of statements and waits of queues are in seconds. -/
inductive Effect
  | fetchSecret (name : String) (role : Option String)
  | fetchFirst (connection : Connection) (sql : String) (timeout : Nat)
  | execute (connection : Connection) (sql : String) (timeout : Nat)
  | putObject (bucket key : String) (body : ByteArray) (role : Option String)
  | getObject (bucket key : String) (role : Option String)
  | submitJob (job : BatchJob) (role : Option String)
  | jobStatus (id : String) (role : Option String)
  | cancelJob (id reason : String) (role : Option String)
  | terminateJob (id reason : String) (role : Option String)
  | invokeFunction (name kind : String) (payload : Value) (role : Option String)
  | sendMessages (queue : String) (messages : List String) (role : Option String)
  | receiveMessages (queue : String) (most wait : Nat) (role : Option String)
  | startQuery (query : Query) (role : Option String)
  | queryState (id : String) (role : Option String)
  | queryRows (id : String) (role : Option String)
  | publish (topic : String) (event : Value)
  /-- Joins a group on a topic. -/
  | subscribe (topic group : String)
  /-- Waits for the next item of the subscription. -/
  | nextEvent (left : Patience)
  /-- Leaves the group. -/
  | close
  | request (request : HttpRequest)
  | readFile (path : String)
  | writeFile (path : String) (content : ByteArray)
  /-- The kind of what stands at a path. -/
  | fileKind (path : String)
  /-- The names in a directory. -/
  | listDirectory (path : String)
  | sleep (time : Duration)

namespace Effect

/-- The type of the answer to an effect. -/
abbrev Reply : Effect → Type
  | fetchSecret .. => Except BackendError (List (String × Value))
  | fetchFirst .. => Except BackendError (Option (List (String × Value)))
  | execute .. => Except BackendError WriteSummary
  | putObject .. => Except BackendError Unit
  | getObject .. => Except BackendError String
  | submitJob .. => Except BackendError String
  | jobStatus .. => Except BackendError (Option String)
  | cancelJob .. => Except BackendError Unit
  | terminateJob .. => Except BackendError Unit
  | invokeFunction .. => Except BackendError Value
  | sendMessages .. => Except BackendError Unit
  | receiveMessages .. => Except BackendError (List String)
  | startQuery .. => Except BackendError String
  | queryState .. => Except BackendError QueryState
  | queryRows .. => Except BackendError (List (List (Option String)))
  | publish .. => Except BackendError Unit
  | subscribe .. => Except BackendError Unit
  | nextEvent left => Except BackendError (Arrival left)
  | close => Except BackendError Unit
  | request .. => Except HttpFailure HttpReply
  | readFile .. => Except FileError ByteArray
  | writeFile .. => Except FileError Unit
  | fileKind .. => Option FileKind
  | listDirectory .. => Except FileError (List String)
  | sleep .. => Unit

end Effect

/-- A program: a value, or an effect to ask for and what to do with the reply. -/
inductive Script (α : Type) : Type
  | done (value : α)
  | ask (effect : Effect) (next : effect.Reply → Script α)

namespace Script

/-- A program and then another one that depends on its value. -/
def bind {α β : Type} : Script α → (α → Script β) → Script β
  | done value, f => f value
  | ask effect next, f => ask effect fun reply => (next reply).bind f

instance : Monad Script where
  pure := done
  bind := bind

/-- The program that asks for one effect. -/
def of (effect : Effect) : Script effect.Reply :=
  ask effect done

/-- Runs a program over a state that answers the effects. -/
def run {σ α : Type} (answer : (effect : Effect) → σ → effect.Reply × σ) :
    Script α → σ → α × σ
  | done value, s => (value, s)
  | ask effect next, s =>
    let (reply, t) := answer effect s
    (next reply).run answer t

/-- Runs a program in a monad that answers the effects. -/
def runM {m : Type → Type} [Monad m] {α : Type} (answer : (effect : Effect) → m effect.Reply) :
    Script α → m α
  | done value => pure value
  | ask effect next => do
    let reply ← answer effect
    (next reply).runM answer

@[simp] theorem done_bind {α β : Type} (value : α) (f : α → Script β) :
    (done value).bind f = f value := rfl

@[simp] theorem ask_bind {α β : Type} (effect : Effect) (next : effect.Reply → Script α)
    (f : α → Script β) : (ask effect next).bind f = ask effect fun reply => (next reply).bind f :=
  rfl

theorem bind_assoc {α β γ : Type} (p : Script α) (f : α → Script β) (g : β → Script γ) :
    (p.bind f).bind g = p.bind fun value => (f value).bind g := by
  induction p with
  | done value => rfl
  | ask effect next ih => simp [ih]

theorem run_bind {σ α β : Type} (answer : (effect : Effect) → σ → effect.Reply × σ)
    (p : Script α) (f : α → Script β) (s : σ) :
    (p.bind f).run answer s =
      (f (p.run answer s).1).run answer (p.run answer s).2 := by
  induction p generalizing s with
  | done value => rfl
  | ask effect next ih => simp [run, ih]

end Script

end FlowRunner
