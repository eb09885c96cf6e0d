import FlowRunner.Http.Exchange
import FlowRunner.Run.Program

/-!
# Operations on APIs

`get` asks for the end point followed by the value parameters; `post`, `put`, `patch` and `delete`
send the body to the end point; `graphql` posts the query and the variables of the body. The
response has to have the expected status, and its part of interest is the result.
-/

namespace FlowRunner

namespace Api

/-- The status expected when a step names none. -/
def defaultStatus : Nat := 200

/-- How much of a body is quoted in a failure. -/
def excerptLimit : Nat := 200

/-- The headers of a step: its own, or a content type when it has none. -/
def headersOf (step : Step) : List (String × Value) :=
  match step.get? "header" with
  | some (.object headers) => headers
  | _ => [("content-type", .text "application/json")]

/-- The status that a step expects. -/
def statusOf (step : Step) : Nat :=
  ((step.natural? "status").filter (Reading.fits 16)).getD defaultStatus

/-- The URL a step names. -/
def endPoint (step : Step) : Program String :=
  Program.required step "end point"

/-- Sends a request for a step; the result is the part of interest of the response's body. -/
def send (step : Step) (method url : String) (headers : List (String × Value))
    (body : Option Value) : Program Value := do
  let response ← Program.backend (HttpRequest.exchange method url headers body)
  let expected := statusOf step
  if response.status = expected then return response.body.unwrapped
  else
    Program.fail
      (.status expected response.status url (response.body.excerpt excerptLimit))

/-- What a GraphQL request sends of a body. -/
def graphqlBody (body : Value) : Value :=
  .object [
    ("query", (body.member? "query").getD .null),
    ("variables", (body.member? "variables").getD .null)]

/-- The headers of a GraphQL request: the content type is always JSON. -/
def graphqlHeaders (headers : List (String × Value)) : List (String × Value) :=
  Members.put "Content-Type" (.text "application/json")
    (headers.filter fun header => !HttpRequest.isContentType header.1)

/-- Posts a GraphQL request. -/
def graphql (step : Step) : Program Value := do
  let body ← Program.need (step.get? "body") (.missingParameter "body")
  let url ← endPoint step
  send step "POST" url (graphqlHeaders (headersOf step)) (some (graphqlBody body))

/-- Sends the body of a step to its end point. -/
def sendBody (step : Step) (method : String) : Program Value := do
  let url ← endPoint step
  send step method url (headersOf step) (step.get? "body")

/-- Runs an action. -/
def run (step : Step) (action : String) : Program Value :=
  match action with
  | "get" => do
    let url ← endPoint step
    send step "GET" (url ++ (step.text? "value_params").getD "") (headersOf step) none
  | "post" => sendBody step "POST"
  | "put" => sendBody step "PUT"
  | "patch" => sendBody step "PATCH"
  | "delete" => sendBody step "DELETE"
  | "graphql" => graphql step
  | other => Program.fail (.routing (.unsupported .api other))

end Api

end FlowRunner
