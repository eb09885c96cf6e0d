import FlowRunner.Http.Request
import FlowRunner.Response.Body

/-!
# Exchanges

One request and its response, whatever the status of that is.
-/

namespace FlowRunner

/-- A response: its status and the value of its body. -/
structure HttpResponse where
  status : Nat
  body : Value

namespace HttpRequest

/-- What comes of a request. The failure of one that got no answer in time names the method and URL
as they were given; any other one has the text that the client gave. -/
def conclude (method url : String) :
    Except HttpFailure HttpReply → Except BackendError HttpResponse
  | .ok ⟨status, .ok text⟩ => .ok ⟨status, Value.ofBody text⟩
  | .ok ⟨_, .error text⟩ => .error (.server text)
  | .error .timedOut => .error (.timeout (method ++ " " ++ url))
  | .error (.refused text) => .error (.server text)
  | .error (.failed text) => .error (.server text)

/-- Sends a request, if its method is known, and gives its response. -/
def exchange (method url : String) (mapping : List (String × Value)) (body : Option Value) :
    Script (Except BackendError HttpResponse) :=
  match method? method with
  | none => .done (.error (.unsupported ("Unknown HTTP method: " ++ method)))
  | some known =>
    .ask (.request (prepare known url mapping body)) fun reply => .done (conclude method url reply)

end HttpRequest

end FlowRunner
