import FlowRunner.Backend.Effect
import FlowRunner.Json.Printer
import FlowRunner.Text.Case

/-!
# Requests

What is handed to an HTTP client for a method, a URL, a mapping of headers and a body. A body that
is text is sent as it is, any other one as JSON, with the matching content type unless the headers
name one. Whether a URL or a header is legal is for the client to say.
-/

namespace FlowRunner.HttpRequest

/-- The methods that can be used. -/
def methods : List String :=
  ["GET", "POST", "PUT", "PATCH", "DELETE"]

/-- The method of a name in any case. -/
def method? (name : String) : Option String :=
  let upper := String.ofList (Text.upper name.toList)
  if methods.contains upper then some upper else none

/-- The headers that a mapping sets; null sets none. -/
def headersOf (mapping : List (String × Value)) : List (String × String) :=
  mapping.filterMap fun (name, v) => if v.isNull then none else some (name, v.plain)

/-- Whether a name is the one of the content type. -/
def isContentType (name : String) : Bool :=
  Text.sameLetters name "content-type"

/-- Whether a mapping sets the content type. -/
def namesContentType (mapping : List (String × Value)) : Bool :=
  (headersOf mapping).any fun header => isContentType header.1

/-- The body that is sent, and whether it is JSON. -/
def bodyOf : Option Value → Option String × Bool
  | none => (none, false)
  | some .null => (none, false)
  | some (.text s) => (some s, false)
  | some v => (some v.compact, true)

/-- The request for a method, a URL, a mapping of headers and a body. -/
def prepare (method url : String) (mapping : List (String × Value)) (body : Option Value) :
    HttpRequest where
  method
  url
  headers := headersOf mapping ++
    if (bodyOf body).2 && !namesContentType mapping then [("content-type", "application/json")]
    else []
  body := (bodyOf body).1

end FlowRunner.HttpRequest
