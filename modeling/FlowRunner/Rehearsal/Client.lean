import FlowRunner.Backend.Effect
import FlowRunner.Rehearsal.Client.Url
import FlowRunner.Text.Utf8

/-!
# The HTTP client of rehearsals

A stand-in for a real client, as far as rehearsals need one: it writes URLs out in full, refuses
requests that cannot be put together, and reads bodies as UTF-8. User names and passwords in URLs,
other character sets and redirections are beyond it. Programs do not rely on any of this: they take
what a client makes of a request as its reply.
-/

namespace FlowRunner

/-- What comes back over a network. -/
inductive NetworkReply
  | answer (status : Nat) (body : ByteArray)
  /-- No answer before the client gives up. -/
  | hangs

namespace HttpRequest

/-- Whether a character may stand in the name of a header. -/
def isNameChar (c : Char) : Bool :=
  c.isAlphanum || "!#$%&'*+-.^_\x60|~".toList.contains c

/-- Whether a header is legal: its name is a word, and its value holds no control character but
tabs. -/
def isLegalHeader (name value : String) : Bool :=
  !name.isEmpty && name.toList.all isNameChar &&
    value.toList.all fun c => c == '\t' || !Percent.isControl c

/-- The request as it goes out, with its URL in full, or why it cannot go out. -/
def written (request : HttpRequest) : Except String HttpRequest := do
  let url ←
    match Url.ofText? request.url with
    | some u => .ok u
    | none => .error "builder error"
  let badScheme := "builder error for url (" ++ url.text ++ ")"
  if (url.authority.getD "").isEmpty then throw badScheme
  if request.headers.any fun header => !isLegalHeader header.1 header.2 then
    throw "builder error"
  if url.scheme != "http" && url.scheme != "https" then throw badScheme
  return { request with url := url.text }

/-- What is said of a request that went out and got no answer. -/
def unanswered (request : HttpRequest) : HttpFailure :=
  .failed ("error sending request for url (" ++ request.url ++ ")")

end HttpRequest

namespace NetworkReply

/-- The text of a body. Bytes that are no text are replaced, and a mark of the byte order is
dropped. -/
def textOf (body : ByteArray) : String :=
  let text := Text.ofBytesLossy body
  match text.toList with
  | c :: rest => if c.toNat = 0xFEFF then String.ofList rest else text
  | [] => text

/-- The reply as the client gives it. -/
def read : NetworkReply → Except HttpFailure HttpReply
  | answer status body => .ok ⟨status, .ok (textOf body)⟩
  | hangs => .error .timedOut

end NetworkReply

end FlowRunner
